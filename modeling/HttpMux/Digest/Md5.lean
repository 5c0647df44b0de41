import HttpMux.Bytes

/-!
# `HttpMux.Digest.Md5`: the MD5 digest

The message is padded to blocks of 64 bytes with a bit and its length. Each block changes four
words in 64 rounds. The digest is the four words, least significant byte first.
-/

set_option autoImplicit false

namespace HttpMux.Md5

/-- The four words that the blocks of a message change. -/
structure Words where
  a : UInt32
  b : UInt32
  c : UInt32
  d : UInt32
  deriving DecidableEq

/-- The words before the first block. -/
def Words.initial : Words := ⟨0x67452301, 0xefcdab89, 0x98badcfe, 0x10325476⟩

/-- The constants that the rounds add. -/
def constants : Array UInt32 := #[
  0xd76aa478, 0xe8c7b756, 0x242070db, 0xc1bdceee, 0xf57c0faf, 0x4787c62a, 0xa8304613, 0xfd469501,
  0x698098d8, 0x8b44f7af, 0xffff5bb1, 0x895cd7be, 0x6b901122, 0xfd987193, 0xa679438e, 0x49b40821,
  0xf61e2562, 0xc040b340, 0x265e5a51, 0xe9b6c7aa, 0xd62f105d, 0x02441453, 0xd8a1e681, 0xe7d3fbc8,
  0x21e1cde6, 0xc33707d6, 0xf4d50d87, 0x455a14ed, 0xa9e3e905, 0xfcefa3f8, 0x676f02d9, 0x8d2a4c8a,
  0xfffa3942, 0x8771f681, 0x6d9d6122, 0xfde5380c, 0xa4beea44, 0x4bdecfa9, 0xf6bb4b60, 0xbebfbc70,
  0x289b7ec6, 0xeaa127fa, 0xd4ef3085, 0x04881d05, 0xd9d4d039, 0xe6db99e5, 0x1fa27cf8, 0xc4ac5665,
  0xf4292244, 0x432aff97, 0xab9423a7, 0xfc93a039, 0x655b59c3, 0x8f0ccc92, 0xffeff47d, 0x85845dd1,
  0x6fa87e4f, 0xfe2ce6e0, 0xa3014314, 0x4e0811a1, 0xf7537e82, 0xbd3af235, 0x2ad7d2bb, 0xeb86d391]

/-- The amounts that the rounds rotate by: four for each sixteen rounds, in turn. -/
def shifts : Array UInt32 := #[7, 12, 17, 22, 5, 9, 14, 20, 4, 11, 16, 23, 6, 10, 15, 21]

/-- A word rotated to the left. -/
def rotate (x n : UInt32) : UInt32 := (x <<< n) ||| (x >>> (32 - n))

/-- One round on a block of sixteen words. -/
def round (block : Array UInt32) (w : Words) (i : Nat) : Words :=
  let (f, g) :=
    if i < 16 then ((w.b &&& w.c) ||| (~~~w.b &&& w.d), i)
    else if i < 32 then ((w.d &&& w.b) ||| (~~~w.d &&& w.c), (5 * i + 1) % 16)
    else if i < 48 then (w.b ^^^ w.c ^^^ w.d, (3 * i + 5) % 16)
    else (w.c ^^^ (w.b ||| ~~~w.d), 7 * i % 16)
  let sum := f + w.a + constants.getD i 0 + block.getD g 0
  ⟨w.d, w.b + rotate sum (shifts.getD (i / 16 * 4 + i % 4) 0), w.b, w.c⟩

/-- The words after a block. -/
def absorb (w : Words) (block : Array UInt32) : Words :=
  let v := (List.range 64).foldl (round block) w
  ⟨w.a + v.a, w.b + v.b, w.c + v.c, w.d + v.d⟩

/-- `count` bytes of a number, least significant first. -/
def littleEndian : Nat → Nat → Bytes
  | 0, _ => []
  | count + 1, n => (n % 256).toUInt8 :: littleEndian count (n / 256)

/-- The message with its padding. -/
def padded (message : Bytes) : Bytes :=
  let n := message.length
  message ++ 0x80 :: List.replicate ((119 - n % 64) % 64) 0 ++ littleEndian 8 (n * 8 % Nat.pow 2 64)

/-- The words of a byte sequence, least significant byte first. -/
def wordsOf : Bytes → List UInt32
  | a :: b :: c :: d :: rest =>
    (a.toUInt32 ||| b.toUInt32 <<< 8 ||| c.toUInt32 <<< 16 ||| d.toUInt32 <<< 24) :: wordsOf rest
  | _ => []

/-- The blocks of sixteen words; `count` bounds their number. -/
def blocks : Nat → List UInt32 → List (Array UInt32)
  | 0, _ => []
  | count + 1, ws => (ws.take 16).toArray :: blocks count (ws.drop 16)

/-- The digest of a message. -/
def digest (message : Bytes) : Bytes :=
  let bytes := padded message
  let w := (blocks (bytes.length / 64) (wordsOf bytes)).foldl absorb Words.initial
  [w.a, w.b, w.c, w.d].flatMap fun x => littleEndian 4 x.toNat

end HttpMux.Md5
