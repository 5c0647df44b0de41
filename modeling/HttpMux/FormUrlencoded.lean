import HttpMux.Bytes

/-!
# `HttpMux.FormUrlencoded`: names and values in a query

Pairs are separated by `&`, and a name and its value by the first `=`. A plus sign is a space, and
a percent sign with two hexadecimal digits is a byte.

- `FormUrlencoded.decode`: the pairs of a query.
- `FormUrlencoded.encode`: the query of a list of pairs.
-/

set_option autoImplicit false

namespace HttpMux.FormUrlencoded

/-- The value of a hexadecimal digit. -/
def hexDigit? (b : UInt8) : Option UInt8 :=
  if 0x30 ≤ b ∧ b ≤ 0x39 then some (b - 0x30)
  else if 0x41 ≤ b ∧ b ≤ 0x46 then some (b - 0x41 + 10)
  else if 0x61 ≤ b ∧ b ≤ 0x66 then some (b - 0x61 + 10)
  else none

/-- Decodes plus signs and percent signs. A percent sign without two digits stands for itself. -/
def unescape : Bytes → Bytes
  | [] => []
  | [b] => [if b = 0x2B then 0x20 else b]
  | [b, c] => (if b = 0x2B then 0x20 else b) :: unescape [c]
  | b :: c :: d :: rest =>
    if b = 0x25 then
      match hexDigit? c, hexDigit? d with
      | some x, some y => (x * 16 + y) :: unescape rest
      | _, _ => b :: unescape (c :: d :: rest)
    else (if b = 0x2B then 0x20 else b) :: unescape (c :: d :: rest)

/-- The text of an encoded name or value. -/
def decodePart (bs : Bytes) : String := Bytes.lossyText (unescape bs)

/-- The pair of one piece of a query. Without `=` the value is empty. -/
def decodePair (piece : Bytes) : String × String :=
  (decodePart (piece.takeWhile (· ≠ 0x3D)), decodePart ((piece.dropWhile (· ≠ 0x3D)).drop 1))

/-- The pairs of a query, in order. Empty pieces are passed over. -/
def decode (query : Bytes) : List (String × String) :=
  ((query.splitOn 0x26).filter (!·.isEmpty)).map decodePair

/-! ### Encoding -/

/-- Whether a byte is written as it is: an ASCII letter or digit, or one of `*`, `-`, `.`, `_`. -/
def isSafe (b : UInt8) : Bool :=
  (0x30 ≤ b && b ≤ 0x39) || (0x41 ≤ b && b ≤ 0x5A) || (0x61 ≤ b && b ≤ 0x7A) ||
    b = 0x2A || b = 0x2D || b = 0x2E || b = 0x5F

/-- The capital hexadecimal digit of a number below sixteen. -/
def hexDigit (n : UInt8) : UInt8 := if n < 10 then 0x30 + n else 0x41 + (n - 10)

/-- How a byte is written. -/
def escapeByte (b : UInt8) : Bytes :=
  if isSafe b then [b]
  else if b = 0x20 then [0x2B]
  else [0x25, hexDigit (b / 16), hexDigit (b % 16)]

/-- A name or a value in encoded form. -/
def encodePart (s : String) : Bytes := (Bytes.ofText s).flatMap escapeByte

/-- A pair in encoded form. -/
def encodePair (p : String × String) : Bytes := encodePart p.1 ++ 0x3D :: encodePart p.2

/-- The query of a list of pairs. -/
def encode (pairs : List (String × String)) : Bytes :=
  [(0x26 : UInt8)].intercalate (pairs.map encodePair)

end HttpMux.FormUrlencoded
