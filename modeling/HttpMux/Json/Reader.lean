import HttpMux.Json.Number

/-!
# `HttpMux.Json.Reader`: reading a JSON text

- `Json.parse`: the value that a byte sequence spells, or the first error in it.

The reader goes forward one byte at a time. At most 127 arrays and objects may be open at once.
-/

set_option autoImplicit false

namespace HttpMux.Json

/-- How many arrays and objects may be open at once, plus one. -/
def depthLimit : Nat := 128

/-- Drops the white space in front: space, tab, line feed and carriage return. -/
def skipSpace (bs : Bytes) : Bytes :=
  bs.dropWhile fun b => b = 0x20 ∨ b = 0x0A ∨ b = 0x09 ∨ b = 0x0D

/-! ### Words and strings -/

/-- Reads the given bytes, the rest of a word such as `true`. -/
def readIdent {α : Type} (v : α) : Bytes → Bytes → Except Fault (α × Bytes)
  | [], rest => .ok (v, rest)
  | _ :: _, [] => failAt .endInValue []
  | x :: xs, b :: rest => if x = b then readIdent v xs rest else failAt .expectedIdent rest

/-- The value of a hexadecimal digit. -/
def hexDigit? (b : UInt8) : Option Nat :=
  if 0x30 ≤ b ∧ b ≤ 0x39 then some (b.toNat - 0x30)
  else if 0x41 ≤ b ∧ b ≤ 0x46 then some (b.toNat - 0x41 + 10)
  else if 0x61 ≤ b ∧ b ≤ 0x66 then some (b.toNat - 0x61 + 10)
  else none

/-- Reads four hexadecimal digits. -/
def readHex : Bytes → Except Fault (Nat × Bytes)
  | a :: b :: c :: d :: rest =>
    match hexDigit? a, hexDigit? b, hexDigit? c, hexDigit? d with
    | some a, some b, some c, some d => .ok (((a * 16 + b) * 16 + c) * 16 + d, rest)
    | _, _, _, _ => failAt .invalidEscape rest
  | _ => failAt .endInString []

/-- Reads the second half of a surrogate pair, from its backslash on. -/
def readLowHalf (high : Nat) : Bytes → Except Fault (Char × Bytes)
  | [] => failAt .endInString []
  | 0x5C :: [] => failAt .endInString []
  | 0x5C :: 0x75 :: rest => do
    let (low, rest) ← readHex rest
    if low < 0xDC00 ∨ 0xDFFF < low then failAt .loneSurrogate rest
    else .ok (Char.ofNat (0x10000 + (high - 0xD800) * 0x400 + (low - 0xDC00)), rest)
  | 0x5C :: _ :: rest => failAt .truncatedEscape rest
  | _ :: rest => failAt .truncatedEscape rest

/-- Reads a character given by number, after the letter of its escape. -/
def readNumbered (bs : Bytes) : Except Fault (Char × Bytes) := do
  let (n, rest) ← readHex bs
  if 0xDC00 ≤ n ∧ n ≤ 0xDFFF then failAt .loneSurrogate rest
  else if n < 0xD800 ∨ 0xDBFF < n then .ok (Char.ofNat n, rest)
  else readLowHalf n rest

/-- The character of a short escape. -/
def shortEscape? (b : UInt8) : Option Char :=
  if b = 0x22 then some '"'
  else if b = 0x5C then some '\\'
  else if b = 0x2F then some '/'
  else if b = 0x62 then some '\x08'
  else if b = 0x66 then some '\x0c'
  else if b = 0x6E then some '\n'
  else if b = 0x72 then some '\r'
  else if b = 0x74 then some '\t'
  else none

/-- Reads an escape, after its backslash. -/
def readEscape : Bytes → Except Fault (Char × Bytes)
  | [] => failAt .endInString []
  | b :: rest =>
    if b = 0x75 then readNumbered rest
    else match shortEscape? b with
      | some c => .ok (c, rest)
      | none => failAt .invalidEscape rest

/-- Reads the bytes of a string up to its closing quote; `read` holds, in reverse, those before. -/
def readStringBytes : Nat → Bytes → Bytes → Except Fault (Bytes × Bytes)
  | 0, _, _ => failAt .endInString []
  | _, _, [] => failAt .endInString []
  | fuel + 1, read, b :: rest =>
    if b = 0x22 then .ok (read.reverse, rest)
    else if b = 0x5C then do
      let (c, rest) ← readEscape rest
      readStringBytes fuel ((Bytes.ofText (String.ofList [c])).reverse ++ read) rest
    else if b < 0x20 then failAt .controlCharacter rest
    else readStringBytes fuel (b :: read) rest

/-- Reads a string, after its opening quote. Bytes that are not valid UTF-8 are noticed once the
string has been read; the place is that of the first of them. -/
def readString (bs : Bytes) : Except Fault (String × Bytes) := do
  let (text, rest) ← readStringBytes (bs.length + 1) [] bs
  match Bytes.text? text with
  | some s => .ok (s, rest)
  | none => failAt .invalidCodePoint (bs.drop (Bytes.validLength bs + 1))

/-! ### Values -/

mutual

/-- Reads a value. `depth` bounds the arrays and objects that may still be opened; `fuel` bounds
the steps, and every second step reads a byte. -/
def readValue : Nat → Nat → Bytes → Except Fault (Json × Bytes)
  | 0, _, bs => failAt .endInValue bs
  | fuel + 1, depth, bs =>
    match skipSpace bs with
    | [] => failIn .endInValue []
    | b :: rest =>
      if b = 0x6E then readIdent .null [0x75, 0x6C, 0x6C] rest
      else if b = 0x74 then readIdent (.bool true) [0x72, 0x75, 0x65] rest
      else if b = 0x66 then readIdent (.bool false) [0x61, 0x6C, 0x73, 0x65] rest
      else if b = 0x2D then readNumber true rest
      else if (digit? b).isSome then readNumber false (b :: rest)
      else if b = 0x22 then (readString rest).map fun (s, r) => (.string s, r)
      else if b = 0x5B then
        match depth with
        | 0 => failIn .tooDeep (b :: rest)
        | depth + 1 => readItems fuel depth [] rest
      else if b = 0x7B then
        match depth with
        | 0 => failIn .tooDeep (b :: rest)
        | depth + 1 => readFields fuel depth Dict.empty true rest
      else failIn .expectedValue (b :: rest)

/-- Reads the items of an array; `read` holds, in reverse, those before. -/
def readItems : Nat → Nat → List Json → Bytes → Except Fault (Json × Bytes)
  | 0, _, _, bs => failAt .endInList bs
  | fuel + 1, depth, read, bs =>
    match skipSpace bs with
    | [] => failIn .endInList []
    | b :: rest =>
      if b = 0x5D then .ok (.array read.reverse, rest)
      else if read.isEmpty then do
        let (v, rest) ← readValue fuel depth (b :: rest)
        readItems fuel depth [v] rest
      else if b = 0x2C then
        match skipSpace rest with
        | [] => failIn .endInValue []
        | 0x5D :: rest => failIn .trailingComma (0x5D :: rest)
        | rest => do
          let (v, rest) ← readValue fuel depth rest
          readItems fuel depth (v :: read) rest
      else failIn .expectedListCommaOrEnd (b :: rest)

/-- Reads the fields of an object; `first` holds until one has been read. -/
def readFields : Nat → Nat → Dict Json → Bool → Bytes → Except Fault (Json × Bytes)
  | 0, _, _, _, bs => failAt .endInObject bs
  | fuel + 1, depth, read, first, bs =>
    match skipSpace bs with
    | [] => failIn .endInObject []
    | b :: rest =>
      if b = 0x7D then .ok (.object read, rest)
      else if first then
        if b = 0x22 then readField fuel depth read rest
        else failIn .keyNotString (b :: rest)
      else if b = 0x2C then
        match skipSpace rest with
        | [] => failIn .endInValue []
        | 0x22 :: rest => readField fuel depth read rest
        | 0x7D :: rest => failIn .trailingComma (0x7D :: rest)
        | rest => failIn .keyNotString rest
      else failIn .expectedObjectCommaOrEnd (b :: rest)

/-- Reads a field, after the opening quote of its name, and the fields behind it. -/
def readField : Nat → Nat → Dict Json → Bytes → Except Fault (Json × Bytes)
  | 0, _, _, bs => failAt .endInObject bs
  | fuel + 1, depth, read, bs => do
    let (key, rest) ← readString bs
    match skipSpace rest with
    | [] => failIn .endInObject []
    | 0x3A :: rest =>
      let (v, rest) ← readValue fuel depth rest
      readFields fuel depth (read.insert key v) false rest
    | rest => failIn .expectedColon rest

end

/-! ### Whole texts -/

/-- The position `left` bytes before the end. -/
def Fault.locate (bs : Bytes) (f : Fault) : Error :=
  let before := bs.take (bs.length - f.left)
  ⟨f.reason, 1 + before.count 0x0A, (before.reverse.takeWhile (· ≠ 0x0A)).length⟩

/-- Reads a value with nothing but white space behind it. -/
def readWhole (bs : Bytes) : Except Fault Json := do
  let (v, rest) ← readValue (4 * bs.length + 4) (depthLimit - 1) bs
  match skipSpace rest with
  | [] => .ok v
  | rest => failIn .trailingCharacters rest

/-- The value that the bytes spell. -/
def parse (bs : Bytes) : Except Error Json :=
  (readWhole bs).mapError (Fault.locate bs)

end HttpMux.Json
