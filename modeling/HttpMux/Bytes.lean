/-!
# `HttpMux.Bytes`: byte sequences and the text they spell

A message is a sequence of bytes. Some of it is text in UTF-8.

- `Bytes.text?_ofText`: encoding a text and decoding it gives the text back.
- `Bytes.ofText_of_text?`: a decoded text encodes to the bytes it came from.
- `Bytes.ofText_append`: encoding goes through concatenation.
-/

set_option autoImplicit false

namespace HttpMux

/-- A sequence of bytes. -/
abbrev Bytes := List UInt8

namespace Bytes

/-- The UTF-8 encoding of a text. -/
def ofText (s : String) : Bytes := s.toByteArray.data.toList

/-- The text that the bytes encode, or nothing if they are not valid UTF-8. -/
def text? (bs : Bytes) : Option String := String.fromUTF8? ⟨bs.toArray⟩

/-- Encoding a text and decoding it gives the text back. -/
theorem text?_ofText (s : String) : text? (ofText s) = some s := by
  have h : s.toByteArray.IsValidUTF8 := s.isValidUTF8
  simp [text?, ofText, String.fromUTF8?, String.fromUTF8, h]

/-- A decoded text encodes to the bytes it came from. -/
theorem ofText_of_text? {bs : Bytes} {s : String} (h : text? bs = some s) :
    ofText s = bs := by
  unfold text? String.fromUTF8? at h
  split at h
  · cases h; simp [ofText, String.fromUTF8]
  · cases h

/-- Texts one after the other are encoded one after the other. -/
theorem ofText_append (s t : String) : ofText (s ++ t) = ofText s ++ ofText t := by
  simp [ofText, String.toByteArray_append]

/-! ### Decoding byte by byte -/

/-- A character whose encoding has begun: the bits read so far, the number of bytes still
missing, and the range the next byte must fall in. -/
structure Partial where
  code : Nat
  missing : Nat
  least : UInt8
  greatest : UInt8

/-- What a byte makes of the bytes before it: a whole character, a longer beginning of one, or
nothing that can be completed. -/
inductive Progress
  | whole (c : Char)
  | more (p : Partial)
  | stray

/-- Reads the first byte of an encoding. The ranges exclude overlong forms, surrogates and code
points past the last one. -/
def lead (b : UInt8) : Progress :=
  if b < 0x80 then .whole (Char.ofNat b.toNat)
  else if b < 0xC2 then .stray
  else if b < 0xE0 then .more ⟨b.toNat - 0xC0, 1, 0x80, 0xBF⟩
  else if b < 0xF0 then
    .more ⟨b.toNat - 0xE0, 2, if b = 0xE0 then 0xA0 else 0x80, if b = 0xED then 0x9F else 0xBF⟩
  else if b < 0xF5 then
    .more ⟨b.toNat - 0xF0, 3, if b = 0xF0 then 0x90 else 0x80, if b = 0xF4 then 0x8F else 0xBF⟩
  else .stray

/-- Reads a later byte of an encoding. -/
def Partial.next (p : Partial) (b : UInt8) : Progress :=
  if p.least ≤ b ∧ b ≤ p.greatest then
    let code := p.code * 64 + (b.toNat - 0x80)
    if p.missing ≤ 1 then .whole (Char.ofNat code)
    else .more ⟨code, p.missing - 1, 0x80, 0xBF⟩
  else .stray

/-- Reads the next byte, at the start or inside of an encoding. -/
def progress (pending : Option Partial) (b : UInt8) : Progress :=
  match pending with
  | none => lead b
  | some p => p.next b

/-- The character that stands for bytes that encode nothing. -/
def replacement : Char := '\ufffd'

/-- Decodes with one replacement character for each longest piece that cannot be completed. A byte
that breaks off an encoding starts afresh. -/
def lossyChars (pending : Option Partial) : Bytes → List Char
  | [] => if pending.isSome then [replacement] else []
  | b :: bs =>
    match progress pending b with
    | .whole c => c :: lossyChars none bs
    | .more p => lossyChars (some p) bs
    | .stray =>
      if pending.isNone then replacement :: lossyChars none bs
      else
        match lead b with
        | .whole c => replacement :: c :: lossyChars none bs
        | .more p => replacement :: lossyChars (some p) bs
        | .stray => replacement :: replacement :: lossyChars none bs

/-- The text of a byte sequence, with U+FFFD for what is not valid UTF-8. -/
def lossyText (bs : Bytes) : String := String.ofList (lossyChars none bs)

/-- How many bytes belong to whole characters in front of the first piece that cannot be completed.
`taken` counts the bytes of the pending character. -/
def wholeLength (taken : Nat) (pending : Option Partial) : Bytes → Nat
  | [] => 0
  | b :: bs =>
    match progress pending b with
    | .whole _ => taken + 1 + wholeLength 0 none bs
    | .more p => wholeLength (taken + 1) (some p) bs
    | .stray => 0

/-- How many bytes stand in front of the first piece that is not valid UTF-8. -/
def validLength (bs : Bytes) : Nat := wholeLength 0 none bs

/-! ### Hexadecimal -/

/-- The two lower-case hexadecimal digits of a byte. -/
def hexDigits (b : UInt8) : List Char :=
  [Nat.digitChar (b.toNat / 16), Nat.digitChar (b.toNat % 16)]

/-- The bytes in lower-case hexadecimal, two digits each. -/
def hex (bs : Bytes) : String := String.ofList (bs.flatMap hexDigits)

end Bytes

end HttpMux
