import HttpMux.Bytes

/-!
# `HttpMux.Base64`: bytes as letters, digits, `+` and `/`

Three bytes are written as four characters of six bits each. One or two bytes at the end are
written with padding. Decoding wants the padding, and zeros in the bits that are left over.

- `Base64.encode`: the characters of a byte sequence.
- `Base64.decode?`: the bytes that the characters spell.
-/

set_option autoImplicit false

namespace HttpMux.Base64

/-- The character for six bits. -/
def symbol (n : Nat) : Char :=
  if n < 26 then Char.ofNat (0x41 + n)
  else if n < 52 then Char.ofNat (0x61 + (n - 26))
  else if n < 62 then Char.ofNat (0x30 + (n - 52))
  else if n = 62 then '+'
  else '/'

/-- The six bits of a character. -/
def value? (c : Char) : Option Nat :=
  let n := c.toNat
  if 0x41 ≤ n ∧ n ≤ 0x5A then some (n - 0x41)
  else if 0x61 ≤ n ∧ n ≤ 0x7A then some (n - 0x61 + 26)
  else if 0x30 ≤ n ∧ n ≤ 0x39 then some (n - 0x30 + 52)
  else if c = '+' then some 62
  else if c = '/' then some 63
  else none

/-- The characters of a byte sequence. -/
def encode : Bytes → List Char
  | [] => []
  | [a] => [symbol (a.toNat / 4), symbol (a.toNat % 4 * 16), '=', '=']
  | [a, b] =>
    [symbol (a.toNat / 4), symbol (a.toNat % 4 * 16 + b.toNat / 16), symbol (b.toNat % 16 * 4), '=']
  | a :: b :: c :: rest =>
    symbol (a.toNat / 4) :: symbol (a.toNat % 4 * 16 + b.toNat / 16) ::
      symbol (b.toNat % 16 * 4 + c.toNat / 64) :: symbol (c.toNat % 64) :: encode rest

/-- The bytes that the characters spell. -/
def decode? : List Char → Option Bytes
  | [] => some []
  | [a, b, '=', '='] => do
    let a ← value? a
    let b ← value? b
    if b % 16 = 0 then some [(a * 4 + b / 16).toUInt8] else none
  | [a, b, c, '='] => do
    let a ← value? a
    let b ← value? b
    let c ← value? c
    if c % 4 = 0 then some [(a * 4 + b / 16).toUInt8, (b % 16 * 16 + c / 4).toUInt8] else none
  | a :: b :: c :: d :: rest => do
    let a ← value? a
    let b ← value? b
    let c ← value? c
    let d ← value? d
    let bytes ← decode? rest
    some ((a * 4 + b / 16).toUInt8 :: (b % 16 * 16 + c / 4).toUInt8 :: (c % 4 * 64 + d).toUInt8 ::
      bytes)
  | _ => none

end HttpMux.Base64
