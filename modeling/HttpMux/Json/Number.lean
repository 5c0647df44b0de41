import HttpMux.Bytes
import HttpMux.Json.Basic
import HttpMux.Json.Error

/-!
# `HttpMux.Json.Number`: numbers of a JSON text

A number without point and exponent that fits into 64 bits is an integer. All others are floats,
and so is minus zero. A float is built from its first digits that fit into 64 bits and a power of
ten; later digits only move the power. The product is rounded once, so it can differ in its last
bit from the nearest float.
-/

set_option autoImplicit false

namespace HttpMux.Json

/-- A reason, with the number of bytes between the place where it was noticed and the end. -/
structure Fault where
  reason : Reason
  left : Nat

/-- A fault noticed before the next byte. -/
def failAt {α : Type} (reason : Reason) (rest : Bytes) : Except Fault α :=
  .error ⟨reason, rest.length⟩

/-- A fault that lies in the next byte, if there is one. -/
def failIn {α : Type} (reason : Reason) (rest : Bytes) : Except Fault α :=
  .error ⟨reason, rest.length - 1⟩

/-- The value of a decimal digit. -/
def digit? (b : UInt8) : Option Nat :=
  if 0x30 ≤ b ∧ b ≤ 0x39 then some (b.toNat - 0x30) else none

/-- The greatest unsigned integer of 64 bits. -/
def maxWord : Nat := Nat.pow 2 64 - 1

/-- The greatest exponent that is read; a longer one is out of range. -/
def maxExponent : Nat := Nat.pow 2 31 - 1

/-- Drops the digits in front. -/
def skipDigits (bs : Bytes) : Bytes := bs.dropWhile fun b => (digit? b).isSome

/-- Reads digits onto `n` while the result stays below `limit`. The number of digits read is
counted, and the last component tells whether a digit did not fit. -/
def takeDigits (limit n count : Nat) : Bytes → Nat × Nat × Bytes × Bool
  | [] => (n, count, [], false)
  | b :: bs =>
    match digit? b with
    | none => (n, count, b :: bs, false)
    | some d =>
      if limit < n * 10 + d then (n, count, b :: bs, true)
      else takeDigits limit (n * 10 + d) (count + 1) bs

/-- A float with its sign. -/
def signed (negative : Bool) (x : Float) : Float := if negative then -x else x

/-- Ten to the power `n`. -/
def powerOfTen (n : Nat) : Float := Float.ofScientific 1 false n

/-- Divides by ten to the power `n`, in steps that stay in range. -/
def scaleDown (x : Float) (n : Nat) : Float :=
  if h : 308 < n then
    if x == 0.0 then x else scaleDown (x / powerOfTen 308) (n - 308)
  else x / powerOfTen n
termination_by n
decreasing_by omega

/-- The float `n * 10 ^ e`. -/
def scaled (negative : Bool) (n : Nat) (e : Int) (rest : Bytes) : Except Fault (Float × Bytes) :=
  let x := n.toUInt64.toFloat
  if e < 0 then .ok (signed negative (scaleDown x (-e).toNat), rest)
  else if 308 < e then
    if n = 0 then .ok (signed negative x, rest) else failAt .numberOutOfRange rest
  else
    let y := x * powerOfTen e.toNat
    if y.isInf then failAt .numberOutOfRange rest else .ok (signed negative y, rest)

/-- Reads on after the letter of an exponent. -/
def readExponent (negative : Bool) (n : Nat) (e : Int) (bs : Bytes) :
    Except Fault (Float × Bytes) :=
  let (down, bs) := match bs with
    | 0x2B :: rest => (false, rest)
    | 0x2D :: rest => (true, rest)
    | _ => (false, bs)
  match bs with
  | [] => failAt .endInValue []
  | b :: rest =>
    match digit? b with
    | none => failAt .invalidNumber rest
    | some d =>
      let (x, _, rest, tooLong) := takeDigits maxExponent d 0 rest
      if tooLong then
        -- The digit that does not fit has been read.
        if n ≠ 0 ∧ ¬down then failAt .numberOutOfRange (rest.drop 1)
        else .ok (signed negative 0.0, skipDigits rest)
      else scaled negative n (if down then e - x else e + x) rest

/-- Reads on after the digits of a float: an exponent may follow. -/
def readScale (negative : Bool) (n : Nat) (e : Int) : Bytes → Except Fault (Float × Bytes)
  | 0x65 :: rest => readExponent negative n e rest
  | 0x45 :: rest => readExponent negative n e rest
  | rest => scaled negative n e rest

/-- Reads on after the point of a float. -/
def readFraction (negative : Bool) (n : Nat) (e : Int) (bs : Bytes) :
    Except Fault (Float × Bytes) :=
  let (n, places, rest, tooLong) := takeDigits maxWord n 0 bs
  if tooLong then readScale negative n (e - places) (skipDigits rest)
  else if places = 0 then
    match rest with
    | [] => failIn .endInValue []
    | _ => failIn .invalidNumber rest
  else readScale negative n (e - places) rest

/-- Reads on after digits that make an integer too long. -/
def readLong (negative : Bool) (n : Nat) (bs : Bytes) : Except Fault (Float × Bytes) :=
  let rest := skipDigits bs
  let e := Int.ofNat (bs.length - rest.length)
  match rest with
  | 0x2E :: rest => readFraction negative n e rest
  | rest => readScale negative n e rest

/-- An integer with its sign. Minus zero and what is below the range are floats. -/
def integer (negative : Bool) (n : Nat) : Json :=
  if ¬negative then .int n
  else if n = 0 ∨ Nat.pow 2 63 < n then .float (-n.toUInt64.toFloat)
  else .int (-n)

/-- Reads on after the digits of an integer that fits. -/
def readAfterInteger (negative : Bool) (n : Nat) : Bytes → Except Fault (Json × Bytes)
  | 0x2E :: rest => (readFraction negative n 0 rest).map fun (x, r) => (.float x, r)
  | 0x65 :: rest => (readExponent negative n 0 rest).map fun (x, r) => (.float x, r)
  | 0x45 :: rest => (readExponent negative n 0 rest).map fun (x, r) => (.float x, r)
  | rest => .ok (integer negative n, rest)

/-- Reads a number, after its sign. -/
def readNumber (negative : Bool) : Bytes → Except Fault (Json × Bytes)
  | [] => failAt .endInValue []
  | b :: rest =>
    match digit? b with
    | none => failAt .invalidNumber rest
    | some 0 =>
      match rest.head?.bind digit? with
      | some _ => failIn .invalidNumber rest
      | none => readAfterInteger negative 0 rest
    | some d =>
      let (n, _, rest, tooLong) := takeDigits maxWord d 0 rest
      if tooLong then (readLong negative n rest).map fun (x, r) => (.float x, r)
      else readAfterInteger negative n rest

end HttpMux.Json
