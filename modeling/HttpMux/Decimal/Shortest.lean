/-!
# `HttpMux.Decimal.Shortest`: the shortest decimal that reads back

A positive 64-bit float is `m * 2 ^ q`. The reals that round to it form an interval around it. Of
the decimals `a * 10 ^ p` in that interval this module takes one with the largest `p`, and of two
of them the one nearer to the float. A tie goes to the even `a`.

All arithmetic is on natural numbers and exact.
-/

set_option autoImplicit false

namespace HttpMux.Decimal

/-- A positive binary number `mantissa * 2 ^ exponent`. `atEdge` says that the next smaller float
is only half as far away as the next greater one. -/
structure Binary where
  mantissa : Nat
  exponent : Int
  atEdge : Bool

/-- A decimal number `digits * 10 ^ exponent`. -/
structure Scaled where
  digits : Nat
  exponent : Int

/-- The number that the 63 lower bits of a finite, non-zero 64-bit float stand for. -/
def Binary.ofBits (bits : Nat) : Binary :=
  let fraction := bits % Nat.pow 2 52
  let field := bits / Nat.pow 2 52 % Nat.pow 2 11
  if field = 0 then ⟨fraction, -1074, false⟩
  else ⟨fraction + Nat.pow 2 52, Int.ofNat field - 1075, fraction = 0 ∧ 1 < field⟩

/-- Of the two multiples of `10 ^ p` next to the number, one that lies in its interval, the nearer
if both do. -/
def Binary.onGrid (b : Binary) (p : Int) : Option Nat :=
  -- Quarters of the last binary place make the interval's ends integers.
  let s := b.exponent - 2
  let unit := Nat.pow 2 s.toNat * Nat.pow 10 (-p).toNat
  let den := Nat.pow 2 (-s).toNat * Nat.pow 10 p.toNat
  let value := 4 * b.mantissa * unit
  let low := (4 * b.mantissa - if b.atEdge then 1 else 2) * unit
  let high := (4 * b.mantissa + 2) * unit
  let inside (a : Nat) : Bool :=
    if b.mantissa % 2 = 0 then low ≤ a * den && a * den ≤ high
    else low < a * den && a * den < high
  let a := value / den
  match inside a, inside (a + 1) with
  | true, true =>
    let below := value - a * den
    let above := (a + 1) * den - value
    if below < above ∨ (below = above ∧ a % 2 = 0) then some a else some (a + 1)
  | true, false => some a
  | false, true => some (a + 1)
  | false, false => none

/-- Tries `p`, `p - 1`, … for at most `tries` grids. -/
def Binary.search (b : Binary) : Nat → Int → Scaled
  | 0, p => ⟨0, p⟩
  | tries + 1, p =>
    match b.onGrid p with
    | some a => ⟨a, p⟩
    | none => b.search tries (p - 1)

/-- The shortest decimal that rounds to the number. The search starts above the number, and a
grid with seventeen digits always has a hit. -/
def Binary.shortest (b : Binary) : Scaled :=
  let bits := Int.ofNat (Nat.log2 b.mantissa + 1) + b.exponent
  b.search 24 (bits * 30103 / 100000 + 2)

end HttpMux.Decimal
