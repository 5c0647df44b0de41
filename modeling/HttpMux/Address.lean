/-!
# `HttpMux.Address`: internet addresses

An address of version 4 has four decimal octets without leading zeros. An address of version 6 has
eight groups of up to four hexadecimal digits; one `::` stands for one or more zero groups, and the
last two groups may be written as an address of version 4.

- `IpAddress.parse?`: the address that a whole text spells.
- `IpAddress.text`: the canonical form. The first of the longest runs of two or more zero groups is
  written `::`, and a mapped address of version 4 keeps its own form.
- `SocketAddress`: an address with a port.
-/

set_option autoImplicit false

namespace HttpMux

/-- An address of version 4. -/
structure IPv4 where
  a : UInt8
  b : UInt8
  c : UInt8
  d : UInt8
  deriving DecidableEq, Repr

/-- An address of version 6. -/
structure IPv6 where
  groups : List UInt16
  length_eq : groups.length = 8
  deriving DecidableEq

/-- An internet address of either version. -/
inductive IpAddress
  | v4 (addr : IPv4)
  | v6 (addr : IPv6)
  deriving DecidableEq

/-- An internet address with a port. An address of version 6 may be bound to a zone; zone zero
is no zone. -/
structure SocketAddress where
  ip : IpAddress
  port : UInt16
  zone : UInt32
  deriving DecidableEq

/-! ### Reading -/

/-- A reader takes something off the front of a text, or refuses. -/
abbrev AddressReader (α : Type) := StateT (List Char) Option α

namespace AddressReader

/-- The value of a digit in the given base. -/
def digit? (base : Nat) (c : Char) : Option Nat :=
  let n := c.toNat
  let value :=
    if 0x30 ≤ n ∧ n ≤ 0x39 then n - 0x30
    else if 0x61 ≤ n ∧ n ≤ 0x7A then n - 0x61 + 10
    else if 0x41 ≤ n ∧ n ≤ 0x5A then n - 0x41 + 10
    else base
  if value < base then some value else none

/-- Reads the longest run of digits, which must not be empty. It is refused if it has more digits
than allowed, stands for `bound` or more, or has a leading zero where none is allowed. -/
def number (base bound maxDigits : Nat) (leadingZero : Bool) : AddressReader Nat := fun cs =>
  let ds := cs.takeWhile fun c => (digit? base c).isSome
  let value := ds.foldl (fun n c => n * base + (digit? base c).getD 0) 0
  if ds.isEmpty ∨ maxDigits < ds.length ∨ bound ≤ value then none
  else if ¬leadingZero ∧ ds.head? = some '0' ∧ 1 < ds.length then none
  else some (value, cs.drop ds.length)

/-- Reads one given character. -/
def char (c : Char) : AddressReader Unit := fun cs =>
  match cs with
  | x :: rest => if x = c then some ((), rest) else none
  | [] => none

/-- Reads with `p`, or leaves the text alone. -/
def optional {α : Type} (p : AddressReader α) : AddressReader (Option α) := fun cs =>
  match p cs with
  | some (a, rest) => some (some a, rest)
  | none => some (none, cs)

/-- Reads an octet in decimal. -/
def octet : AddressReader UInt8 := do return (← number 10 256 3 false).toUInt8

/-- Reads an address of version 4. -/
def ipv4 : AddressReader IPv4 := do
  let a ← octet
  char '.'
  let b ← octet
  char '.'
  let c ← octet
  char '.'
  let d ← octet
  return ⟨a, b, c, d⟩

/-- Two octets as a group. -/
def pair (x y : UInt8) : UInt16 := x.toUInt16 * 256 + y.toUInt16

/-- Reads at most `limit` groups, with colons between them. An address of version 4 may stand for
the last two; the second component tells whether one did. -/
def groups : Nat → Bool → AddressReader (List UInt16 × Bool)
  | 0, _ => pure ([], false)
  | limit + 1, first => do
    let separator : AddressReader Unit := if first then pure () else char ':'
    let embedded ← if limit = 0 then pure none else optional (separator *> ipv4)
    match embedded with
    | some v => return ([pair v.a v.b, pair v.c v.d], true)
    | none =>
      match ← optional (separator *> number 16 65536 4 true) with
      | some g =>
        let (gs, mixed) ← groups limit false
        return (g.toUInt16 :: gs, mixed)
      | none => return ([], false)

/-- Reads an address of version 6. -/
def ipv6 : AddressReader IPv6 := do
  let (head, mixed) ← groups 8 true
  if h : head.length = 8 then return ⟨head, h⟩
  else
    if mixed then failure
    char ':'
    char ':'
    let (tail, _) ← groups (7 - head.length) true
    let all := head ++ List.replicate (8 - head.length - tail.length) 0 ++ tail
    if h : all.length = 8 then return ⟨all, h⟩ else failure

/-- Reads an address of either version. -/
def ip : AddressReader IpAddress :=
  (IpAddress.v4 <$> ipv4) <|> (IpAddress.v6 <$> ipv6)

/-- Reads a port, after its colon. -/
def port : AddressReader UInt16 := do
  char ':'
  return (← number 10 65536 (Nat.pow 2 32) true).toUInt16

/-- Reads an address with a port; one of version 6 stands in square brackets. -/
def socket : AddressReader SocketAddress :=
  (do return ⟨.v4 (← ipv4), ← port, 0⟩) <|>
  (do char '['
      let addr ← ipv6
      let zone ← optional (char '%' *> number 10 (Nat.pow 2 32) (Nat.pow 2 32) true)
      char ']'
      return ⟨.v6 addr, ← port, (zone.getD 0).toUInt32⟩)

/-- What a whole text spells. -/
def whole {α : Type} (p : AddressReader α) (s : String) : Option α :=
  match p s.toList with
  | some (a, []) => some a
  | _ => none

end AddressReader

/-- The address that a text spells. -/
def IpAddress.parse? (s : String) : Option IpAddress := AddressReader.ip.whole s

/-- The address with a port that a text spells. -/
def SocketAddress.parse? (s : String) : Option SocketAddress := AddressReader.socket.whole s

/-! ### Printing -/

/-- The four octets in decimal, with points between them. -/
def IPv4.text (v : IPv4) : String :=
  String.intercalate "." ([v.a, v.b, v.c, v.d].map fun x => toString x.toNat)

/-- The address of version 4 that is mapped into one of version 6. -/
def IPv6.mapped? (v : IPv6) : Option IPv4 :=
  match v.groups with
  | [0, 0, 0, 0, 0, 0xFFFF, x, y] =>
    some ⟨(x / 256).toUInt8, (x % 256).toUInt8, (y / 256).toUInt8, (y % 256).toUInt8⟩
  | _ => none

/-- The length of the run of zeros in front. -/
def IPv6.zerosAt (gs : List UInt16) : Nat := (gs.takeWhile (· = 0)).length

/-- The start and the length of the first of the longest runs of zero groups. -/
def IPv6.longestRun (gs : List UInt16) : Nat × Nat :=
  (List.range gs.length).foldl
    (fun best i =>
      let n := zerosAt (gs.drop i)
      if best.2 < n then (i, n) else best)
    (0, 0)

/-- Groups in hexadecimal, with colons between them. -/
def IPv6.groupText (gs : List UInt16) : String :=
  String.intercalate ":" (gs.map fun g => String.ofList (Nat.toDigits 16 g.toNat))

/-- The canonical form of an address of version 6. -/
def IPv6.text (v : IPv6) : String :=
  match v.mapped? with
  | some w => "::ffff:" ++ w.text
  | none =>
    let (at0, n) := longestRun v.groups
    if 1 < n then groupText (v.groups.take at0) ++ "::" ++ groupText (v.groups.drop (at0 + n))
    else groupText v.groups

/-- The canonical form of an address. -/
def IpAddress.text : IpAddress → String
  | .v4 v => v.text
  | .v6 v => v.text

/-- The address and the port, with brackets around an address of version 6. -/
def SocketAddress.text (s : SocketAddress) : String :=
  match s.ip with
  | .v4 v => v.text ++ ":" ++ toString s.port.toNat
  | .v6 v =>
    let zone := if s.zone = 0 then "" else "%" ++ toString s.zone.toNat
    "[" ++ v.text ++ zone ++ "]:" ++ toString s.port.toNat

end HttpMux
