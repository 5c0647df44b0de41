import HttpMux.Unicode.CaseOrbit
import HttpMux.Unicode.WhiteSpace
import HttpMux.Unicode.Word

/-!
# `HttpMux.Regex.CharSet`: sets of characters

A set is a list of ranges of code points in ascending order, with a gap between any two. Surrogates
are no characters and belong to no complement.
-/

set_option autoImplicit false

namespace HttpMux.Regex

/-- A set of characters as ranges of code points. -/
structure CharSet where
  ranges : Unicode.Ranges
  deriving BEq, Inhabited

namespace CharSet

/-- Whether a character belongs to the set. -/
def mem (s : CharSet) (c : Char) : Bool := Unicode.Ranges.mem c.toNat s.ranges

/-- Joins a range to ascending ranges that begin no earlier. -/
def join (lo hi : Nat) : Unicode.Ranges → Unicode.Ranges
  | [] => [(lo, hi)]
  | (lo', hi') :: rs =>
    if lo' ≤ hi + 1 then join lo (max hi hi') rs else (lo, hi) :: join lo' hi' rs

/-- The set of the given ranges, in any order and with any overlap. -/
def ofRanges (rs : Unicode.Ranges) : CharSet :=
  match rs.mergeSort fun a b => a.1 ≤ b.1 with
  | [] => ⟨[]⟩
  | (lo, hi) :: rs => ⟨join lo hi rs⟩

/-- The set without members. -/
def empty : CharSet := ⟨[]⟩

/-- The set of one code point. -/
def single (n : Nat) : CharSet := ⟨[(n, n)]⟩

/-- The members of either set. -/
def union (s t : CharSet) : CharSet := ofRanges (s.ranges ++ t.ranges)

/-- The code points between ascending ranges, from `lo` on. -/
def gaps (lo : Nat) : Unicode.Ranges → Unicode.Ranges
  | [] => if lo ≤ 0x10FFFF then [(lo, 0x10FFFF)] else []
  | (lo', hi') :: rs => if lo < lo' then (lo, lo' - 1) :: gaps (hi' + 1) rs else gaps (hi' + 1) rs

/-- The code points that belong to no character. -/
def surrogates : CharSet := ⟨[(0xD800, 0xDFFF)]⟩

/-- The characters outside the set. -/
def compl (s : CharSet) : CharSet := ⟨gaps 0 (s.union surrogates).ranges⟩

/-- The members of both sets. -/
def inter (s t : CharSet) : CharSet := (s.compl.union t.compl).compl

/-- The members of the first set that are not in the second. -/
def diff (s t : CharSet) : CharSet := (s.compl.union t).compl

/-- The members of exactly one of the sets. -/
def symmDiff (s t : CharSet) : CharSet := (s.diff t).union (t.diff s)

/-- The set with every character that equals a member up to case. -/
def closeCase (s : CharSet) : CharSet :=
  let added := Unicode.caseOrbits.filter fun o => o.any fun n => Unicode.Ranges.mem n s.ranges
  ofRanges (s.ranges ++ added.flatten.map fun n => (n, n))

/-- The only member of a set of one character. -/
def only? (s : CharSet) : Option Char :=
  match s.ranges with
  | [(lo, hi)] => if lo = hi then some (Char.ofNat lo) else none
  | _ => none

/-! ### Named sets -/

/-- All characters. -/
def any : CharSet := empty.compl

/-- The decimal digits. -/
def digits : CharSet := ⟨Unicode.decimalDigits⟩

/-- White space. -/
def blanks : CharSet := ⟨Unicode.whiteSpace⟩

/-- The characters of words. -/
def words : CharSet := ⟨Unicode.wordCharacters⟩

/-- The ASCII digits. -/
def asciiDigits : CharSet := ⟨[(0x30, 0x39)]⟩

/-- ASCII white space. -/
def asciiBlanks : CharSet := ⟨[(0x9, 0xD), (0x20, 0x20)]⟩

/-- The ASCII characters of words. -/
def asciiWords : CharSet := ⟨[(0x30, 0x39), (0x41, 0x5A), (0x5F, 0x5F), (0x61, 0x7A)]⟩

/-- The named sets of ASCII characters. -/
def ascii? (name : String) : Option CharSet :=
  match name with
  | "alnum" => some ⟨[(0x30, 0x39), (0x41, 0x5A), (0x61, 0x7A)]⟩
  | "alpha" => some ⟨[(0x41, 0x5A), (0x61, 0x7A)]⟩
  | "ascii" => some ⟨[(0x0, 0x7F)]⟩
  | "blank" => some ⟨[(0x9, 0x9), (0x20, 0x20)]⟩
  | "cntrl" => some ⟨[(0x0, 0x1F), (0x7F, 0x7F)]⟩
  | "digit" => some asciiDigits
  | "graph" => some ⟨[(0x21, 0x7E)]⟩
  | "lower" => some ⟨[(0x61, 0x7A)]⟩
  | "print" => some ⟨[(0x20, 0x7E)]⟩
  | "punct" => some ⟨[(0x21, 0x2F), (0x3A, 0x40), (0x5B, 0x60), (0x7B, 0x7E)]⟩
  | "space" => some asciiBlanks
  | "upper" => some ⟨[(0x41, 0x5A)]⟩
  | "word" => some asciiWords
  | "xdigit" => some ⟨[(0x30, 0x39), (0x41, 0x46), (0x61, 0x66)]⟩
  | _ => none

end CharSet

end HttpMux.Regex
