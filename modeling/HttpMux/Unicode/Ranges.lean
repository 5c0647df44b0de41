/-!
# `HttpMux.Unicode.Ranges`: sets of code points as lists of ranges

- `Unicode.Ranges.mem_iff`: membership is membership in one of the ranges.
-/

set_option autoImplicit false

namespace HttpMux.Unicode

/-- Ranges of code points, both ends included. -/
abbrev Ranges := List (Nat × Nat)

namespace Ranges

/-- Whether some range covers the code point. -/
def mem (n : Nat) (rs : Ranges) : Bool := rs.any fun (lo, hi) => lo ≤ n && n ≤ hi

/-- A code point is a member if it lies between the ends of some range. -/
theorem mem_iff {n : Nat} {rs : Ranges} :
    mem n rs = true ↔ ∃ r ∈ rs, r.1 ≤ n ∧ n ≤ r.2 := by
  simp [mem]

end Ranges

end HttpMux.Unicode
