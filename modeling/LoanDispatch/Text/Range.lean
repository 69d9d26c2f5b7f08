/-!
Membership in a table of code point ranges.  `memRanges_iff` says that the test is membership in one
of the closed ranges.
-/

set_option autoImplicit false

namespace LoanDispatch.Text

/-- The character's code point lies in one of the closed ranges. -/
def memRanges (ranges : List (Nat × Nat)) (c : Char) : Bool :=
  ranges.any fun range => range.1 ≤ c.toNat && c.toNat ≤ range.2

theorem memRanges_iff {ranges : List (Nat × Nat)} {c : Char} :
    memRanges ranges c = true ↔ ∃ range ∈ ranges, range.1 ≤ c.toNat ∧ c.toNat ≤ range.2 := by
  simp [memRanges]

end LoanDispatch.Text
