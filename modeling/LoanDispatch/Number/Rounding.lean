/-!
Rounding of quotients to the nearest whole number, a half going to the even neighbour.
-/

set_option autoImplicit false

namespace LoanDispatch.Number

/-- The whole number nearest to `num / den`; of two nearest ones the even one. -/
def roundHalfEven (num den : Nat) : Nat :=
  let quotient := num / den
  let rest := num % den
  if den < 2 * rest ∨ (2 * rest = den ∧ quotient % 2 = 1) then quotient + 1 else quotient

/-- The rounded quotient is at most half a unit away from the quotient. -/
theorem roundHalfEven_near (num den : Nat) (positive : 0 < den) :
    2 * num ≤ (2 * roundHalfEven num den + 1) * den ∧
      2 * roundHalfEven num den * den ≤ 2 * num + den := by
  have split := Nat.div_add_mod num den
  have small := Nat.mod_lt num positive
  simp only [roundHalfEven]
  generalize num / den = quotient at *
  generalize num % den = rest at *
  subst split
  split <;> constructor <;> grind

end LoanDispatch.Number
