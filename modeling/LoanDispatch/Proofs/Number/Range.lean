import LoanDispatch.Number.Binary
import Mathlib.Tactic.Ring

/-!
The range of floating point numbers.  Every integer of a size below `overflow` has a number next to
it, and no other integer has one.
-/

set_option autoImplicit false

namespace LoanDispatch.Number

section Rounding

variable {num den top : Nat}

/-- Below `top + 1` units, `top` being odd, a quotient is rounded to `top + 1` from half a unit
before it on. -/
theorem roundHalfEven_eq_succ_iff (odd : top % 2 = 1) (positive : 0 < den)
    (below : num < (top + 1) * den) :
    roundHalfEven num den = top + 1 ↔ (2 * top + 1) * den ≤ 2 * num := by
  have split := Nat.div_add_mod num den
  have small := Nat.mod_lt num positive
  have reached : num / den ≤ top := Nat.lt_succ_iff.mp ((Nat.div_lt_iff_lt_mul positive).mpr below)
  have half : (2 * top + 1) * den = 2 * (den * top) + den := by ring
  rw [half, roundHalfEven]
  generalize num / den = quotient at *
  generalize num % den = rest at *
  by_cases last : quotient = top
  · subst last
    -- The quotient is odd, so a rest of exactly half a unit is rounded up as well.
    have up : (den < 2 * rest ∨ 2 * rest = den ∧ quotient % 2 = 1) ↔ den ≤ 2 * rest := by omega
    simp only [up]
    split <;> omega
  · have before : den * (quotient + 1) ≤ den * top := Nat.mul_le_mul_left den (by omega)
    rw [Nat.mul_succ] at before
    constructor
    · intro rounded
      split at rounded <;> omega
    · intro high
      omega

theorem roundHalfEven_le (positive : 0 < den) (below : num < (top + 1) * den) :
    roundHalfEven num den ≤ top + 1 := by
  have reached : num / den < top + 1 := (Nat.div_lt_iff_lt_mul positive).mpr below
  simp only [roundHalfEven]
  split <;> omega

theorem le_roundHalfEven (positive : 0 < den) (above : top * den ≤ num) :
    top ≤ roundHalfEven num den := by
  have reached : top ≤ num / den := (Nat.le_div_iff_mul_le positive).mpr above
  simp only [roundHalfEven]
  split <;> omega

end Rounding

namespace Magnitude

variable {num : Nat} {exponent : Int}

/-- A whole number in units of a power of two that leaves it 53 bits. -/
structure Fits (num : Nat) (exponent : Int) : Prop where
  low : twoTo 52 * (1 * twoTo exponent.toNat) ≤ num * twoTo (-exponent).toNat
  high : num * twoTo (-exponent).toNat < twoTo 53 * (1 * twoTo exponent.toNat)

theorem shift_twoTo {bits whole : Nat} (same : (whole : Int) + exponent = bits) :
    twoTo whole * (1 * twoTo exponent.toNat) = twoTo bits * twoTo (-exponent).toNat := by
  rw [Nat.one_mul]
  show 2 ^ _ * 2 ^ _ = 2 ^ _ * 2 ^ _
  rw [← Nat.pow_add, ← Nat.pow_add]
  congr 1
  omega

theorem fits_log2 (positive : num ≠ 0) : Fits num ((num.log2 : Int) - 52) where
  low := by
    have same : ((52 : Nat) : Int) + ((num.log2 : Int) - 52) = (num.log2 : Nat) := by omega
    rw [shift_twoTo same]
    exact Nat.mul_le_mul_right _ (Nat.log2_self_le positive)
  high := by
    have same : ((53 : Nat) : Int) + ((num.log2 : Int) - 52) = (num.log2 + 1 : Nat) := by omega
    rw [shift_twoTo same]
    exact Nat.mul_lt_mul_of_pos_right Nat.lt_log2_self (twoTo_pos _)

/-- The exponent of a whole number follows from its highest bit. -/
theorem exponentOf_whole (positive : num ≠ 0) : exponentOf num 1 = (num.log2 : Int) - 52 := by
  have estimate : ((num.log2 : Int) - (Nat.log2 1 : Nat) - 52) = (num.log2 : Int) - 52 := by
    have one : Nat.log2 1 = 0 := rfl
    omega
  simp only [exponentOf, estimate]
  rw [if_pos (fits_log2 positive).low]
  omega

theorem scaled_bounds (fits : Fits num exponent) :
    twoTo 52 ≤ scaled num 1 exponent ∧ scaled num 1 exponent ≤ twoTo 53 := by
  have unit : 0 < 1 * twoTo exponent.toNat := Nat.mul_pos (by decide) (twoTo_pos _)
  have below : num * twoTo (-exponent).toNat < (twoTo 53 - 1 + 1) * (1 * twoTo exponent.toNat) :=
    fits.high
  exact ⟨le_roundHalfEven unit fits.low, roundHalfEven_le unit below⟩

theorem ofParts?_eq_none_iff (mantissa : Nat) (exponent : Int) :
    ofParts? mantissa exponent = none ↔ ¬ Canonical mantissa exponent := by
  unfold ofParts?
  split <;> simp_all

/-- A whole number has no nearest magnitude when the exponent of its rounded mantissa is too large. -/
theorem ofQuotient?_whole_eq_none_iff (positive : num ≠ 0) :
    ofQuotient? num 1 = none ↔
      1024 ≤ num.log2 ∨ num.log2 = 1023 ∧ scaled num 1 971 = twoTo 53 := by
  obtain ⟨low, high⟩ := scaled_bounds (fits_log2 positive)
  simp only [ofQuotient?, if_neg positive, exponentOf_whole positive]
  split
  · next carried =>
    have room : Canonical (twoTo 52) ((num.log2 : Int) - 52 + 1) ↔ num.log2 ≤ 1022 := by
      have least : twoTo 52 < twoTo 53 := by decide
      constructor
      · intro canonical
        have := canonical.2.2.1
        omega
      · intro few
        exact ⟨least, by omega, by omega, .inl (Nat.le_refl _)⟩
    rw [ofParts?_eq_none_iff, room]
    constructor
    · intro many
      by_cases last : num.log2 = 1023
      · rw [last] at carried
        exact .inr ⟨last, carried⟩
      · omega
    · omega
  · next whole =>
    have room : Canonical (scaled num 1 ((num.log2 : Int) - 52)) ((num.log2 : Int) - 52)
        ↔ num.log2 ≤ 1023 := by
      constructor
      · intro canonical
        have := canonical.2.2.1
        omega
      · intro few
        exact ⟨by omega, by omega, by omega, .inl low⟩
    rw [ofParts?_eq_none_iff, room]
    constructor
    · intro many
      omega
    · rintro (many | ⟨last, carried⟩)
      · omega
      · rw [last] at whole
        exact absurd carried whole

end Magnitude

namespace Binary64

/-- Half a unit in the last place below the power of two that follows the largest number; integers of
this size and beyond have no number next to them. -/
def overflow : Nat := twoTo 1024 - twoTo 970

theorem overflow_double : 2 * overflow = (2 * (twoTo 53 - 1) + 1) * twoTo 971 := by
  decide +kernel

theorem scaled_eq_top_iff {num : Nat} (below : num < twoTo 1024) :
    Magnitude.scaled num 1 971 = twoTo 53 ↔ overflow ≤ num := by
  have unit : num * twoTo (-971 : Int).toNat = num := Nat.mul_one num
  have power : 1 * twoTo (971 : Int).toNat = twoTo 971 := Nat.one_mul _
  have limit : twoTo 1024 = (twoTo 53 - 1 + 1) * twoTo 971 := by decide +kernel
  have top : twoTo 53 = twoTo 53 - 1 + 1 := rfl
  rw [limit] at below
  rw [Magnitude.scaled, unit, power, top,
    roundHalfEven_eq_succ_iff (by decide) (twoTo_pos 971) below, ← overflow_double]
  omega

theorem ofInt?_eq_none_iff (n : Int) : ofInt? n = none ↔ overflow ≤ n.natAbs := by
  rw [ofInt?, Option.map_eq_none_iff]
  generalize n.natAbs = num
  have below : overflow < twoTo 1024 := by decide +kernel
  have above : twoTo 1023 ≤ overflow := by decide +kernel
  by_cases zero : num = 0
  · subst zero
    have filled : 0 < overflow := Nat.lt_of_lt_of_le (twoTo_pos 1023) above
    exact iff_of_false nofun (by omega)
  rw [Magnitude.ofQuotient?_whole_eq_none_iff zero]
  have size (bits : Nat) : bits ≤ num.log2 ↔ twoTo bits ≤ num := Nat.le_log2 zero
  have huge := size 1024
  have large := size 1023
  constructor
  · rintro (many | ⟨last, carried⟩)
    · omega
    · have small : num < twoTo 1024 := by omega
      exact (scaled_eq_top_iff small).mp carried
  · intro beyond
    by_cases many : 1024 ≤ num.log2
    · exact .inl many
    · have small : num < twoTo 1024 := by omega
      exact .inr ⟨by omega, (scaled_eq_top_iff small).mpr beyond⟩

end Binary64
end LoanDispatch.Number
