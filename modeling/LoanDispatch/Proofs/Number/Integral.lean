import LoanDispatch.Proofs.Number.Nearest

/-!
Whole numbers among the floating point numbers.  The number next to a whole number is whole, and it is
that number exactly when 53 bits and a power of two make it up.
-/

set_option autoImplicit false

namespace LoanDispatch.Number

/-- A number of 53 bits at most, with zeros after them. -/
def FewBits (n : Nat) : Prop := ∃ bits < twoTo 53, ∃ power, n = bits * twoTo power

theorem fewBits_of_le {n : Nat} (small : n ≤ twoTo 53) : FewBits n := by
  rcases Nat.lt_or_eq_of_le small with below | rfl
  · exact ⟨n, below, 0, (Nat.mul_one n).symm⟩
  · exact ⟨1, by decide, 53, (Nat.one_mul _).symm⟩

/-- An odd number has no zeros at its end to leave out. -/
theorem lt_of_fewBits_of_odd {n : Nat} (few : FewBits n) (odd : n % 2 = 1) : n < twoTo 53 := by
  obtain ⟨bits, below, power, rfl⟩ := few
  cases power with
  | zero =>
    have single : twoTo 0 = 1 := rfl
    rwa [single, Nat.mul_one]
  | succ power =>
    rw [twoTo_succ, ← Nat.mul_assoc] at odd
    omega

namespace Magnitude

variable {num den : Nat} {size : Magnitude}

/-- The exact value of a magnitude. -/
def value (size : Magnitude) : ℚ := size.numerator / size.denominator

theorem value_zero : zero.value = 0 := by
  have nothing : zero.numerator = 0 := Nat.zero_mul _
  rw [value, nothing, Nat.cast_zero, zero_div]

theorem value_of_ofQuotient? (filled : num ≠ 0) (found : ofQuotient? num den = some size) :
    size.value = scaled num den (exponentOf num den) * 2 ^ exponentOf num den := by
  have parts {mantissa : Nat} {exponent : Int} (made : ofParts? mantissa exponent = some size) :
      size.value = mantissa * 2 ^ exponent := by
    unfold ofParts? at made
    split at made
    · cases made
      exact value_eq _
    · cases made
  simp only [ofQuotient?, if_neg filled] at found
  split at found
  · next carried =>
    -- The carry moves a power of two from the mantissa to the exponent.
    rw [parts found, carried, cast_twoTo, cast_twoTo, zpow_add₀ (by norm_num)]
    ring
  · exact parts found

theorem scaled_of_nonpos {exponent : Int} (low : exponent ≤ 0) :
    scaled num 1 exponent = num * twoTo (-exponent).toNat := by
  have unit : twoTo exponent.toNat = 1 := by
    rw [Int.toNat_of_nonpos low]
    rfl
  rw [scaled, unit, roundHalfEven_one]

theorem scaled_of_dvd {power whole : Nat} : scaled (whole * twoTo power) 1 power = whole := by
  have unit : twoTo (-(power : Int)).toNat = 1 := by
    rw [Int.toNat_of_nonpos (by omega)]
    rfl
  rw [scaled, unit, Int.toNat_natCast, Nat.mul_one, roundHalfEven_mul_right (twoTo_pos power),
    roundHalfEven_one]

theorem exists_whole (found : ofQuotient? num 1 = some size) : ∃ whole : Nat, size.value = whole := by
  by_cases filled : num = 0
  · subst filled
    cases found
    exact ⟨0, by rw [value_zero, Nat.cast_zero]⟩
  rw [value_of_ofQuotient? filled found]
  obtain ⟨power, shape | shape⟩ := (exponentOf num 1).eq_nat_or_neg
  · rw [shape]
    exact ⟨scaled num 1 power * twoTo power, by rw [Nat.cast_mul, cast_twoTo, zpow_natCast]⟩
  · rw [shape, scaled_of_nonpos (by omega), neg_neg, Int.toNat_natCast]
    exact ⟨num, by simp [cast_twoTo]⟩

theorem value_of_fewBits (few : FewBits num) (found : ofQuotient? num 1 = some size) :
    size.value = num := by
  by_cases filled : num = 0
  · subst filled
    cases found
    rw [value_zero, Nat.cast_zero]
  rw [value_of_ofQuotient? filled found]
  obtain ⟨bits, below, power, same⟩ := few
  obtain ⟨shift, shape | shape⟩ := (exponentOf num 1).eq_nat_or_neg
  · rw [shape]
    -- The highest bit tells how many zeros the last 53 bits leave, and there are no fewer.
    have zeros : shift ≤ power := by
      rw [exponentOf_whole filled] at shape
      have high : num.log2 < 53 + power := by
        rw [Nat.log2_lt filled, Nat.pow_add, same]
        exact Nat.mul_lt_mul_of_pos_right below (twoTo_pos power)
      omega
    have split : num = bits * twoTo (power - shift) * twoTo shift := by
      rw [same, Nat.mul_assoc]
      show _ = bits * (2 ^ _ * 2 ^ _)
      rw [← Nat.pow_add, Nat.sub_add_cancel zeros]
      rfl
    conv_rhs => rw [split]
    rw [split, scaled_of_dvd, Nat.cast_mul _ (twoTo shift), cast_twoTo shift, zpow_natCast]
  · rw [shape, scaled_of_nonpos (by omega), neg_neg, Int.toNat_natCast]
    simp [cast_twoTo]

theorem fewBits_of_value (same : size.value = num) : FewBits num := by
  obtain ⟨power, shape | shape⟩ := size.exponent.eq_nat_or_neg
  all_goals rw [value, value_eq, shape] at same
  · rw [zpow_natCast, ← cast_twoTo] at same
    exact ⟨size.mantissa, size.canonical.1, power, by exact_mod_cast same.symm⟩
  · have scaled : size.mantissa = num * twoTo power := by
      have unit : (2 : ℚ) ^ power ≠ 0 := by positivity
      rw [zpow_neg, zpow_natCast, ← div_eq_mul_inv, div_eq_iff unit, ← cast_twoTo] at same
      exact_mod_cast same
    refine fewBits_of_le (Nat.le_of_lt (Nat.lt_of_le_of_lt ?_ size.canonical.1))
    rw [scaled]
    exact Nat.le_mul_of_pos_right num (twoTo_pos power)

/-- The number next to a whole number is that number exactly when it has few bits. -/
theorem value_eq_iff_fewBits (found : ofQuotient? num 1 = some size) :
    size.value = num ↔ FewBits num :=
  ⟨fewBits_of_value, fun few => value_of_fewBits few found⟩

end Magnitude

namespace Binary64

/-- The exact value of a number that is finite. -/
def value? : Binary64 → Option ℚ
  | .finite negative size => some (if negative then -size.value else size.value)
  | _ => none

end Binary64

end LoanDispatch.Number
