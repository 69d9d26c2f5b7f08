import LoanDispatch.Number.Shortest
import LoanDispatch.Proofs.Number.Range
import Mathlib.Algebra.Order.Field.Power
import Mathlib.Data.Int.Log
import Mathlib.Data.Rat.Floor
import Mathlib.Tactic.FieldSimp
import Mathlib.Tactic.Linarith

/-!
The nearest number depends on the value of a quotient or of a decimal alone, and a magnitude is the
nearest one to its own value.  So the shortest decimal of a number reads back as that number.
-/

set_option autoImplicit false

namespace LoanDispatch.Number

section Powers

theorem cast_twoTo (power : Nat) : (twoTo power : ℚ) = 2 ^ power := by
  simp [twoTo]

theorem cast_tenTo (power : Nat) : (tenTo power : ℚ) = 10 ^ power := by
  simp [tenTo]

theorem cast_fiveTo (power : Nat) : (fiveTo power : ℚ) = 5 ^ power := by
  simp [fiveTo]

theorem tenTo_le {power other : Nat} (low : power ≤ other) : tenTo power ≤ tenTo other :=
  Nat.pow_le_pow_right (by decide) low

/-- A power to an integer as the quotient of two powers to natural numbers. -/
theorem pow_toNat {base : ℚ} (filled : base ≠ 0) (exponent : Int) :
    base ^ exponent.toNat = base ^ exponent * base ^ (-exponent).toNat := by
  obtain ⟨power, rfl | rfl⟩ := exponent.eq_nat_or_neg
  · simp
  · simp [filled]

end Powers

section Rounding

theorem roundHalfEven_mul_right {unit : Nat} (positive : 0 < unit) (num den : Nat) :
    roundHalfEven (num * unit) (den * unit) = roundHalfEven num den := by
  have above : den * unit < 2 * (num % den * unit) ↔ den < 2 * (num % den) := by
    rw [← Nat.mul_assoc, Nat.mul_lt_mul_right positive]
  have half : 2 * (num % den * unit) = den * unit ↔ 2 * (num % den) = den := by
    rw [← Nat.mul_assoc, Nat.mul_left_inj (Nat.ne_of_gt positive)]
  simp only [roundHalfEven, Nat.mul_div_mul_right _ _ positive, Nat.mul_mod_mul_right, above, half]

theorem roundHalfEven_congr {num den otherNum otherDen : Nat} (positive : 0 < den)
    (otherPositive : 0 < otherDen) (same : num * otherDen = otherNum * den) :
    roundHalfEven num den = roundHalfEven otherNum otherDen := by
  rw [← roundHalfEven_mul_right otherPositive num den, same,
    ← roundHalfEven_mul_right positive otherNum otherDen, Nat.mul_comm den]

theorem roundHalfEven_one (num : Nat) : roundHalfEven num 1 = num := by
  simp [roundHalfEven, Nat.mod_one]

theorem roundHalfEven_eq_zero {num den : Nat} (small : 2 * num < den) :
    roundHalfEven num den = 0 := by
  have below : num < den := by omega
  simp only [roundHalfEven, Nat.div_eq_of_lt below, Nat.mod_eq_of_lt below]
  split <;> omega

end Rounding

namespace Magnitude

variable {num den otherNum otherDen : Nat}

theorem log_lt {value : ℚ} {power : Int} (positive : 0 < value) (high : value < (2 : ℚ) ^ power) :
    Int.log 2 value < power :=
  (Int.lt_zpow_iff_log_lt (b := 2) (by decide) positive).mp (by exact_mod_cast high)

theorem log_eq {value : ℚ} {power : Int} (low : (2 : ℚ) ^ power ≤ value)
    (high : value < (2 : ℚ) ^ (power + 1)) : Int.log 2 value = power := by
  have positive : 0 < value := lt_of_lt_of_le (by positivity) low
  have least := (Int.zpow_le_iff_le_log (b := 2) (by decide) positive).mp (by exact_mod_cast low)
  have most := log_lt positive high
  omega

theorem twoTo_log2_le (filled : num ≠ 0) : (2 : ℚ) ^ num.log2 ≤ num := by
  exact_mod_cast Nat.log2_self_le filled

theorem lt_twoTo_log2 (num : Nat) : (num : ℚ) < 2 ^ (num.log2 + 1) := by
  exact_mod_cast Nat.lt_log2_self

theorem fits_iff (positive : 0 < den) (exponent : Int) :
    twoTo 52 * (den * twoTo exponent.toNat) ≤ num * twoTo (-exponent).toNat
      ↔ (2 : ℚ) ^ (exponent + 52) ≤ num / den := by
  have unit : (0 : ℚ) < 2 ^ (-exponent).toNat := by positivity
  have filled : (0 : ℚ) < den := by exact_mod_cast positive
  have scaled : (2 : ℚ) ^ 52 * (den * 2 ^ exponent.toNat)
      = 2 ^ (exponent + 52) * den * 2 ^ (-exponent).toNat := by
    rw [pow_toNat (by norm_num), zpow_add₀ (by norm_num)]
    norm_cast
    ring
  rw [le_div_iff₀ filled, ← mul_le_mul_iff_left₀ unit, ← scaled, ← cast_twoTo, ← cast_twoTo,
    ← cast_twoTo]
  norm_cast

theorem le_quotient (filled : num ≠ 0) (positive : 0 < den) :
    (2 : ℚ) ^ ((num.log2 : Int) - den.log2 - 1) ≤ num / den := by
  have denFilled : (0 : ℚ) < den := by exact_mod_cast positive
  rw [le_div_iff₀ denFilled]
  calc (2 : ℚ) ^ ((num.log2 : Int) - den.log2 - 1) * den
      ≤ 2 ^ ((num.log2 : Int) - den.log2 - 1) * 2 ^ (den.log2 + 1) := by
        gcongr
        exact (lt_twoTo_log2 den).le
    _ = 2 ^ num.log2 := by
        rw [← zpow_natCast, ← zpow_add₀ (by norm_num), ← zpow_natCast]
        congr 1
        push_cast
        ring
    _ ≤ num := twoTo_log2_le filled

theorem quotient_lt (positive : 0 < den) :
    (num : ℚ) / den < 2 ^ ((num.log2 : Int) - den.log2 + 1) := by
  have denFilled : (0 : ℚ) < den := by exact_mod_cast positive
  rw [div_lt_iff₀ denFilled]
  calc (num : ℚ) < 2 ^ (num.log2 + 1) := lt_twoTo_log2 num
    _ = 2 ^ ((num.log2 : Int) - den.log2 + 1) * 2 ^ den.log2 := by
        rw [← zpow_natCast, ← zpow_natCast, ← zpow_add₀ (by norm_num)]
        congr 1
        push_cast
        ring
    _ ≤ 2 ^ ((num.log2 : Int) - den.log2 + 1) * den := by
        gcongr
        exact twoTo_log2_le (Nat.ne_of_gt positive)

/-- The exponent is read off the binary logarithm of the quotient. -/
theorem exponentOf_eq_log (filled : num ≠ 0) (positive : 0 < den) :
    exponentOf num den = max (Int.log 2 ((num : ℚ) / den) - 52) (-1074) := by
  have above := le_quotient filled positive
  have below := @quotient_lt num den positive
  unfold exponentOf
  dsimp only
  congr 1
  split
  · next fits =>
    have low := (fits_iff positive _).mp fits
    have top : (num.log2 : Int) - den.log2 + 1 = (num.log2 : Int) - den.log2 - 52 + 52 + 1 := by ring
    rw [top] at below
    rw [log_eq low below]
    ring
  · next small =>
    have high := lt_of_not_ge (mt (fits_iff positive _).mpr small)
    have top : (num.log2 : Int) - den.log2 - 52 + 52 = (num.log2 : Int) - den.log2 - 1 + 1 := by ring
    rw [top] at high
    rw [log_eq above high]
    ring

theorem scaled_congr (positive : 0 < den) (otherPositive : 0 < otherDen)
    (same : num * otherDen = otherNum * den) (exponent : Int) :
    scaled num den exponent = scaled otherNum otherDen exponent := by
  refine roundHalfEven_congr (Nat.mul_pos positive (twoTo_pos _))
    (Nat.mul_pos otherPositive (twoTo_pos _)) ?_
  rw [Nat.mul_mul_mul_comm, same, Nat.mul_mul_mul_comm]

/-- Equal quotients have one nearest magnitude. -/
theorem ofQuotient?_congr (positive : 0 < den) (otherPositive : 0 < otherDen)
    (same : (num : ℚ) / den = otherNum / otherDen) :
    ofQuotient? num den = ofQuotient? otherNum otherDen := by
  have denFilled : (den : ℚ) ≠ 0 := by exact_mod_cast Nat.ne_of_gt positive
  have otherFilled : (otherDen : ℚ) ≠ 0 := by exact_mod_cast Nat.ne_of_gt otherPositive
  have crossed : num * otherDen = otherNum * den := by
    exact_mod_cast (div_eq_div_iff denFilled otherFilled).mp same
  by_cases zero : num = 0
  · have otherZero : otherNum = 0 := by
      rw [zero, Nat.zero_mul] at crossed
      exact (Nat.mul_eq_zero.mp crossed.symm).resolve_right (Nat.ne_of_gt positive)
    simp only [ofQuotient?, zero, otherZero, if_true]
  · have otherNonzero : otherNum ≠ 0 := by
      rintro rfl
      rw [Nat.zero_mul] at crossed
      exact (Nat.mul_eq_zero.mp crossed).elim zero (Nat.ne_of_gt otherPositive)
    simp only [ofQuotient?, if_neg zero, if_neg otherNonzero, exponentOf_eq_log zero positive,
      exponentOf_eq_log otherNonzero otherPositive, same,
      scaled_congr positive otherPositive crossed]

theorem value_eq (size : Magnitude) :
    (size.numerator : ℚ) / size.denominator = size.mantissa * 2 ^ size.exponent := by
  have filled : (2 : ℚ) ^ (-size.exponent).toNat ≠ 0 := by positivity
  rw [numerator, denominator, Nat.cast_mul, cast_twoTo, cast_twoTo, pow_toNat (by norm_num),
    div_eq_iff filled]
  ring

theorem exponentOf_self (size : Magnitude) (filled : size.mantissa ≠ 0) :
    exponentOf size.numerator size.denominator = size.exponent := by
  obtain ⟨below, least, _, subnormal⟩ := size.canonical
  have units : size.numerator ≠ 0 :=
    Nat.mul_ne_zero filled (Nat.ne_of_gt (twoTo_pos _))
  have positive : (0 : ℚ) < size.mantissa := by exact_mod_cast Nat.pos_of_ne_zero filled
  have unit : (0 : ℚ) < 2 ^ size.exponent := by positivity
  rw [exponentOf_eq_log units size.denominator_pos, value_eq]
  by_cases full : twoTo 52 ≤ size.mantissa
  · have low : (2 : ℚ) ^ (size.exponent + 52) ≤ size.mantissa * 2 ^ size.exponent := by
      have bits : (2 : ℚ) ^ 52 ≤ size.mantissa := by
        rw [← cast_twoTo]
        exact_mod_cast full
      rw [zpow_add₀ (by norm_num), mul_comm]
      exact mul_le_mul_of_nonneg_right (by exact_mod_cast bits) unit.le
    have high : (size.mantissa : ℚ) * 2 ^ size.exponent < 2 ^ (size.exponent + 52 + 1) := by
      have bits : (size.mantissa : ℚ) < 2 ^ 53 := by
        rw [← cast_twoTo]
        exact_mod_cast below
      rw [add_assoc, zpow_add₀ (by norm_num), mul_comm ((2 : ℚ) ^ size.exponent)]
      exact mul_lt_mul_of_pos_right (by exact_mod_cast bits) unit
    rw [log_eq low high]
    omega
  · have last := subnormal.resolve_left full
    have high : (size.mantissa : ℚ) * 2 ^ size.exponent < 2 ^ (size.exponent + 52) := by
      have bits : (size.mantissa : ℚ) < 2 ^ 52 := by
        rw [← cast_twoTo]
        exact_mod_cast Nat.lt_of_not_le full
      rw [zpow_add₀ (by norm_num), mul_comm ((2 : ℚ) ^ size.exponent)]
      exact mul_lt_mul_of_pos_right (by exact_mod_cast bits) unit
    have short := log_lt (by positivity) high
    omega

theorem scaled_self (size : Magnitude) :
    scaled size.numerator size.denominator size.exponent = size.mantissa := by
  have units : 0 < twoTo (-size.exponent).toNat * twoTo size.exponent.toNat :=
    Nat.mul_pos (twoTo_pos _) (twoTo_pos _)
  have exact : scaled size.numerator size.denominator size.exponent
      = roundHalfEven (size.mantissa * (twoTo (-size.exponent).toNat * twoTo size.exponent.toNat))
          (1 * (twoTo (-size.exponent).toNat * twoTo size.exponent.toNat)) := by
    rw [scaled, numerator, denominator, Nat.one_mul]
    congr 1
    ring
  rw [exact, roundHalfEven_mul_right units, roundHalfEven_one]

theorem eq_zero_of_mantissa {size : Magnitude} (empty : size.mantissa = 0) : size = zero := by
  obtain ⟨mantissa, exponent, canonical⟩ := size
  obtain rfl : mantissa = 0 := empty
  obtain rfl : exponent = -1074 :=
    canonical.2.2.2.resolve_left (Nat.not_le_of_gt (twoTo_pos 52))
  rfl

/-- A magnitude is the nearest one to its own value. -/
theorem ofQuotient?_self (size : Magnitude) :
    ofQuotient? size.numerator size.denominator = some size := by
  by_cases empty : size.mantissa = 0
  · rw [eq_zero_of_mantissa empty]
    rfl
  · have units : size.numerator ≠ 0 := Nat.mul_ne_zero empty (Nat.ne_of_gt (twoTo_pos _))
    have small : size.mantissa ≠ twoTo 53 := Nat.ne_of_lt size.canonical.1
    simp only [ofQuotient?, if_neg units, exponentOf_self size empty, scaled_self, if_neg small,
      ofParts?, dif_pos size.canonical]

end Magnitude

/-- The value that a decimal stands for. -/
def Decimal.value (d : Decimal) : ℚ := d.coefficient * 10 ^ d.exponent

namespace Binary64

variable {coefficient : Nat} {exponent : Int}

theorem ofQuotient?_of_large (filled : coefficient ≠ 0) (large : 310 < exponent) :
    Magnitude.ofQuotient? (coefficient * tenTo exponent.toNat) (tenTo (-exponent).toNat) = none := by
  have whole : tenTo (-exponent).toNat = 1 := by
    rw [Int.toNat_of_nonpos (by omega)]
    rfl
  have beyond : overflow ≤ coefficient * tenTo exponent.toNat := by
    calc overflow ≤ tenTo 311 := by decide +kernel
      _ ≤ tenTo exponent.toNat := tenTo_le (by omega)
      _ ≤ coefficient * tenTo exponent.toNat := Nat.le_mul_of_pos_left _ (Nat.pos_of_ne_zero filled)
  have none := (ofInt?_eq_none_iff ((coefficient * tenTo exponent.toNat : Nat) : Int)).mpr
    (by rwa [Int.natAbs_natCast])
  rw [ofInt?, Option.map_eq_none_iff, Int.natAbs_natCast] at none
  rw [whole, none]

/-- Ten is more than eight, so a power of ten has three bits for each unit of its exponent. -/
theorem lt_tenTo_of_bits {bits : Nat} (few : (coefficient.log2 : Int) + bits < -exponent * 3) :
    coefficient * twoTo bits < tenTo (-exponent).toNat := by
  calc coefficient * twoTo bits < twoTo (coefficient.log2 + 1) * twoTo bits :=
        Nat.mul_lt_mul_of_pos_right Nat.lt_log2_self (twoTo_pos _)
    _ = 2 ^ (coefficient.log2 + 1 + bits) := (Nat.pow_add 2 _ _).symm
    _ ≤ 2 ^ (3 * (-exponent).toNat) := Nat.pow_le_pow_right (by decide) (by omega)
    _ = 8 ^ (-exponent).toNat := by rw [Nat.pow_mul]
    _ ≤ tenTo (-exponent).toNat := Nat.pow_le_pow_left (by decide) _

theorem log_le_of_bits {bits : Nat} (filled : coefficient ≠ 0)
    (few : (coefficient.log2 : Int) + bits < -exponent * 3) :
    Int.log 2 ((coefficient : ℚ) / tenTo (-exponent).toNat) < -(bits : Int) := by
  have positive : (0 : ℚ) < coefficient := by exact_mod_cast Nat.pos_of_ne_zero filled
  have unit : (0 : ℚ) < tenTo (-exponent).toNat := by exact_mod_cast tenTo_pos _
  have far : ((coefficient * twoTo bits : Nat) : ℚ) < tenTo (-exponent).toNat := by
    exact_mod_cast lt_tenTo_of_bits few
  rw [Nat.cast_mul, cast_twoTo] at far
  refine Magnitude.log_lt (div_pos positive unit) ?_
  rw [div_lt_iff₀ unit, zpow_neg, inv_mul_eq_div, lt_div_iff₀ (by positivity), zpow_natCast]
  exact far

theorem ofQuotient?_of_tiny (filled : coefficient ≠ 0)
    (tiny : (coefficient.log2 : Int) + exponent * 3 < -1100) :
    Magnitude.ofQuotient? (coefficient * tenTo exponent.toNat) (tenTo (-exponent).toNat)
      = some .zero := by
  have whole : tenTo exponent.toNat = 1 := by
    rw [Int.toNat_of_nonpos (by omega)]
    rfl
  have bits : (coefficient.log2 : Int) + (1074 + 1 : Nat) < -exponent * 3 := by
    push_cast
    omega
  have least : Magnitude.exponentOf coefficient (tenTo (-exponent).toNat) = -1074 := by
    rw [Magnitude.exponentOf_eq_log filled (tenTo_pos _)]
    have low := log_le_of_bits filled bits
    push_cast at low
    omega
  have none : Magnitude.scaled coefficient (tenTo (-exponent).toNat) (-1074) = 0 := by
    have far := lt_tenTo_of_bits bits
    rw [twoTo_succ] at far
    have unit : twoTo (-1074 : Int).toNat = 1 := rfl
    have shift : (-(-1074 : Int)).toNat = 1074 := by decide
    rw [Magnitude.scaled, unit, shift, Nat.mul_one]
    refine roundHalfEven_eq_zero ?_
    rwa [Nat.mul_comm 2, Nat.mul_assoc]
  rw [whole, Nat.mul_one]
  simp only [Magnitude.ofQuotient?, if_neg filled, least, none]
  rfl

/-- What is decided by the count of digits is what the nearest number is anyway. -/
theorem ofDecimal_eq_ofQuotient (negative : Bool) (coefficient : Nat) (exponent : Int) :
    ofDecimal negative coefficient exponent
      = ofQuotient negative (coefficient * tenTo exponent.toNat) (tenTo (-exponent).toNat) := by
  rw [ofDecimal]
  split
  · next zero =>
    rw [zero, Nat.zero_mul]
    rfl
  · next filled =>
    split
    · next large => rw [ofQuotient, ofQuotient?_of_large filled large]
    · split
      · next tiny => rw [ofQuotient, ofQuotient?_of_tiny filled tiny]
      · rfl

theorem value_eq_quotient (d : Decimal) :
    d.value = ((d.coefficient * tenTo d.exponent.toNat : Nat) : ℚ) / tenTo (-d.exponent).toNat := by
  have filled : (10 : ℚ) ^ (-d.exponent).toNat ≠ 0 := by positivity
  rw [Decimal.value, Nat.cast_mul, cast_tenTo, cast_tenTo, pow_toNat (by norm_num), eq_div_iff filled]
  ring

/-- Decimals of one value are read as one number. -/
theorem ofDecimal_congr {d other : Decimal} (same : d.value = other.value) (negative : Bool) :
    ofDecimal negative d.coefficient d.exponent
      = ofDecimal negative other.coefficient other.exponent := by
  rw [value_eq_quotient, value_eq_quotient] at same
  rw [ofDecimal_eq_ofQuotient, ofDecimal_eq_ofQuotient, ofQuotient, ofQuotient,
    Magnitude.ofQuotient?_congr (tenTo_pos _) (tenTo_pos _) same]

/-- A decimal with the value of a magnitude is read as it. -/
theorem ofDecimal_of_value {d : Decimal} {size : Magnitude}
    (same : d.value = (size.numerator : ℚ) / size.denominator) (negative : Bool) :
    ofDecimal negative d.coefficient d.exponent = .finite negative size := by
  rw [value_eq_quotient] at same
  rw [ofDecimal_eq_ofQuotient, ofQuotient,
    Magnitude.ofQuotient?_congr (tenTo_pos _) size.denominator_pos same, Magnitude.ofQuotient?_self]

theorem ofDecimal_sign {negative other : Bool} {size : Magnitude} {d : Decimal}
    (read : ofDecimal negative d.coefficient d.exponent = .finite negative size) :
    ofDecimal other d.coefficient d.exponent = .finite other size := by
  rw [ofDecimal_eq_ofQuotient, ofQuotient] at read ⊢
  split at read
  · next found =>
    cases read
    rfl
  · cases read

end Binary64

namespace Magnitude

open Binary64

variable {size : Magnitude}

theorem value_exactDecimal (size : Magnitude) :
    size.exactDecimal.value = (size.numerator : ℚ) / size.denominator := by
  rw [value_eq]
  obtain ⟨power, shape | shape⟩ := size.exponent.eq_nat_or_neg
  · simp [Decimal.value, exactDecimal, shape, cast_twoTo, cast_fiveTo]
  · have tens : (10 : ℚ) ^ power = 2 ^ power * 5 ^ power := by
      rw [← mul_pow]
      norm_num
    simp [Decimal.value, exactDecimal, shape, cast_twoTo, cast_fiveTo, tens]
    field_simp

theorem readsBack_iff {d : Decimal} :
    size.readsBack d = true ↔ ofDecimal false d.coefficient d.exponent = .finite false size := by
  rw [readsBack, beq_iff_eq]

theorem readsBack_of_onGrid? {exponent : Int} {d : Decimal}
    (found : size.onGrid? exponent = some d) : size.readsBack d = true := by
  unfold onGrid? at found
  dsimp only at found
  split at found
  · next below =>
    split at found
    · next both =>
      cases found
      exact (Bool.and_eq_true_iff.mp both).1
    · cases found
      exact below
  · split at found
    · next above =>
      cases found
      exact above
    · cases found

theorem readsBack_of_searchGrids {fuel : Nat} {exponent : Int} {d : Decimal}
    (found : size.searchGrids fuel exponent = some d) : size.readsBack d = true := by
  induction fuel generalizing exponent with
  | zero => cases found
  | succ fuel ih =>
    rw [searchGrids] at found
    split at found
    · next hit =>
      cases found
      exact readsBack_of_onGrid? hit
    · exact ih found

theorem value_stripZeros (d : Decimal) (fuel : Nat) : (d.stripZeros fuel).value = d.value := by
  induction fuel generalizing d with
  | zero => rfl
  | succ fuel ih =>
    rw [Decimal.stripZeros]
    split
    · next last =>
      rw [ih]
      have whole : ((d.coefficient / 10 : Nat) : ℚ) * 10 = d.coefficient := by
        exact_mod_cast Nat.div_mul_cancel (Nat.dvd_of_mod_eq_zero last.2)
      rw [Decimal.value, Decimal.value, ← whole, zpow_add₀ (by norm_num)]
      ring
    · rfl

/-- The shortest decimal of a magnitude reads back as it, whatever the sign. -/
theorem ofDecimal_shortest (size : Magnitude) (negative : Bool) :
    ofDecimal negative size.shortest.coefficient size.shortest.exponent = .finite negative size := by
  unfold shortest
  split
  · next empty =>
    rw [eq_zero_of_mantissa empty]
    rfl
  · rw [ofDecimal_congr (value_stripZeros _ _)]
    cases search : size.searchGrids 17 (decimalExponent size.numerator size.denominator 40
        (((size.numerator.log2 : Int) - (size.denominator.log2 : Int)) * 3 / 10)) with
    | some d => exact ofDecimal_sign (readsBack_iff.mp (readsBack_of_searchGrids search))
    | none => exact ofDecimal_of_value (value_exactDecimal size) negative

end Magnitude

end LoanDispatch.Number
