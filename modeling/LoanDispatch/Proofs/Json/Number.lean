import LoanDispatch.Proofs.Json.Numeral
import LoanDispatch.Value.Printed
import Mathlib.Tactic.FieldSimp

/-!
The numerals that numbers are written as.  An integer is its digits; a decimal has its point placed
among its digits, or an exponent.  Either way the numeral has the value of what is written, so the
shortest decimal of a number is read as that number.
-/

set_option autoImplicit false

namespace LoanDispatch.Json

open Number

namespace Numeral

def ofInt (number : Int) : Numeral :=
  ⟨decide (number < 0), (toString number.natAbs).toList, [], none⟩

theorem chars_ofInt (number : Int) : (ofInt number).chars = (toString number).toList := by
  have plain : (ofInt number).chars = (if number < 0 then ['-'] else [])
      ++ (toString number.natAbs).toList := by
    simp [ofInt, chars, fractionChars, exponentChars]
  rw [plain]
  cases number with
  | ofNat size =>
    have natural : ¬ Int.ofNat size < 0 := Int.not_lt.mpr (Int.natCast_nonneg size)
    rw [if_neg natural]
    rfl
  | negSucc size =>
    have written : toString (Int.negSucc size) = "-" ++ toString (size + 1) := rfl
    rw [if_pos (Int.negSucc_lt_zero size), written, String.toList_append]
    rfl

theorem sound_ofInt (number : Int) : (ofInt number).Sound where
  whole_digits _ member := isDigit_of_mem_toString member
  whole_filled := toString_toList_ne_nil
  leading := by
    by_cases zero : number.natAbs = 0
    · left
      rw [ofInt, zero]
      rfl
    · exact .inr (head?_toString_ne_zero zero)
  fraction_digits _ member := by cases member
  exponent_digits _ member := by cases member

theorem read?_ofInt {number : Int} (short : Value.isLong number = false) :
    (ofInt number).read? = some (.int number) := by
  have few : (ofInt number).whole.length ≤ maxIntegerDigits := by
    rw [Value.isLong, decide_eq_false_iff_not, Nat.not_lt] at short
    rwa [ofInt, Nat.toString_eq_repr, Nat.toList_repr]
  have size : (ofInt number).decimal.coefficient = number.natAbs := by
    rw [decimal, ofInt, List.append_nil]
    exact ofDigits_toString
  rw [read?, if_pos ⟨rfl, rfl⟩, if_pos few, size]
  simp only [ofInt, decide_eq_true_eq]
  congr 2
  split <;> omega

/-- A decimal with its point after so many of its digits. -/
def positional (negative : Bool) (digits : List Char) (point : Int) : Numeral :=
  if point ≤ 0 then ⟨negative, ['0'], List.replicate (-point).toNat '0' ++ digits, none⟩
  else if (digits.length : Int) ≤ point then
    ⟨negative, digits ++ List.replicate (point.toNat - digits.length) '0', ['0'], none⟩
  else ⟨negative, digits.take point.toNat, digits.drop point.toNat, none⟩

def scientific (layout : FloatLayout) (negative : Bool) (digits : List Char) (power : Int) :
    Numeral :=
  let exponentDigits := (toString power.natAbs).toList
  let padding := List.replicate (layout.exponentWidth - exponentDigits.length) '0'
  ⟨negative, digits.take 1, digits.drop 1, some (decide (power < 0), padding ++ exponentDigits)⟩

/-- A decimal as its layout writes it. -/
def ofDecimal (layout : FloatLayout) (negative : Bool) (d : Decimal) : Numeral :=
  let digits := (toString d.coefficient).toList
  let point : Int := digits.length + d.exponent
  if d.coefficient = 0 then ⟨negative, ['0'], ['0'], none⟩
  else if layout.leastPositional ≤ point - 1 ∧ point - 1 < layout.firstScientific then
    positional negative digits point
  else scientific layout negative digits (point - 1)

section Chars

variable {negative : Bool} {digits : List Char}

theorem chars_positional (filled : digits ≠ []) (point : Int) :
    (positional negative digits point).chars
      = (if negative then ['-'] else []) ++ positionalDigits digits point := by
  unfold positional positionalDigits
  split
  · simp [chars, fractionChars, exponentChars, filled]
  · split
    · simp [chars, fractionChars, exponentChars]
    · have inside : digits.drop point.toNat ≠ [] := by
        rw [Ne, List.drop_eq_nil_iff]
        omega
      simp [chars, fractionChars, exponentChars, inside]

theorem chars_scientific (layout : FloatLayout) (power : Int) :
    (scientific layout negative digits power).chars
      = (if negative then ['-'] else []) ++ scientificDigits layout digits power := by
  have fraction : (scientific layout negative digits power).fractionChars
      = if digits.length ≤ 1 then [] else '.' :: digits.drop 1 := by
    unfold fractionChars scientific
    split
    · next single => rw [if_pos (List.drop_eq_nil_iff.mp single)]
    · next more => rw [if_neg (mt List.drop_eq_nil_iff.mpr more)]
  rw [chars, fraction]
  simp [scientific, scientificDigits, exponentChars]

theorem chars_ofDecimal (layout : FloatLayout) (negative : Bool) (d : Decimal) :
    (ofDecimal layout negative d).chars
      = (if negative then ['-'] else []) ++ d.layOut layout := by
  unfold ofDecimal Decimal.layOut
  dsimp only
  split
  · rfl
  · split
    · exact chars_positional toString_toList_ne_nil _
    · exact chars_scientific layout _

end Chars

section Sound

variable {negative : Bool} {digits : List Char}

theorem isDigit_of_mem_zeros {count : Nat} {c : Char} (member : c ∈ List.replicate count '0') :
    c.isDigit = true := by
  rw [List.eq_of_mem_replicate member]
  rfl

theorem sound_positional (each : ∀ c ∈ digits, c.isDigit = true) (filled : digits ≠ [])
    (leading : digits.head? ≠ some '0') (point : Int) :
    (positional negative digits point).Sound := by
  unfold positional
  split
  · exact {
      whole_digits := by simp
      whole_filled := by simp
      leading := .inl rfl
      fraction_digits := fun c member =>
        (List.mem_append.mp member).elim isDigit_of_mem_zeros (each c)
      exponent_digits := nofun }
  · split
    · exact {
        whole_digits := fun c member =>
          (List.mem_append.mp member).elim (each c) isDigit_of_mem_zeros
        whole_filled := fun empty => filled (List.append_eq_nil_iff.mp empty).1
        leading := .inr (by rwa [List.head?_append_of_ne_nil _ filled])
        fraction_digits := by simp
        exponent_digits := nofun }
    · next inside _ =>
      exact {
        whole_digits := fun c member => each c (List.mem_of_mem_take member)
        whole_filled := by
          rw [Ne, List.take_eq_nil_iff]
          exact not_or.mpr ⟨by omega, filled⟩
        leading := .inr (by rwa [List.head?_take, if_neg (by omega)])
        fraction_digits := fun c member => each c (List.mem_of_mem_drop member)
        exponent_digits := nofun }

theorem sound_scientific (layout : FloatLayout) (each : ∀ c ∈ digits, c.isDigit = true)
    (filled : digits ≠ []) (leading : digits.head? ≠ some '0') (power : Int) :
    (scientific layout negative digits power).Sound where
  whole_digits c member := each c (List.mem_of_mem_take member)
  whole_filled := by
    rw [scientific, Ne, List.take_eq_nil_iff]
    exact not_or.mpr ⟨Nat.one_ne_zero, filled⟩
  leading := .inr (by rwa [scientific, List.head?_take, if_neg Nat.one_ne_zero])
  fraction_digits c member := each c (List.mem_of_mem_drop member)
  exponent_digits := by
    rintro _ ⟨⟩
    exact ⟨fun empty => toString_toList_ne_nil (List.append_eq_nil_iff.mp empty).2,
      fun c member => (List.mem_append.mp member).elim isDigit_of_mem_zeros isDigit_of_mem_toString⟩

theorem sound_ofDecimal (layout : FloatLayout) (negative : Bool) (d : Decimal) :
    (ofDecimal layout negative d).Sound := by
  unfold ofDecimal
  dsimp only
  split
  · exact ⟨by simp, by simp, .inl rfl, by simp, nofun⟩
  · next nonzero =>
    have each : ∀ c ∈ (toString d.coefficient).toList, c.isDigit = true :=
      fun _ => isDigit_of_mem_toString
    split
    · exact sound_positional each toString_toList_ne_nil (head?_toString_ne_zero nonzero) _
    · exact sound_scientific layout each toString_toList_ne_nil (head?_toString_ne_zero nonzero) _

end Sound

section Value

variable {negative : Bool} {digits : List Char}

theorem value_eq (numeral : Numeral) {coefficient : Nat} {exponent : Int} (zeros : Nat)
    (whole : ofDigits 10 (digitValues (numeral.whole ++ numeral.fraction))
      = coefficient * 10 ^ zeros)
    (power : numeral.exponentValue?.getD 0 - numeral.fraction.length = exponent - zeros) :
    numeral.decimal.value = Decimal.value ⟨coefficient, exponent⟩ := by
  have shift : (10 : ℚ) ^ (exponent - zeros) * 10 ^ zeros = 10 ^ exponent := by
    rw [← zpow_natCast, ← zpow_add₀ (by norm_num), Int.sub_add_cancel]
  rw [decimal, whole, power, Decimal.value, Decimal.value, ← shift]
  push_cast
  ring

theorem value_positional (exponent : Int) :
    (positional negative digits (digits.length + exponent)).decimal.value
      = Decimal.value ⟨ofDigits 10 (digitValues digits), exponent⟩ := by
  unfold positional
  split
  · refine value_eq _ 0 ?_ ?_
    · have zero : digitValues ['0'] = List.replicate 1 0 := rfl
      simp only [digitValues_append, digitValues_zeros, zero, ofDigits_append, ofDigits_zeros]
      simp
    · simp [exponentValue?]
      omega
  · split
    · refine value_eq _ ((digits.length + exponent).toNat - digits.length + 1) ?_ ?_
      · have zero : digitValues ['0'] = List.replicate 1 0 := rfl
        simp only [digitValues_append, digitValues_zeros, zero, ofDigits_append, ofDigits_zeros]
        simp
        ring
      · simp [exponentValue?]
        omega
    · refine value_eq _ 0 ?_ ?_
      · rw [List.take_append_drop, Nat.pow_zero, Nat.mul_one]
      · simp [exponentValue?]
        omega

theorem value_scientific (layout : FloatLayout) (filled : digits ≠ []) (exponent : Int) :
    (scientific layout negative digits (digits.length + exponent - 1)).decimal.value
      = Decimal.value ⟨ofDigits 10 (digitValues digits), exponent⟩ := by
  refine value_eq _ 0 ?_ ?_
  · rw [scientific, List.take_append_drop, Nat.pow_zero, Nat.mul_one]
  · have long := List.length_pos_iff.mpr filled
    have padded (count n : Nat) :
        ofDigits 10 (digitValues (List.replicate count '0' ++ (toString n).toList)) = n := by
      rw [digitValues_append, digitValues_zeros, ofDigits_append, ofDigits_zeros, Nat.zero_mul,
        Nat.zero_add]
      exact ofDigits_toString
    simp only [scientific, exponentValue?, Option.map_some, Option.getD_some, padded,
      decide_eq_true_eq, List.length_drop]
    split
    · next below =>
      rw [Int.ofNat_natAbs_of_nonpos below.le, neg_neg]
      omega
    · next above =>
      rw [Int.natAbs_of_nonneg (Int.not_lt.mp above)]
      omega

theorem value_ofDecimal (layout : FloatLayout) (negative : Bool) (d : Decimal) :
    (ofDecimal layout negative d).decimal.value = d.value := by
  have digits : ofDigits 10 (digitValues (toString d.coefficient).toList) = d.coefficient :=
    ofDigits_toString
  unfold ofDecimal
  dsimp only
  split
  · next zero =>
    have empty : d.value = 0 := by rw [Decimal.value, zero, Nat.cast_zero, zero_mul]
    rw [empty]
    norm_num [Decimal.value, decimal, digitValues, ofDigits]
  · split
    · rw [value_positional, digits]
    · rw [value_scientific layout toString_toList_ne_nil, digits]

end Value

theorem not_plain_ofDecimal (layout : FloatLayout) (negative : Bool) (d : Decimal) :
    ¬ ((ofDecimal layout negative d).fraction = []
      ∧ (ofDecimal layout negative d).exponent = none) := by
  unfold ofDecimal
  dsimp only
  split
  · simp
  · split
    · unfold positional
      split
      · simp
      · split
        · simp
        · simp only [List.drop_eq_nil_iff]
          omega
    · simp [scientific]

theorem negative_ofDecimal (layout : FloatLayout) (negative : Bool) (d : Decimal) :
    (ofDecimal layout negative d).negative = negative := by
  unfold ofDecimal positional scientific
  dsimp only
  split_ifs <;> rfl

/-- The shortest decimal of a number is read as that number. -/
theorem read?_ofDecimal_shortest (layout : FloatLayout) (negative : Bool) (size : Magnitude) :
    (ofDecimal layout negative size.shortest).read? = some (.float (.finite negative size)) := by
  rw [read?, if_neg (not_plain_ofDecimal layout negative _), negative_ofDecimal,
    Binary64.ofDecimal_congr (value_ofDecimal layout negative _), Magnitude.ofDecimal_shortest]

end Numeral

end LoanDispatch.Json
