import LoanDispatch.Number.Fixed
import LoanDispatch.Proofs.Json.Number
import LoanDispatch.Proofs.Number.Integral

/-!
Amounts as they are written.  Without its commas an amount is a numeral with two digits after the
point, at most half a hundredth away from the number; the commas stand between groups of three
digits.  Whole numbers are written exactly.
-/

set_option autoImplicit false

namespace LoanDispatch.Number

open Json (Numeral)

/-- Digits with a comma before each group of three that follows the first group. -/
inductive Grouped : List Char → List Char → Prop where
  | first {digits : List Char} : digits ≠ [] → digits.length ≤ 3 → Grouped digits digits
  | next {digits grouped group : List Char} :
      Grouped digits grouped → group.length = 3 → Grouped (digits ++ group) (grouped ++ ',' :: group)

section Grouping

variable {digits grouped : List Char}

theorem grouped_groupReversed (cs : List Char) (filled : cs ≠ []) :
    Grouped cs.reverse (groupReversed cs).reverse := by
  fun_induction groupReversed cs with
  | case1 a b c d rest ih =>
    have group := (ih (List.cons_ne_nil d rest)).next (rfl : [c, b, a].length = 3)
    simpa using group
  | case2 cs short =>
    refine .first (mt List.reverse_eq_nil_iff.mp filled) ?_
    rw [List.length_reverse]
    by_contra long
    match cs with
    | a :: b :: c :: d :: rest => exact short a b c d rest rfl
    | [] | [_] | [_, _] | [_, _, _] => simp at long

theorem grouped_groupThousands (filled : digits ≠ []) : Grouped digits (groupThousands digits) := by
  have group := grouped_groupReversed digits.reverse (mt List.reverse_eq_nil_iff.mp filled)
  rwa [List.reverse_reverse] at group

theorem Grouped.filter (group : Grouped digits grouped) (plain : ∀ c ∈ digits, c ≠ ',') :
    grouped.filter (· ≠ ',') = digits := by
  induction group with
  | first _ _ => simpa using plain
  | next _ _ ih =>
    obtain ⟨front, last⟩ := List.forall_mem_append.mp plain
    have kept := List.filter_eq_self.mpr fun c member => decide_eq_true (last c member)
    rw [List.filter_append, ih front, List.filter_cons_of_neg (by simp), kept]

end Grouping

theorem abs_roundHalfEven_sub_le (num : Nat) {den : Nat} (positive : 0 < den) :
    |(roundHalfEven num den : ℚ) - num / den| ≤ 1 / 2 := by
  obtain ⟨above, below⟩ := roundHalfEven_near num den positive
  have filled : (0 : ℚ) < den := by exact_mod_cast positive
  have above : (2 : ℚ) * num ≤ (2 * roundHalfEven num den + 1) * den := by exact_mod_cast above
  have below : (2 : ℚ) * roundHalfEven num den * den ≤ 2 * num + den := by exact_mod_cast below
  have low : (num : ℚ) / den ≤ roundHalfEven num den + 1 / 2 := by
    rw [div_le_iff₀ filled]
    linarith
  have high : (roundHalfEven num den : ℚ) - 1 / 2 ≤ num / den := by
    rw [le_div_iff₀ filled]
    linarith
  rw [abs_le]
  constructor <;> linarith

/-- A number in hundredths, rounded. -/
def Magnitude.hundredths (size : Magnitude) : Nat :=
  roundHalfEven (size.numerator * 100) size.denominator

theorem Magnitude.abs_hundredths_sub_le (size : Magnitude) :
    |(size.hundredths : ℚ) / 100 - size.value| ≤ 1 / 200 := by
  have near := abs_roundHalfEven_sub_le (size.numerator * 100) size.denominator_pos
  have scaled : (size.hundredths : ℚ) / 100 - size.value
      = (size.hundredths - ((size.numerator * 100 : Nat) : ℚ) / size.denominator) / 100 := by
    rw [value]
    push_cast
    ring
  rw [scaled, abs_div, abs_of_pos (by norm_num : (0 : ℚ) < 100), div_le_iff₀ (by norm_num)]
  exact near.trans (by norm_num)

theorem Magnitude.hundredths_of_whole {size : Magnitude} {whole : Nat} (same : size.value = whole) :
    size.hundredths = whole * 100 := by
  have filled : (size.denominator : ℚ) ≠ 0 := by exact_mod_cast Nat.ne_of_gt size.denominator_pos
  rw [value, div_eq_iff filled] at same
  have multiple : size.numerator = whole * size.denominator := by exact_mod_cast same
  have units : size.numerator * 100 = whole * 100 * size.denominator := by
    rw [multiple]
    ring
  have exact := roundHalfEven_mul_right size.denominator_pos (whole * 100) 1
  rwa [Nat.one_mul, roundHalfEven_one, ← units] at exact

end LoanDispatch.Number

namespace LoanDispatch.Json.Numeral

/-- What a numeral stands for. -/
def signed (numeral : Numeral) : ℚ :=
  if numeral.negative then -numeral.decimal.value else numeral.decimal.value

end LoanDispatch.Json.Numeral

namespace LoanDispatch.Number

open Json (Numeral)

/-- Without its commas the text is a numeral with two digits after the point, and the commas stand
between groups of three whole digits. -/
structure WritesAmount (words : String) (numeral : Numeral) : Prop where
  sound : numeral.Sound
  places : numeral.fraction.length = 2
  unscaled : numeral.exponent = none
  plain : words.toList.filter (· ≠ ',') = numeral.chars
  grouped : ∃ grouped, Grouped numeral.whole grouped ∧
    words.toList
      = (if numeral.negative then ['-'] else []) ++ grouped ++ '.' :: numeral.fraction

/-- The text stands for an amount that is at most half a hundredth away from the number. -/
def ShowsAmount (words : String) (exact : ℚ) : Prop :=
  ∃ numeral, WritesAmount words numeral ∧ |numeral.signed - exact| ≤ 1 / 200

namespace WritesAmount

variable {words : String} {numeral other : Numeral}

theorem fractionChars_eq (written : WritesAmount words numeral) :
    numeral.fractionChars ++ (numeral.exponentChars ++ []) = '.' :: numeral.fraction := by
  have filled := List.ne_nil_of_length_eq_add_one written.places
  rw [Numeral.fractionChars, if_neg filled, Numeral.exponentChars, written.unscaled,
    List.append_nil, List.append_nil]

theorem unique (written : WritesAmount words numeral) (also : WritesAmount words other) :
    numeral = other := by
  -- The sign is read off the front, and the fraction is the last two digits.
  have parts : Json.takeMinus (numeral.chars ++ []) = _ := written.sound.takeMinus_chars
  rw [← written.plain, also.plain, also.sound.takeMinus_chars, written.fractionChars_eq,
    also.fractionChars_eq] at parts
  obtain ⟨sign, digits⟩ := Prod.mk.inj parts
  have places : ('.' :: other.fraction).length = ('.' :: numeral.fraction).length := by
    rw [List.length_cons, List.length_cons, written.places, also.places]
  obtain ⟨whole, fraction⟩ := List.append_inj' digits places
  have exponent := written.unscaled.trans also.unscaled.symm
  cases numeral
  cases other
  simp_all

theorem showsAmount_iff (written : WritesAmount words numeral) (exact : ℚ) :
    ShowsAmount words exact ↔ |numeral.signed - exact| ≤ 1 / 200 := by
  constructor
  · rintro ⟨other, also, near⟩
    rwa [written.unique also]
  · intro near
    exact ⟨numeral, written, near⟩

end WritesAmount

/-- The numeral of so many hundredths. -/
def amountNumeral (negative : Bool) (units : Nat) : Numeral :=
  ⟨negative, (toString (units / 100)).toList, (Text.padZeros 2 (units % 100)).toList, none⟩

section Amount

variable (negative : Bool) (units : Nat) (size : Magnitude)

theorem whole_amountNumeral :
    (amountNumeral negative units).whole = (toString (units / 100)).toList := by
  rw [amountNumeral]

theorem fraction_amountNumeral :
    (amountNumeral negative units).fraction = (Text.padZeros 2 (units % 100)).toList := by
  rw [amountNumeral]

theorem length_fraction_amountNumeral : (amountNumeral negative units).fraction.length = 2 := by
  have small : units % 100 < 10 ^ 2 := Nat.mod_lt units (by decide)
  rw [fraction_amountNumeral]
  exact Calendar.length_padZeros (by decide) small

theorem sound_amountNumeral : (amountNumeral negative units).Sound where
  whole_digits c member := by
    rw [whole_amountNumeral] at member
    exact isDigit_of_mem_toString member
  whole_filled := by
    rw [whole_amountNumeral]
    exact toString_toList_ne_nil
  leading := by
    rw [whole_amountNumeral]
    by_cases zero : units / 100 = 0
    · left
      rw [zero]
      rfl
    · exact .inr (head?_toString_ne_zero zero)
  fraction_digits c member := by
    rw [fraction_amountNumeral] at member
    exact Calendar.isDigit_of_mem_padZeros member
  exponent_digits := nofun

theorem signed_amountNumeral :
    (amountNumeral negative units).signed
      = if negative then -((units : ℚ) / 100) else (units : ℚ) / 100 := by
  have whole : ofDigits 10 (digitValues (toString (units / 100)).toList) = units / 100 :=
    ofDigits_toString
  have fraction : ofDigits 10 (digitValues (Text.padZeros 2 (units % 100)).toList) = units % 100 :=
    Calendar.ofDigits_padZeros 2 (units % 100)
  have count : (digitValues (Text.padZeros 2 (units % 100)).toList).length = 2 := by
    rw [length_digitValues, ← fraction_amountNumeral negative]
    exact length_fraction_amountNumeral negative units
  have coefficient : ofDigits 10 (digitValues
      ((amountNumeral negative units).whole ++ (amountNumeral negative units).fraction))
      = units * 10 ^ 0 := by
    rw [whole_amountNumeral, fraction_amountNumeral, digitValues_append, ofDigits_append, count,
      whole, fraction]
    omega
  have value : (amountNumeral negative units).decimal.value = Decimal.value ⟨units, -2⟩ :=
    Numeral.value_eq _ 0 coefficient (by rw [length_fraction_amountNumeral]; rfl)
  have hundredth : Decimal.value ⟨units, -2⟩ = (units : ℚ) / 100 := by
    rw [Decimal.value, div_eq_mul_inv]
    norm_num
  rw [Numeral.signed, value, hundredth, amountNumeral]

theorem digits_amountFormat (num den : Nat) :
    amountFormat.digits num den
      = groupThousands (toString (roundHalfEven (num * 100) den / 100)).toList
        ++ '.' :: (Text.padZeros 2 (roundHalfEven (num * 100) den % 100)).toList := by
  have hundred : tenTo 2 = 100 := rfl
  have rounded : ¬ (2 : Nat) = 0 := by decide
  simp only [AmountFormat.digits, fixedDigits, amountFormat, hundred, if_neg rounded, if_true]

theorem amountText_toList :
    ((Binary64.finite negative size).amountText amountFormat).toList
      = (if negative then ['-'] else [])
        ++ groupThousands (amountNumeral negative size.hundredths).whole
        ++ '.' :: (amountNumeral negative size.hundredths).fraction := by
  rw [Binary64.amountText, digits_amountFormat, whole_amountNumeral, fraction_amountNumeral,
    Magnitude.hundredths, String.toList_append, String.toList_ofList, List.append_assoc]
  cases negative <;> rfl

theorem writesAmount_amountText :
    WritesAmount ((Binary64.finite negative size).amountText amountFormat)
      (amountNumeral negative size.hundredths) := by
  have sound := sound_amountNumeral negative size.hundredths
  have apart {c : Char} (digit : c.isDigit = true) : c ≠ ',' := Calendar.ne_of_isDigit digit rfl
  have group := grouped_groupThousands sound.whole_filled
  have whole := group.filter fun c member => apart (sound.whole_digits c member)
  have fraction : (amountNumeral negative size.hundredths).fraction.filter (· ≠ ',')
      = (amountNumeral negative size.hundredths).fraction :=
    List.filter_eq_self.mpr fun c member =>
      decide_eq_true (apart (sound.fraction_digits c member))
  have filled :=
    List.ne_nil_of_length_eq_add_one (length_fraction_amountNumeral negative size.hundredths)
  refine ⟨sound, length_fraction_amountNumeral _ _, rfl, ?_, _, group, amountText_toList _ _⟩
  rw [amountText_toList, List.filter_append, List.filter_append, whole,
    List.filter_cons_of_pos (by simp), fraction, Numeral.chars, Numeral.fractionChars,
    if_neg filled, List.append_assoc]
  cases negative <;> simp [amountNumeral, Numeral.exponentChars]

theorem showsAmount_amountText :
    ShowsAmount ((Binary64.finite negative size).amountText amountFormat)
      (if negative then -size.value else size.value) := by
  refine ⟨_, writesAmount_amountText negative size, ?_⟩
  have near := size.abs_hundredths_sub_le
  rw [signed_amountNumeral]
  cases negative with
  | true =>
    rw [if_pos rfl, if_pos rfl, neg_sub_neg, abs_sub_comm]
    exact near
  | false => exact near

section Whole

variable {number : Int} {near : Binary64}

/-- An integer is written as the number next to it, which is whole, with zeros after the point. -/
theorem writesAmount_ofInt? (found : Binary64.ofInt? number = some near) :
    ∃ numeral, WritesAmount (near.amountText amountFormat) numeral ∧
      numeral.fraction = ['0', '0'] ∧ near.value? = some numeral.signed ∧
      ∃ shown : Int, numeral.signed = shown ∧ (shown = number ↔ FewBits number.natAbs) := by
  obtain ⟨size, nearest, rfl⟩ := Option.map_eq_some_iff.mp found
  obtain ⟨whole, same⟩ := Magnitude.exists_whole nearest
  have units := Magnitude.hundredths_of_whole same
  have signed : (amountNumeral (decide (number < 0)) size.hundredths).signed
      = if decide (number < 0) then -size.value else size.value := by
    rw [signed_amountNumeral, units, same, Nat.cast_mul, Nat.cast_ofNat,
      mul_div_cancel_right₀ (whole : ℚ) (by norm_num)]
  refine ⟨_, writesAmount_amountText _ _, ?_, ?_,
    if number < 0 then -(whole : Int) else whole, ?_, ?_⟩
  · rw [fraction_amountNumeral, units, Nat.mul_mod_left]
    decide
  · rw [signed, Binary64.value?]
  · rw [signed, same]
    split <;> simp_all
  · rw [← Magnitude.value_eq_iff_fewBits nearest, same, Nat.cast_inj]
    split <;> omega

theorem showsAmount_ofInt?_iff (found : Binary64.ofInt? number = some near) :
    ShowsAmount (near.amountText amountFormat) number ↔ FewBits number.natAbs := by
  obtain ⟨numeral, written, -, -, shown, value, exact⟩ := writesAmount_ofInt? found
  rw [written.showsAmount_iff, value, ← exact, ← Int.cast_sub, ← Int.cast_abs]
  constructor
  · -- What is shown is whole, so it is the integer itself or at least one away from it.
    intro small
    have none : |shown - number| < 1 := by
      have below : ((|shown - number| : Int) : ℚ) < 1 := lt_of_le_of_lt small (by norm_num)
      exact_mod_cast below
    exact Int.sub_eq_zero.mp (Int.abs_lt_one_iff.mp none)
  · rintro rfl
    norm_num

end Whole

end Amount

end LoanDispatch.Number
