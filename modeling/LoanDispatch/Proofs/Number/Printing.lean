import LoanDispatch.Proofs.Calendar.Digits
import LoanDispatch.Proofs.Number.Reading
import Mathlib.Tactic.Ring

/-!
A natural number is read back from the digits that it is printed with, as long as they are not too
many to be read.
-/

set_option autoImplicit false

namespace LoanDispatch.Number

open Text

theorem decimalValue?_of_isDigit {c : Char} (digit : c.isDigit = true) :
    decimalValue? c = some (c.toNat - '0'.toNat) := by
  have low : '0'.toNat ≤ c.toNat := (Char.isDigit_iff_toNat.mp digit).1
  have high : c.toNat ≤ '9'.toNat := (Char.isDigit_iff_toNat.mp digit).2
  have small : c.toNat - '0'.toNat < 10 := by
    simp only [Char.reduceToNat] at low high ⊢
    omega
  have value : ∀ digit < 10, decimalValue? (Char.ofNat ('0'.toNat + digit)) = some digit := by
    decide +kernel
  have read := value _ small
  rwa [Nat.add_sub_cancel' low, Char.ofNat_toNat] at read

theorem isDecimal_of_isDigit {c : Char} (digit : c.isDigit = true) : isDecimal c = true := by
  rw [isDecimal, decimalValue?_of_isDigit digit]
  rfl

theorem underscoredDigits_of_digits {cs : List Char} (digits : ∀ c ∈ cs, c.isDigit = true) :
    underscoredDigits decimalValue? true cs = some (cs.map fun c => c.toNat - '0'.toNat) := by
  induction cs with
  | nil => rfl
  | cons c rest ih =>
    have digit := digits c List.mem_cons_self
    have numeral : isNumeral c = true := by simp [isNumeral, isDecimal_of_isDigit digit]
    rw [underscoredDigits_cons numeral, decimalValue?_of_isDigit digit,
      ih fun other member => digits other (.tail c member)]
    rfl

variable {n : Nat}

theorem isDigit_of_mem_toString {c : Char} (member : c ∈ (toString n).toList) :
    c.isDigit = true := by
  rw [Nat.toString_eq_repr, Nat.toList_repr] at member
  exact Nat.isDigit_of_mem_toDigits (by decide) (by decide) member

theorem toString_toList_ne_nil : (toString n).toList ≠ [] := by
  rw [Nat.toString_eq_repr, Nat.toList_repr]
  exact Nat.toDigits_ne_nil

theorem ofDigits_toString :
    ofDigits 10 ((toString n).toList.map fun c => c.toNat - '0'.toNat) = n := by
  -- A number fills the width of nothing by its digits alone.
  have plain : padZeros 0 n = toString n := by simp [padZeros]
  rw [← plain]
  exact Calendar.ofDigits_padZeros 0 n

theorem toString_inj {other : Nat} : toString n = toString other ↔ n = other := by
  constructor
  · intro same
    rw [← ofDigits_toString (n := n), same, ofDigits_toString]
  · rintro rfl
    rfl

theorem allNumerals_toString : allNumerals (toString n).toList = true :=
  allNumerals_of_decimals toString_toList_ne_nil
    fun _ member => isDecimal_of_isDigit (isDigit_of_mem_toString member)

theorem readInteger_toString (few : (toString n).length ≤ maxIntegerDigits) :
    readInteger (toString n) = .ok n := by
  have digits := underscoredDigits_of_digits fun c => isDigit_of_mem_toString (n := n) (c := c)
  have enough : ((toString n).toList.map fun c => c.toNat - '0'.toNat).length
      ≤ maxIntegerDigits := by
    rwa [List.length_map, String.length_toList]
  have read : readInteger? (toString n) = some (n : Int) := by
    rw [readInteger?_of_numerals allNumerals_toString, digits]
    dsimp only
    rw [if_pos enough, ofDigits_toString]
  simp only [readInteger, read]

theorem unreadable_toString (many : maxIntegerDigits < (toString n).length) :
    Unreadable (toString n) :=
  ⟨allNumerals_toString, .inr many⟩

/-- The digits of a number are read as that number, or not at all when they are too many. -/
theorem readInteger_toString_iff :
    readInteger (toString n) = .ok n ↔ (toString n).length ≤ maxIntegerDigits := by
  constructor
  · intro read
    rcases Nat.lt_or_ge maxIntegerDigits (toString n).length with many | few
    · cases (readInteger_of_unreadable (unreadable_toString many)).symm.trans read
    · exact few
  · exact readInteger_toString

/-- The values of digit characters. -/
def digitValues (cs : List Char) : List Nat := cs.map fun c => c.toNat - '0'.toNat

section Digits

variable {cs others : List Char}

theorem digitValues_append : digitValues (cs ++ others) = digitValues cs ++ digitValues others :=
  List.map_append

theorem length_digitValues : (digitValues cs).length = cs.length := List.length_map _

theorem digitValues_zeros (count : Nat) :
    digitValues (List.replicate count '0') = List.replicate count 0 := by
  simp [digitValues]

theorem ofDigits_append (front back : List Nat) :
    ofDigits 10 (front ++ back) = ofDigits 10 front * 10 ^ back.length + ofDigits 10 back := by
  have shifted : ∀ (digits : List Nat) (start : Nat),
      digits.foldl (fun n digit => n * 10 + digit) start
        = start * 10 ^ digits.length + ofDigits 10 digits := by
    intro digits
    induction digits with
    | nil => simp [ofDigits]
    | cons digit rest ih =>
      intro start
      rw [ofDigits, List.foldl_cons, List.foldl_cons, ih, ih (0 * 10 + digit), List.length_cons]
      ring
  rw [ofDigits, List.foldl_append, shifted]
  rfl

theorem ofDigits_zeros (count : Nat) : ofDigits 10 (List.replicate count 0) = 0 := by
  induction count with
  | zero => rfl
  | succ count ih =>
    rw [List.replicate_succ, ← List.singleton_append, ofDigits_append, ih]
    simp [ofDigits]

theorem ofDigits_lt (digits : List Nat) (small : ∀ digit ∈ digits, digit < 10) :
    ofDigits 10 digits < 10 ^ digits.length := by
  induction digits with
  | nil => decide
  | cons digit rest ih =>
    obtain ⟨first, later⟩ := List.forall_mem_cons.mp small
    have low := ih later
    have single : ofDigits 10 [digit] = digit := by simp [ofDigits]
    rw [← List.singleton_append, ofDigits_append, single, List.length_append, Nat.pow_add]
    calc digit * 10 ^ rest.length + ofDigits 10 rest
        < digit * 10 ^ rest.length + 10 ^ rest.length := by omega
      _ = (digit + 1) * 10 ^ rest.length := by ring
      _ ≤ 10 ^ [digit].length * 10 ^ rest.length := Nat.mul_le_mul_right _ first

theorem digitValue_lt {c : Char} (digit : c.isDigit = true) : c.toNat - '0'.toNat < 10 := by
  have high : c.toNat ≤ '9'.toNat := (Char.isDigit_iff_toNat.mp digit).2
  simp only [Char.reduceToNat] at high ⊢
  omega

/-- The digits of a number do not begin with a zero, unless it is zero. -/
theorem head?_toString_ne_zero {n : Nat} (filled : n ≠ 0) :
    (toString n).toList.head? ≠ some '0' := by
  intro zero
  obtain ⟨rest, shape⟩ := List.head?_eq_some_iff.mp zero
  have digits : ∀ digit ∈ digitValues rest, digit < 10 := by
    intro digit member
    obtain ⟨c, among, rfl⟩ := List.mem_map.mp member
    exact digitValue_lt (isDigit_of_mem_toString (n := n) (shape ▸ List.mem_cons_of_mem _ among))
  have value : ofDigits 10 (digitValues rest) = n := by
    have whole := ofDigits_toString (n := n)
    rw [shape] at whole
    exact whole
  have small := ofDigits_lt _ digits
  rw [value, length_digitValues] at small
  have long : (toString n).toList.length = rest.length + 1 := by rw [shape]; rfl
  rw [Nat.toString_eq_repr, Nat.toList_repr] at long
  cases rest with
  | nil => exact filled value.symm
  | cons c others =>
    rw [List.length_cons] at long
    have short := (Nat.length_toDigits_le_iff (by decide) (Nat.succ_pos _)).mpr small
    omega

end Digits

end LoanDispatch.Number
