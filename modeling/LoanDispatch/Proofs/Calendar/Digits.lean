import LoanDispatch.Calendar.Printer
import LoanDispatch.Calendar.Reader
import Mathlib.Algebra.Group.Nat.Defs
import Mathlib.Data.List.Basic

/-!
Numbers in a fixed count of digits.  What is filled with zeros to a width is read back from its
digits, whatever follows them.
-/

set_option autoImplicit false

namespace LoanDispatch.Calendar

open Number Text

theorem asciiDigit?_of_isDigit {c : Char} (digit : c.isDigit = true) :
    asciiDigit? c = some (c.toNat - '0'.toNat) := by
  simp only [Char.isDigit, Bool.and_eq_true, decide_eq_true_eq] at digit
  exact if_pos digit

theorem ne_of_isDigit {c other : Char} (digit : c.isDigit = true) (plain : other.isDigit = false) :
    c ≠ other := by
  rintro rfl
  rw [digit] at plain
  cases plain

theorem padZeros_toList (width n : Nat) :
    (padZeros width n).toList
      = List.replicate (width - (Nat.toDigits 10 n).length) '0' ++ Nat.toDigits 10 n := by
  have digits : (toString n).toList = Nat.toDigits 10 n := by
    rw [Nat.toString_eq_repr, Nat.toList_repr]
  simp only [padZeros, String.toList_append, String.toList_ofList, ← digits, String.length_toList]

theorem isDigit_of_mem_padZeros {width n : Nat} {c : Char}
    (member : c ∈ (padZeros width n).toList) : c.isDigit = true := by
  rw [padZeros_toList] at member
  rcases List.mem_append.mp member with zero | digit
  · rw [List.eq_of_mem_replicate zero]
    rfl
  · exact Nat.isDigit_of_mem_toDigits (by decide) (by decide) digit

/-- The text is made of digits and marks. -/
def Spells (marks : List Char) (s : String) : Prop :=
  ∀ c ∈ s.toList, c.isDigit = true ∨ c ∈ marks

section Spelling

variable {marks : List Char} {first second : String}

@[simp] theorem spells_empty : Spells marks "" := fun _ member => nomatch member

@[simp] theorem spells_append :
    Spells marks (first ++ second) ↔ Spells marks first ∧ Spells marks second := by
  simp only [Spells, String.toList_append, List.forall_mem_append]

@[simp] theorem spells_padZeros (width n : Nat) : Spells marks (padZeros width n) :=
  fun _ member => .inl (isDigit_of_mem_padZeros member)

theorem spells_mark {c : Char} (single : first.toList = [c]) (marked : c ∈ marks) :
    Spells marks first := by
  intro other member
  rw [single] at member
  exact .inr (List.mem_singleton.mp member ▸ marked)

theorem Spells.notMem (spells : Spells marks first) {c : Char} (plain : c.isDigit = false)
    (unmarked : c ∉ marks) : c ∉ first.toList := by
  intro member
  rcases spells c member with digit | marked
  · exact ne_of_isDigit digit plain rfl
  · exact unmarked marked

end Spelling

variable {width n : Nat}

theorem length_padZeros (filled : 0 < width) (small : n < 10 ^ width) :
    (padZeros width n).toList.length = width := by
  have short := (Nat.length_toDigits_le_iff (by decide) filled).mpr small
  rw [padZeros_toList, List.length_append, List.length_replicate]
  omega

private theorem foldl_values (cs : List Char) (start : Nat) :
    (cs.map fun c => c.toNat - '0'.toNat).foldl (fun n digit => n * 10 + digit) start
      = Nat.ofDigitChars 10 cs start := by
  rw [Nat.ofDigitChars_eq_foldl, List.foldl_map]
  simp only [Nat.mul_comm]

/-- The digits give the number back, since zeros in front of it do not count. -/
theorem ofDigits_padZeros (width n : Nat) :
    ofDigits 10 ((padZeros width n).toList.map fun c => c.toNat - '0'.toNat) = n := by
  rw [ofDigits, foldl_values, padZeros_toList, Nat.ofDigitChars_append,
    Nat.ofDigitChars_replicate_zero, Nat.mul_zero, Nat.ofDigitChars_ten_toDigits]

theorem exactDigits?_padZeros (filled : 0 < width) (small : n < 10 ^ width) (rest : List Char) :
    exactDigits? width ((padZeros width n).toList ++ rest) = some (n, rest) := by
  have count := length_padZeros filled small
  have digits : (padZeros width n).toList.filterMap asciiDigit?
      = (padZeros width n).toList.map fun c => c.toNat - '0'.toNat := by
    rw [← List.filterMap_eq_map]
    exact List.filterMap_congr fun c member =>
      asciiDigit?_of_isDigit (isDigit_of_mem_padZeros member)
  simp only [exactDigits?, List.take_left' count, List.drop_left' count, digits, List.length_map,
    count, if_true, ofDigits_padZeros]

/-- A number that fits its width begins with a digit. -/
theorem head_padZeros (filled : 0 < width) (small : n < 10 ^ width) :
    ∃ digit rest, (padZeros width n).toList = digit :: rest ∧ digit.isDigit = true := by
  have count := length_padZeros filled small
  cases shape : (padZeros width n).toList with
  | nil =>
    rw [shape] at count
    exact absurd count (Nat.ne_of_lt filled)
  | cons digit rest =>
    exact ⟨digit, rest, rfl, isDigit_of_mem_padZeros (shape ▸ List.mem_cons_self)⟩

end LoanDispatch.Calendar
