import LoanDispatch.Text.Blank
import Mathlib.Data.List.DropRight

/-!
Trimmed texts.  What is taken off the end of a text leaves its beginning alone, so a trimmed text is
clear of blanks at both ends, trimming it again changes nothing, and something is left of every text
that is more than blanks.
-/

set_option autoImplicit false

namespace LoanDispatch.Text

/-- A text that begins with no blank still does after its end is trimmed. -/
theorem dropWhile_trimEnd {cs : List Char} (clear : cs.dropWhile isBlank = cs) :
    (trimEnd cs).dropWhile isBlank = trimEnd cs := by
  have kept : trimEnd cs <+: cs := List.rdropWhile_prefix isBlank cs
  refine List.dropWhile_eq_self_iff.mpr fun filled => ?_
  rw [kept.getElem filled]
  exact List.dropWhile_eq_self_iff.mp clear _

theorem trimChars_trimChars (cs : List Char) : trimChars (trimChars cs) = trimChars cs := by
  have clear := dropWhile_trimEnd (List.dropWhile_idempotent isBlank cs)
  rw [trimChars, trimChars, clear]
  exact List.rdropWhile_idempotent isBlank _

@[simp] theorem trim_trim (words : String) : trim (trim words) = trim words := by
  rw [trim, trim, String.toList_ofList, trimChars_trimChars]

/-- The text is more than blanks. -/
def Filled (words : String) : Prop := ∃ c ∈ words.toList, isBlank c = false

/-- No blank stands at either end of the text. -/
structure Clear (words : String) : Prop where
  first : ∀ c, words.toList.head? = some c → isBlank c = false
  last : ∀ c, words.toList.getLast? = some c → isBlank c = false

theorem Clear.trim_eq {words : String} (clear : Clear words) : trim words = words := by
  have front : words.toList.dropWhile isBlank = words.toList := by
    refine List.dropWhile_eq_self_iff.mpr fun filled => Bool.eq_false_iff.mp (clear.first _ ?_)
    rw [List.head?_eq_getElem?, List.getElem?_eq_getElem filled]
  have back : trimEnd words.toList = words.toList :=
    List.rdropWhile_eq_self_iff.mpr fun filled =>
      Bool.eq_false_iff.mp (clear.last _ (List.getLast?_eq_getLast_of_ne_nil filled))
  rw [trim, trimChars, front, back, String.ofList_toList]

theorem trim_ne_empty_iff {words : String} : trim words ≠ "" ↔ Filled words := by
  have empty : trim words = "" ↔ trimChars words.toList = [] := by
    rw [← String.toList_inj, trim, String.toList_ofList, String.toList_empty]
  -- What is left after the front has been cleared begins with no blank.
  have none_left : trimChars words.toList = [] ↔ ∀ c ∈ words.toList, isBlank c = true := by
    rw [← List.dropWhile_eq_nil_iff]
    constructor
    · intro cleared
      have end_blank := List.rdropWhile_eq_nil_iff.mp cleared
      rw [← List.dropWhile_idempotent]
      exact List.dropWhile_eq_nil_iff.mpr end_blank
    · intro cleared
      rw [trimChars, cleared]
      rfl
  rw [Ne, empty, none_left, Filled]
  simp

theorem clear_trim (words : String) : Clear (trim words) where
  first c head := by
    have clear := dropWhile_trimEnd (List.dropWhile_idempotent isBlank words.toList)
    rw [trim, String.toList_ofList, trimChars, List.head?_eq_getElem?] at head
    obtain ⟨filled, rfl⟩ := List.getElem?_eq_some_iff.mp head
    exact Bool.eq_false_iff.mpr (List.dropWhile_eq_self_iff.mp clear filled)
  last c tail := by
    rw [trim, String.toList_ofList] at tail
    obtain ⟨filled, rfl⟩ := List.mem_getLast?_eq_getLast (Option.mem_def.mpr tail)
    exact Bool.eq_false_iff.mpr (List.rdropWhile_last_not isBlank _ filled)

end LoanDispatch.Text
