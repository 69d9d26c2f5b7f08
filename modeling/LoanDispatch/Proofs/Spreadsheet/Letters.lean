import LoanDispatch.Proofs.Spreadsheet.Address
import Mathlib.Data.List.Induction
import Mathlib.Data.List.Shortlex
import Mathlib.Data.Set.Function

/-!
The lettering of columns is a bijective numeration in base 26.  Every word of capital letters names
one column, the words are read back by their place values, and columns stand in the order of their
words: shorter ones first, and words of one length alphabetically.
-/

set_option autoImplicit false

namespace LoanDispatch.Spreadsheet

/-- A word that can name a column. -/
structure IsColumnName (word : String) : Prop where
  filled : word ≠ ""
  capitals : ∀ c ∈ word.toList, 'A' ≤ c ∧ c ≤ 'Z'

/-- The index that a word is read as, letter by letter from the left. -/
def wordIndex (word : String) : Int :=
  word.toList.foldl (fun number c => 26 * number + ((c.toNat : Int) - 64)) 0 - 1

section Letter

variable {c : Char}

theorem letterValue_of_capital (capital : 'A' ≤ c ∧ c ≤ 'Z') :
    (letterValue c : Int) = (c.toNat : Int) - 64 := by
  have low : 'A'.toNat ≤ c.toNat := capital.1
  simp only [letterValue, Char.reduceToNat] at low ⊢
  omega

theorem letterValue_bounds (capital : 'A' ≤ c ∧ c ≤ 'Z') :
    1 ≤ letterValue c ∧ letterValue c ≤ 26 := by
  have high : c.toNat ≤ 'Z'.toNat := capital.2
  simp only [letterValue, Char.reduceToNat] at high ⊢
  omega

theorem letterOf_letterValue (capital : 'A' ≤ c ∧ c ≤ 'Z') : letterOf (letterValue c - 1) = c := by
  have low : 'A'.toNat ≤ c.toNat := capital.1
  have place : 'A'.toNat + (letterValue c - 1) = c.toNat := by
    rw [letterValue]
    omega
  rw [letterOf, place, Char.ofNat_toNat]

theorem letterOf_lt {one other : Nat} (less : one < other) (small : other < 26) :
    letterOf one < letterOf other :=
  (by decide : ∀ other < 26, ∀ one < other, letterOf one < letterOf other) other small one less

end Letter

section Words

@[simp] theorem lettersFrom_zero (tail : List Char) : lettersFrom 0 tail = tail := by
  rw [lettersFrom, dif_pos rfl]

theorem lettersFrom_succ_append (number : Nat) (tail : List Char) :
    lettersFrom (number + 1) tail
      = lettersFrom (number / 26) (letterOf (number % 26) :: tail) := by
  rw [lettersFrom, dif_neg (Nat.succ_ne_zero number), Nat.add_sub_cancel]

theorem lettersFrom_append (number : Nat) (tail : List Char) :
    lettersFrom number tail = lettersFrom number [] ++ tail := by
  induction number using Nat.strongRecOn generalizing tail with
  | ind number ih =>
    cases number with
    | zero => simp
    | succ number =>
      have less : number / 26 < number + 1 := by omega
      rw [lettersFrom_succ_append, lettersFrom_succ_append, ih _ less,
        ih _ less [letterOf (number % 26)], List.append_assoc, List.singleton_append]

theorem lettersFrom_succ (number : Nat) :
    lettersFrom (number + 1) [] = lettersFrom (number / 26) [] ++ [letterOf (number % 26)] := by
  rw [lettersFrom_succ_append, lettersFrom_append]

theorem lettersValue_concat (cs : List Char) (c : Char) :
    lettersValue 0 (cs ++ [c]) = 26 * lettersValue 0 cs + letterValue c := by
  simp [lettersValue]

theorem lettersFrom_lettersValue {cs : List Char} (capitals : ∀ c ∈ cs, 'A' ≤ c ∧ c ≤ 'Z') :
    lettersFrom (lettersValue 0 cs) [] = cs := by
  induction cs using List.reverseRecOn with
  | nil => exact lettersFrom_zero []
  | append_singleton cs c ih =>
    have capital := capitals c (by simp)
    obtain ⟨positive, small⟩ := letterValue_bounds capital
    have value : lettersValue 0 (cs ++ [c])
        = 26 * lettersValue 0 cs + (letterValue c - 1) + 1 := by
      rw [lettersValue_concat]
      omega
    have quotient : (26 * lettersValue 0 cs + (letterValue c - 1)) / 26 = lettersValue 0 cs := by
      omega
    have remainder : (26 * lettersValue 0 cs + (letterValue c - 1)) % 26 = letterValue c - 1 := by
      omega
    rw [value, lettersFrom_succ, quotient, remainder, letterOf_letterValue capital,
      ih fun other member => capitals other (List.mem_append_left _ member)]

theorem lettersValue_of_capitals {cs : List Char} (capitals : ∀ c ∈ cs, 'A' ≤ c ∧ c ≤ 'Z') :
    cs.foldl (fun number c => 26 * number + ((c.toNat : Int) - 64)) 0 = lettersValue 0 cs := by
  induction cs using List.reverseRecOn with
  | nil => rfl
  | append_singleton cs c ih =>
    have earlier := ih fun other member => capitals other (List.mem_append_left _ member)
    have last := letterValue_of_capital (capitals c (by simp))
    rw [lettersValue_concat, List.foldl_append, earlier, List.foldl_cons, List.foldl_nil, ← last]
    push_cast
    rfl

end Words

section Order

theorem lex_append {α : Type} {r : α → α → Prop} {first second : List α}
    (less : List.Lex r first second) (same : first.length = second.length) (left right : List α) :
    List.Lex r (first ++ left) (second ++ right) := by
  induction less with
  | nil => cases same
  | cons _ ih => exact .cons (ih (Nat.succ.inj same))
  | rel smaller => exact .rel smaller

/-- A letter more does not change which of two words comes first. -/
theorem shortlex_concat {first second : List Char}
    (less : List.Shortlex (· < ·) first second) (one other : Char) :
    List.Shortlex (· < ·) (first ++ [one]) (second ++ [other]) := by
  rcases List.shortlex_def.mp less with shorter | ⟨same, earlier⟩
  · apply List.Shortlex.of_length_lt
    simpa using shorter
  · apply List.Shortlex.of_lex
    · simpa using same
    · exact lex_append earlier same [one] [other]

theorem shortlex_lettersFrom {low high : Nat} (less : low < high) :
    List.Shortlex (· < ·) (lettersFrom low []) (lettersFrom high []) := by
  -- The quotients decide the order, and the last letters do when the quotients are the same.
  induction high using Nat.strongRecOn generalizing low with
  | ind high ih =>
    obtain ⟨top, rfl⟩ : ∃ top, high = top + 1 := ⟨high - 1, by omega⟩
    rw [lettersFrom_succ top]
    cases low with
    | zero =>
      apply List.Shortlex.of_length_lt
      simp
    | succ bottom =>
      rw [lettersFrom_succ bottom]
      by_cases apart : bottom / 26 < top / 26
      · exact shortlex_concat (ih (top / 26) (by omega) apart) _ _
      · have same : bottom / 26 = top / 26 := by omega
        rw [same]
        apply List.Shortlex.append_left
        apply (List.shortlex_singleton_iff _ _).mpr
        exact letterOf_lt (by omega) (Nat.mod_lt _ (by decide))

theorem shortlex_letters_iff {low high : Nat} :
    List.Shortlex (· < ·) (letters low).toList (letters high).toList ↔ low < high := by
  have forward : ∀ {low high : Nat}, low < high →
      List.Shortlex (· < ·) (letters low).toList (letters high).toList := by
    intro low high less
    rw [letters, letters, String.toList_ofList, String.toList_ofList]
    exact shortlex_lettersFrom (Nat.succ_lt_succ less)
  constructor
  · intro before
    rcases Nat.lt_trichotomy low high with less | rfl | greater
    · exact less
    · exact absurd before (Std.Asymm.asymm _ _ before)
    · exact absurd before (Std.Asymm.asymm _ _ (forward greater))
  · exact forward

end Order

section Names

theorem IsColumnName.of_all {word : String} (filled : word ≠ "")
    (capitals : (word.toList.all fun c => 'A' ≤ c && c ≤ 'Z') = true) : IsColumnName word :=
  ⟨filled, fun c member => by simpa using List.all_eq_true.mp capitals c member⟩

theorem isColumnName_letters (index : Nat) : IsColumnName (letters index) := by
  constructor
  · intro empty
    have shape := congrArg String.toList empty
    rw [letters, String.toList_ofList, lettersFrom_succ] at shape
    simp at shape
  · exact fun c member => capital_of_mem_letters member

theorem wordIndex_letters (index : Nat) : wordIndex (letters index) = index := by
  rw [wordIndex, lettersValue_of_capitals (isColumnName_letters index).capitals, letters,
    String.toList_ofList, lettersValue_lettersFrom]
  simp [lettersValue]

theorem letters_wordIndex {word : String} (name : IsColumnName word) :
    letters (wordIndex word).toNat = word := by
  have filled : lettersValue 0 word.toList ≠ 0 := by
    intro zero
    apply name.filled
    rw [← String.toList_eq_nil_iff, ← lettersFrom_lettersValue name.capitals, zero,
      lettersFrom_zero]
  have place : (wordIndex word).toNat + 1 = lettersValue 0 word.toList := by
    rw [wordIndex, lettersValue_of_capitals name.capitals]
    omega
  rw [letters, place, lettersFrom_lettersValue name.capitals, String.ofList_toList]

end Names

/-- Every index from zero on has letters, and a negative one is refused as no value.  The letters are
one to one with the words of capital letters, they are read back as their index, and a smaller index
has the earlier word. -/
theorem columns_are_lettered :
    (∀ index : Int, 0 ≤ index → columnLetters index = .ok (letters index.toNat)) ∧
    (∀ index : Int, index < 0 →
      ∃ misfit, columnLetters index = .error misfit ∧ misfit.className = "ValueError") ∧
    Set.BijOn letters Set.univ {word | IsColumnName word} ∧
    (∀ index : Nat, wordIndex (letters index) = index) ∧
    (∀ word, IsColumnName word → letters (wordIndex word).toNat = word) ∧
    ∀ low high : Nat,
      low < high ↔ List.Shortlex (· < ·) (letters low).toList (letters high).toList := by
  refine ⟨?_, ?_, ?_, wordIndex_letters, fun word => letters_wordIndex,
    fun low high => shortlex_letters_iff.symm⟩
  · intro index positive
    rw [columnLetters, if_neg (Int.not_lt.mpr positive)]
  · intro index negative
    exact ⟨.negativeColumn index, by rw [columnLetters, if_pos negative], rfl⟩
  · refine ⟨fun index _ => isColumnName_letters index, ?_, ?_⟩
    · intro one _ other _ same
      have read := congrArg wordIndex same
      rw [wordIndex_letters, wordIndex_letters] at read
      exact Int.ofNat_inj.mp read
    · exact fun word name => ⟨(wordIndex word).toNat, trivial, letters_wordIndex name⟩

/-- The last column of two letters is followed by the first one of three, and none comes before the
first column. -/
theorem columns_turn_over :
    IsColumnName "ZZ" ∧ IsColumnName "AAA" ∧
      columnLetters 701 = .ok "ZZ" ∧ columnLetters 702 = .ok "AAA" ∧
      List.Shortlex (· < ·) "ZZ".toList "AAA".toList ∧
      ∃ misfit, columnLetters (-1) = .error misfit ∧ misfit.className = "ValueError" := by
  obtain ⟨lettered, refused, _, _, written, ordered⟩ := columns_are_lettered
  have last : IsColumnName "ZZ" := .of_all (by decide) (by decide)
  have first : IsColumnName "AAA" := .of_all (by decide) (by decide)
  have below : letters 701 = "ZZ" := written "ZZ" last
  have above : letters 702 = "AAA" := written "AAA" first
  refine ⟨last, first, ?_, ?_, ?_, refused (-1) (by decide)⟩
  · rw [lettered 701 (by decide)]
    exact congrArg Except.ok below
  · rw [lettered 702 (by decide)]
    exact congrArg Except.ok above
  · rw [← below, ← above]
    exact (ordered 701 702).mp (by decide)

end LoanDispatch.Spreadsheet
