import LoanDispatch.Proofs.Text.Pieces

/-!
Lines of texts.  Lines that are ended by line feeds are the lines that are read back, as long as none
of them has a line feed inside.
-/

set_option autoImplicit false

namespace LoanDispatch.Text

/-- The characters that end a line: feeds and returns, the separators of files, groups and records,
the next line, and the separators of lines and paragraphs. -/
def lineBreaks : List Char :=
  ['\n', Char.ofNat 0xB, Char.ofNat 0xC, '\r', Char.ofNat 0x1C, Char.ofNat 0x1D, Char.ofNat 0x1E,
   Char.ofNat 0x85, Char.ofNat 0x2028, Char.ofNat 0x2029]

/-- No character of the text ends a line. -/
def Unbroken (words : String) : Prop := ∀ c ∈ words.toList, c ∉ lineBreaks

instance (words : String) : Decidable (Unbroken words) :=
  List.decidableBAll (fun c => c ∉ lineBreaks) words.toList

theorem lineBreaks_unprintable : ∀ c ∈ lineBreaks, c.toNat < 32 ∨ 126 < c.toNat := by
  have all : lineBreaks.all (fun c => decide (c.toNat < 32 ∨ 126 < c.toNat)) = true := rfl
  simpa using all

theorem unbroken_of_printable {words : String}
    (printable : ∀ c ∈ words.toList, 32 ≤ c.toNat ∧ c.toNat ≤ 126) : Unbroken words := by
  intro c member ending
  obtain ⟨low, high⟩ := printable c member
  rcases lineBreaks_unprintable c ending with below | above <;> omega

section Marks

variable {mark : Char} {words other : String}

theorem mem_toList_append :
    mark ∈ (words ++ other).toList ↔ mark ∈ words.toList ∨ mark ∈ other.toList := by
  rw [String.toList_append, List.mem_append]

theorem Unbroken.notMem (unbroken : Unbroken words) (ending : mark ∈ lineBreaks) :
    mark ∉ words.toList :=
  fun member => unbroken mark member ending

end Marks

/-- The lines one after the other, each ended by a line feed. -/
def ended : List String → String
  | [] => ""
  | line :: lines => line ++ "\n" ++ ended lines

section Ended

variable {line : String} {lines : List String}

theorem join_append_feed (filled : lines ≠ []) : join "\n" lines ++ "\n" = ended lines := by
  induction lines with
  | nil => exact absurd rfl filled
  | cons line rest ih =>
    cases rest with
    | nil => rw [join, ended, ended, String.append_empty]
    | cons next rest =>
      rw [ended, ← ih (List.cons_ne_nil next rest)]
      simp only [join, String.append_assoc]

theorem split_ended_cons (plain : '\n' ∉ line.toList) :
    split '\n' (ended (line :: lines)) = line :: split '\n' (ended lines) := by
  have joined : split '\n' (ended (line :: lines)) = split '\n' line ++ split '\n' (ended lines) :=
    split_append line (ended lines)
  rw [joined, split_of_notMem plain, List.singleton_append]

/-- The lines are read back exactly when none of them has a line feed inside. -/
theorem split_ended_iff :
    split '\n' (ended lines) = lines ++ [""] ↔ ∀ line ∈ lines, '\n' ∉ line.toList := by
  constructor
  · intro same line member
    have piece : line ∈ split '\n' (ended lines) := same ▸ List.mem_append_left _ member
    exact notMem_of_mem_split piece
  · intro plain
    induction lines with
    | nil => rfl
    | cons line rest ih =>
      obtain ⟨own, others⟩ := List.forall_mem_cons.mp plain
      rw [split_ended_cons own, ih others, List.cons_append]

end Ended

end LoanDispatch.Text
