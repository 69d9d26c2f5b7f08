import LoanDispatch.Text.Split

/-!
Pieces of texts.  Joined texts have the pieces of the one and then those of the other, so pieces
without the separator inside are read back from the text that joins them.
-/

set_option autoImplicit false

namespace LoanDispatch.Text

variable {separator : Char}

section Characters

theorem splitChars_ne_nil (cs : List Char) : splitChars separator cs ≠ [] := by
  cases cs with
  | nil => simp [splitChars]
  | cons c rest =>
    rw [splitChars]
    split
    · exact List.cons_ne_nil _ _
    · split <;> exact List.cons_ne_nil _ _

theorem splitChars_separator (rest : List Char) :
    splitChars separator (separator :: rest) = [] :: splitChars separator rest := by
  rw [splitChars, if_pos rfl]

theorem splitChars_cons {c : Char} {cs piece : List Char} {pieces : List (List Char)}
    (plain : c ≠ separator) (split : splitChars separator cs = piece :: pieces) :
    splitChars separator (c :: cs) = (c :: piece) :: pieces := by
  rw [splitChars, if_neg plain, split]

theorem splitChars_of_notMem {cs : List Char} (plain : separator ∉ cs) :
    splitChars separator cs = [cs] := by
  induction cs with
  | nil => rfl
  | cons c cs ih =>
    obtain ⟨own, others⟩ := not_or.mp (mt List.mem_cons.mpr plain)
    exact splitChars_cons (Ne.symm own) (ih others)

/-- A separator ends the pieces before it. -/
theorem splitChars_append (cs rest : List Char) :
    splitChars separator (cs ++ separator :: rest)
      = splitChars separator cs ++ splitChars separator rest := by
  induction cs with
  | nil => exact splitChars_separator rest
  | cons c cs ih =>
    by_cases same : c = separator
    · subst same
      rw [List.cons_append, splitChars_separator, splitChars_separator, ih, List.cons_append]
    · obtain ⟨piece, pieces, shape⟩ := List.exists_cons_of_ne_nil (splitChars_ne_nil cs)
      rw [shape, List.cons_append] at ih
      rw [List.cons_append, splitChars_cons same ih, splitChars_cons same shape, List.cons_append]

/-- No piece has a separator inside. -/
theorem notMem_of_mem_splitChars {cs piece : List Char} (member : piece ∈ splitChars separator cs) :
    separator ∉ piece := by
  induction cs generalizing piece with
  | nil =>
    rw [List.mem_singleton.mp member]
    exact List.not_mem_nil
  | cons c cs ih =>
    by_cases same : c = separator
    · subst same
      rw [splitChars_separator] at member
      rcases List.mem_cons.mp member with rfl | later
      · exact List.not_mem_nil
      · exact ih later
    · obtain ⟨first, pieces, shape⟩ := List.exists_cons_of_ne_nil (splitChars_ne_nil cs)
      rw [splitChars_cons same shape] at member
      rw [shape] at ih
      rcases List.mem_cons.mp member with rfl | later
      · exact List.not_mem_cons_of_ne_of_not_mem (Ne.symm same) (ih List.mem_cons_self)
      · exact ih (List.mem_cons_of_mem _ later)

end Characters

section Texts

variable {words : String} {pieces : List String}

theorem split_append (words other : String) :
    split separator (words ++ String.singleton separator ++ other)
      = split separator words ++ split separator other := by
  have parts : (words ++ String.singleton separator ++ other).toList
      = words.toList ++ separator :: other.toList := by
    simp
  rw [split, parts, splitChars_append, List.map_append]
  rfl

theorem split_of_notMem (plain : separator ∉ words.toList) : split separator words = [words] := by
  rw [split, splitChars_of_notMem plain, List.map_singleton, String.ofList_toList]

theorem notMem_of_mem_split {piece : String} (member : piece ∈ split separator words) :
    separator ∉ piece.toList := by
  obtain ⟨cs, among, rfl⟩ := List.mem_map.mp member
  rw [String.toList_ofList]
  exact notMem_of_mem_splitChars among

theorem split_join (filled : pieces ≠ []) (plain : ∀ piece ∈ pieces, separator ∉ piece.toList) :
    split separator (join (String.singleton separator) pieces) = pieces := by
  induction pieces with
  | nil => exact absurd rfl filled
  | cons piece rest ih =>
    obtain ⟨own, others⟩ := List.forall_mem_cons.mp plain
    cases rest with
    | nil => exact split_of_notMem own
    | cons next rest =>
      have joined : split separator (join (String.singleton separator) (piece :: next :: rest))
          = split separator piece
            ++ split separator (join (String.singleton separator) (next :: rest)) :=
        split_append piece _
      rw [joined, split_of_notMem own, ih (List.cons_ne_nil next rest) others,
        List.singleton_append]

end Texts

end LoanDispatch.Text
