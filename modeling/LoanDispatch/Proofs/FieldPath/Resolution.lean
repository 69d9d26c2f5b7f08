import LoanDispatch.FieldPath
import LoanDispatch.Proofs.Number.Reading

/-!
Which paths lead somewhere.  A path is resolved for every value, whatever it holds, unless the walk
comes to a sequence with a segment of numerals that writes no position.  A position outside its
sequence leads to null, and so does a segment of other characters.
-/

set_option autoImplicit false

namespace LoanDispatch.FieldPath

open Number

/-- The walk comes to a sequence with a segment that counts as a position and cannot be read. -/
inductive Stuck : Value → List String → String → Prop where
  | here {current : Value} {items : List Value} {segment : String} {rest : List String} :
      current.items? = some items → Unreadable segment → Stuck current (segment :: rest) segment
  | later {current next : Value} {segment unread : String} {rest : List String} :
      current.isNull = false → step current segment = .ok next → Stuck next rest unread →
        Stuck current (segment :: rest) unread

/-- The segment writes a position, counted from zero. -/
structure Position (segment : String) (index : Nat) : Prop where
  numerals : Text.allNumerals segment.toList = true
  written : readInteger segment = .ok index

theorem Position.unique {segment : String} {one other : Nat} (first : Position segment one)
    (second : Position segment other) : one = other :=
  Int.ofNat_inj.mp (Except.ok.inj (first.written.symm.trans second.written))

section Item

variable {items : List Value} {segment : String}

theorem itemAt_of_position {index : Nat} (position : Position segment index) :
    itemAt items segment = .ok ((items[index]?).getD .null) := by
  rw [itemAt, if_pos position.numerals, position.written]
  rfl

theorem itemAt_of_not_numerals (other : Text.allNumerals segment.toList = false) :
    itemAt items segment = .ok .null := by
  rw [itemAt, if_neg (by simp [other])]

theorem exists_position (numerals : Text.allNumerals segment.toList = true)
    (readable : ¬ Unreadable segment) : ∃ index, Position segment index := by
  cases read : readInteger segment with
  | error misfit => exact absurd ((readInteger_eq_error_iff numerals misfit).mp read).1 readable
  | ok number =>
    obtain ⟨index, rfl⟩ := natural_of_readInteger numerals read
    exact ⟨index, numerals, read⟩

theorem itemAt_eq_error_iff {misfit : Misfit} :
    itemAt items segment = .error misfit ↔ Unreadable segment ∧ misfit = integerMisfit segment := by
  constructor
  · intro failed
    cases numerals : Text.allNumerals segment.toList with
    | false => cases (itemAt_of_not_numerals numerals).symm.trans failed
    | true =>
      apply (readInteger_eq_error_iff numerals misfit).mp
      rw [itemAt, if_pos numerals] at failed
      cases read : readInteger segment with
      | ok number =>
        rw [read] at failed
        cases failed
      | error cause =>
        rw [read] at failed
        cases failed
        rfl
  · intro unread
    obtain ⟨unreadable, rfl⟩ := unread
    rw [itemAt, if_pos unreadable.numerals, readInteger_of_unreadable unreadable]
    rfl

end Item

section Step

variable {current : Value} {items : List Value} {segment : String} {misfit : Misfit}

theorem step_of_items (sequence : current.items? = some items) (filled : segment ≠ "") :
    step current segment = itemAt items segment := by
  cases current with
  | list own =>
    cases sequence
    rw [step, if_neg filled]
  | tuple own =>
    cases sequence
    rw [step, if_neg filled]
  | _ => cases sequence

theorem step_of_no_items (single : current.items? = none) (segment : String) :
    ∃ value, step current segment = .ok value := by
  unfold step
  split
  · exact ⟨current, rfl⟩
  · cases current with
    | list own => cases single
    | tuple own => cases single
    | _ => exact ⟨_, rfl⟩

theorem step_eq_error_iff :
    step current segment = .error misfit ↔
      ∃ items, current.items? = some items ∧ Unreadable segment ∧
        misfit = integerMisfit segment := by
  constructor
  · intro failed
    cases sequence : current.items? with
    | none =>
      obtain ⟨value, taken⟩ := step_of_no_items sequence segment
      cases taken.symm.trans failed
    | some items =>
      by_cases empty : segment = ""
      · unfold step at failed
        rw [if_pos empty] at failed
        cases failed
      · rw [step_of_items sequence empty] at failed
        exact ⟨items, rfl, itemAt_eq_error_iff.mp failed⟩
  · intro unread
    obtain ⟨items, sequence, unreadable, same⟩ := unread
    rw [step_of_items sequence unreadable.ne_empty]
    exact itemAt_eq_error_iff.mpr ⟨unreadable, same⟩

theorem isNull_of_items (sequence : current.items? = some items) : current.isNull = false := by
  cases current with
  | null => cases sequence
  | _ => rfl

end Step

/-- A walk fails exactly where it is stuck. -/
theorem walk_eq_error_iff {current : Value} {segments : List String} {misfit : Misfit} :
    walk current segments = .error misfit ↔
      ∃ segment, Stuck current segments segment ∧ misfit = integerMisfit segment := by
  induction segments generalizing current with
  | nil =>
    constructor
    · intro failed
      cases failed
    · intro stuck
      obtain ⟨segment, stuck, _⟩ := stuck
      cases stuck
  | cons first rest ih =>
    rw [walk]
    constructor
    · intro failed
      split at failed
      · cases failed
      · next present =>
        have some := Bool.eq_false_iff.mpr present
        split at failed
        · next next taken =>
          obtain ⟨segment, stuck, same⟩ := ih.mp failed
          exact ⟨segment, .later some taken stuck, same⟩
        · next cause refused =>
          cases failed
          obtain ⟨items, sequence, unreadable, same⟩ := step_eq_error_iff.mp refused
          exact ⟨first, .here sequence unreadable, same⟩
    · intro stuck
      obtain ⟨segment, stuck, rfl⟩ := stuck
      cases stuck with
      | here sequence unreadable =>
        rw [isNull_of_items sequence,
          step_eq_error_iff.mpr ⟨_, sequence, unreadable, rfl⟩]
        rfl
      | later some taken stuck =>
        rw [some, taken]
        exact ih.mpr ⟨segment, stuck, rfl⟩

theorem resolve_eq_error_iff {source : Value} {path : String} {misfit : Misfit} :
    resolve source path = .error misfit ↔
      ∃ segment, Stuck source (Text.split '.' path) segment ∧ misfit = integerMisfit segment := by
  rw [resolve]
  split
  · next empty =>
    -- The empty path has one empty segment, which is no position.
    subst empty
    constructor
    · intro failed
      cases failed
    · intro stuck
      obtain ⟨segment, stuck, _⟩ := stuck
      cases stuck with
      | here _ unreadable => exact absurd (by decide) unreadable.ne_empty
      | later _ _ stuck => cases stuck
  · exact walk_eq_error_iff

/-- A path resolves exactly when its walk is not stuck, and where it is stuck the segment is what
cannot be read.  In a sequence, a readable segment leads to the item at its position, and to null when
it writes none inside the sequence. -/
theorem paths_resolve_unless_stuck (source : Value) (path : String) :
    ((∃ value, resolve source path = .ok value) ↔
      ∀ segment, ¬ Stuck source (Text.split '.' path) segment) ∧
    (∀ misfit, resolve source path = .error misfit ↔
      ∃ segment, Stuck source (Text.split '.' path) segment ∧ misfit = integerMisfit segment) ∧
    ∀ current items segment, current.items? = some items → segment ≠ "" → ¬ Unreadable segment →
      (∃ index item, Position segment index ∧ items[index]? = some item ∧
        step current segment = .ok item) ∨
      ((∀ index, Position segment index → items.length ≤ index) ∧
        step current segment = .ok .null) := by
  refine ⟨?_, fun misfit => resolve_eq_error_iff, ?_⟩
  · constructor
    · intro resolved segment stuck
      obtain ⟨value, reached⟩ := resolved
      cases reached.symm.trans (resolve_eq_error_iff.mpr ⟨segment, stuck, rfl⟩)
    · intro free
      cases result : resolve source path with
      | ok value => exact ⟨value, rfl⟩
      | error misfit =>
        obtain ⟨segment, stuck, _⟩ := resolve_eq_error_iff.mp result
        exact absurd stuck (free segment)
  · intro current items segment sequence filled readable
    rw [step_of_items sequence filled]
    cases numerals : Text.allNumerals segment.toList with
    | false =>
      refine .inr ⟨fun index position => ?_, itemAt_of_not_numerals numerals⟩
      cases numerals.symm.trans position.numerals
    | true =>
      obtain ⟨index, position⟩ := exists_position numerals readable
      have reached : itemAt items segment = .ok ((items[index]?).getD .null) :=
        itemAt_of_position position
      cases placed : items[index]? with
      | some item =>
        rw [placed] at reached
        exact .inl ⟨index, item, position, placed, reached⟩
      | none =>
        rw [placed] at reached
        refine .inr ⟨fun other same => ?_, reached⟩
        obtain rfl := position.unique same
        exact List.getElem?_eq_none_iff.mp placed

/-- A position outside its tuple leads to null, and a path that goes on from there is resolved. -/
theorem far_position_is_null :
    let titles : Value := .tuple [.text "Statement"]
    ¬ Unreadable "7" ∧ step titles "7" = .ok .null ∧
      ∃ value, resolve titles "7.length" = .ok value := by
  intro titles
  obtain ⟨resolves, _, positions⟩ := paths_resolve_unless_stuck titles "7.length"
  have readable : ¬ Unreadable "7" := by
    intro unreadable
    rcases unreadable.fails with ⟨c, member, other⟩ | many
    · obtain rfl : c = '7' := List.mem_singleton.mp member
      exact absurd other (by decide)
    · exact absurd many (by decide)
  have seventh : Position "7" 7 := ⟨by decide, rfl⟩
  have outside : step titles "7" = .ok .null := by
    rcases positions titles [.text "Statement"] "7" rfl (by decide) readable with
      ⟨index, item, position, placed, _⟩ | ⟨_, reached⟩
    · obtain rfl := position.unique seventh
      cases placed
    · exact reached
  refine ⟨readable, outside, resolves.mpr fun segment stuck => ?_⟩
  have segments : Text.split '.' "7.length" = ["7", "length"] := by decide
  rw [segments] at stuck
  cases stuck with
  | here _ unreadable => exact readable unreadable
  | later _ taken stuck =>
    cases outside.symm.trans taken
    cases stuck with
    | here sequence _ => cases sequence
    | later present _ _ => cases present

/-- A superscript counts as a position, but none can be read from it. -/
theorem superscript_position_fails :
    resolve (.list [.text "Statement"]) "²" = .error (.badInteger "²") := rfl

end LoanDispatch.FieldPath
