import LoanDispatch.FieldPath
import LoanDispatch.Payload.Basic
import LoanDispatch.Proofs.Result.Steps

/-!
Which paths name the same field.  An empty segment takes no step, so a path is the list of its other
segments, and the paths to the identifier of every application are the spellings of one such list.
-/

set_option autoImplicit false

namespace LoanDispatch.FieldPath

variable {current : Value} {segments : List String} {path : String}

/-- The segments of a path that take a step. -/
def filledSegments (path : String) : List String := (Text.split '.' path).filter (· ≠ "")

theorem filledSegments_filled (path : String) : ∀ segment ∈ filledSegments path, segment ≠ "" :=
  fun _ member => by simpa using (List.mem_filter.mp member).2

theorem walk_null (segments : List String) : walk .null segments = .ok .null := by
  cases segments <;> rfl

theorem walk_empty (current : Value) (rest : List String) :
    walk current ("" :: rest) = walk current rest := by
  cases current with
  | null => exact (walk_null _).trans (walk_null _).symm
  | _ => rfl

theorem walk_filter (current : Value) (segments : List String) :
    walk current (segments.filter (· ≠ "")) = walk current segments := by
  induction segments generalizing current with
  | nil => rfl
  | cons segment rest ih =>
    by_cases empty : segment = ""
    · simp only [empty, walk_empty, ← ih, List.filter_cons, ne_eq, not_true_eq_false, decide_false,
        Bool.false_eq_true, if_false]
    · have kept : (segment :: rest).filter (· ≠ "") = segment :: rest.filter (· ≠ "") := by
        simp [empty]
      rw [kept, walk, walk]
      split
      · rfl
      · split
        · exact ih _
        · rfl

theorem resolve_eq_walk (filled : path ≠ "") (source : Value) :
    resolve source path = walk source (filledSegments path) := by
  rw [resolve, if_neg filled, filledSegments, walk_filter]

/-- The path leads to the identifier of every application. -/
def Identifies (path : String) : Prop :=
  ∀ payload : Payload, resolve payload.toValue path = .ok payload.application.id

theorem identifies_of_filledSegments (spelled : filledSegments path = ["application", "id"]) :
    Identifies path := by
  intro payload
  have filled : path ≠ "" := by
    rintro rfl
    exact absurd spelled (by decide)
  rw [resolve_eq_walk filled, spelled]
  rfl

/-- An application whose only text is its identifier. -/
def marked : Payload where
  application := ⟨.text "A-1", .null, .null, .null, .null, .null, .null, .null⟩
  documents := []
  submittedAt := .null

theorem getD_eq_null {key : String} (kept : List String) {entries : List (String × Value)}
    (nulls : ∀ entry ∈ entries, entry.1 ∈ kept ∨ entry.2 = .null) (other : key ∉ kept) :
    Value.getD key entries = .null := by
  induction entries with
  | nil => rfl
  | cons entry rest ih =>
    have later := ih fun other member => nulls other (List.mem_cons_of_mem _ member)
    by_cases same : entry.1 = key
    · rcases nulls entry List.mem_cons_self with present | null
      · exact absurd (same ▸ present) other
      · simp [Value.getD, Entries.lookup, same, null]
    · simpa [Value.getD, Entries.lookup, same] using later

theorem walk_text_eq_text {words mark : String} (filled : ∀ segment ∈ segments, segment ≠ "")
    (reached : walk (.text words) segments = .ok (.text mark)) : segments = [] := by
  cases segments with
  | nil => rfl
  | cons segment rest =>
    have taken : step (.text words) segment = .ok .null := by
      simp only [step, if_neg (filled segment List.mem_cons_self)]
    simp [walk, Value.isNull, taken, walk_null] at reached

theorem walk_empty_tuple_ne_text {mark : String} (filled : ∀ segment ∈ segments, segment ≠ "") :
    walk (.tuple []) segments ≠ .ok (.text mark) := by
  intro reached
  cases segments with
  | nil => simp [walk] at reached
  | cons segment rest =>
    have taken : step (.tuple []) segment = itemAt [] segment := by
      rw [step, if_neg (filled segment List.mem_cons_self)]
    have away : ∀ value, itemAt [] segment = .ok value → value = .null := by
      intro value found
      rw [itemAt] at found
      split at found
      · obtain ⟨index, _, rfl⟩ := Result.map_eq_ok found
        rfl
      · exact (Except.ok.inj found).symm
    rw [walk, if_neg (by decide), taken] at reached
    cases found : itemAt [] segment with
    | error misfit => simp [found] at reached
    | ok value => simp [found, away value found, walk_null] at reached

theorem walk_marked_application {mark : String} (filled : ∀ segment ∈ segments, segment ≠ "")
    (reached : walk marked.application.toValue segments = .ok (.text mark)) : segments = ["id"] := by
  cases segments with
  | nil => cases reached
  | cons segment rest =>
    have taken : step marked.application.toValue segment
        = .ok (Value.getD segment marked.application.fields) := by
      rw [Application.toValue, step, if_neg (filled segment List.mem_cons_self)]
    rw [walk, if_neg (by decide), taken] at reached
    by_cases identifier : segment = "id"
    · subst identifier
      have onward : walk (.text "A-1") rest = .ok (.text mark) := reached
      rw [walk_text_eq_text (fun other member => filled other (List.mem_cons_of_mem _ member))
        onward]
    · have other : Value.getD segment marked.application.fields = .null := by
        refine getD_eq_null ["id"] ?_ (by simpa using identifier)
        simp [marked, Application.fields]
      simp [other, walk_null] at reached

theorem walk_marked {mark : String} (filled : ∀ segment ∈ segments, segment ≠ "")
    (reached : walk marked.toValue segments = .ok (.text mark)) :
    segments = ["application", "id"] := by
  cases segments with
  | nil => cases reached
  | cons segment rest =>
    have later : ∀ other ∈ rest, other ≠ "" := fun other member =>
      filled other (List.mem_cons_of_mem _ member)
    have taken : step marked.toValue segment = .ok (Value.getD segment marked.fields) := by
      rw [Payload.toValue, step, if_neg (filled segment List.mem_cons_self)]
    rw [walk, if_neg (by decide), taken] at reached
    by_cases application : segment = "application"
    · subst application
      rw [walk_marked_application later reached]
    · by_cases documents : segment = "documents"
      · subst documents
        exact absurd reached (walk_empty_tuple_ne_text later)
      · have other : Value.getD segment marked.fields = .null := by
          refine getD_eq_null ["application", "documents"] ?_
            (by simp [application, documents])
          simp [marked, Payload.fields]
        simp [other, walk_null] at reached

theorem identifies_iff : Identifies path ↔ filledSegments path = ["application", "id"] := by
  refine ⟨fun leads => ?_, identifies_of_filledSegments⟩
  have reached := leads marked
  have filled : path ≠ "" := by
    rintro rfl
    cases reached
  rw [resolve_eq_walk filled] at reached
  exact walk_marked (filledSegments_filled path) reached

end LoanDispatch.FieldPath
