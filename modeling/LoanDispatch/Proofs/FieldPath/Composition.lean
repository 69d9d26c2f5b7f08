import LoanDispatch.Proofs.FieldPath.Segments
import LoanDispatch.Proofs.Text.Pieces

/-!
Joining and shortening paths.  A path that goes on with another one leads where the other one leads
from its own end, and an empty segment leads nowhere new.  Nothing else can be left out: paths that
lead alike from every source have the same segments, empty ones aside.
-/

set_option autoImplicit false

namespace LoanDispatch.FieldPath

variable {source : Value} {path other : String}

section Joining

/-- A walk goes on from the value that its first segments lead to; null stays null, and an error
ends both. -/
theorem walk_append (current : Value) (front back : List String) :
    walk current (front ++ back) = walk current front >>= fun value => walk value back := by
  induction front generalizing current with
  | nil => rfl
  | cons segment rest ih =>
    rw [List.cons_append, walk, walk]
    split
    · exact (walk_null back).symm
    · cases step current segment with
      | error misfit => rfl
      | ok next => exact ih next

theorem filledSegments_append (path other : String) :
    filledSegments (path ++ "." ++ other) = filledSegments path ++ filledSegments other := by
  have pieces : Text.split '.' (path ++ "." ++ other) = Text.split '.' path ++ Text.split '.' other :=
    Text.split_append path other
  rw [filledSegments, pieces, List.filter_append]
  rfl

theorem joined_ne_empty (path other : String) : path ++ "." ++ other ≠ "" := by
  simp

theorem resolve_append (filled : path ≠ "") (onward : other ≠ "") :
    resolve source (path ++ "." ++ other)
      = resolve source path >>= fun value => resolve value other := by
  have continued : (fun value => resolve value other)
      = fun value => walk value (filledSegments other) :=
    funext (resolve_eq_walk onward)
  rw [resolve_eq_walk (joined_ne_empty path other), resolve_eq_walk filled, continued,
    filledSegments_append, walk_append]

end Joining

section Shortening

variable {front back : List String} {segment : String}

theorem ne_empty_of_filled (filled : ∃ segment ∈ Text.split '.' path, segment ≠ "") : path ≠ "" := by
  rintro rfl
  obtain ⟨segment, member, present⟩ := filled
  exact present (List.mem_singleton.mp member)

theorem mem_split_of_left (segments : Text.split '.' path = front ++ segment :: back)
    {piece : String} (member : piece ∈ front ++ back) : piece ∈ Text.split '.' path := by
  rw [segments]
  exact List.mem_append.mpr ((List.mem_append.mp member).imp_right (List.mem_cons_of_mem _))

theorem split_shortened (segments : Text.split '.' path = front ++ segment :: back)
    (left : front ++ back ≠ []) :
    Text.split '.' (Text.join "." (front ++ back)) = front ++ back :=
  Text.split_join left fun _ member => Text.notMem_of_mem_split (mem_split_of_left segments member)

theorem filledSegments_shortened (segments : Text.split '.' path = front ++ "" :: back)
    (left : front ++ back ≠ []) :
    filledSegments (Text.join "." (front ++ back)) = filledSegments path := by
  rw [filledSegments, filledSegments, split_shortened segments left, segments]
  simp

end Shortening

section Telling

/-- A mapping for each segment, one inside the other, down to a text. -/
def nested (mark : String) : List String → Value
  | [] => .text mark
  | segment :: rest => .map [(segment, nested mark rest)]

variable {mark : String} {segments kept : List String}

theorem walk_nested_cons {own segment : String} (present : segment ≠ "") (rest : List String) :
    walk (nested mark (own :: kept)) (segment :: rest)
      = if own = segment then walk (nested mark kept) rest else .ok .null := by
  have taken : step (nested mark (own :: kept)) segment
      = .ok (Value.getD segment [(own, nested mark kept)]) := by
    rw [nested, step, if_neg present]
  rw [walk, if_neg (by simp [nested, Value.isNull]), taken]
  by_cases same : own = segment
  · simp [Value.getD, Entries.lookup, same]
  · simp [Value.getD, Entries.lookup, same, walk_null]

theorem walk_nested (filled : ∀ segment ∈ segments, segment ≠ "") :
    walk (nested mark segments) segments = .ok (.text mark) := by
  induction segments with
  | nil => rfl
  | cons segment rest ih =>
    obtain ⟨own, others⟩ := List.forall_mem_cons.mp filled
    rw [walk_nested_cons own, if_pos rfl]
    exact ih others

/-- Only the segments of the mappings lead to the text inside them. -/
theorem eq_of_walk_nested (filled : ∀ segment ∈ segments, segment ≠ "")
    (reached : walk (nested mark kept) segments = .ok (.text mark)) : segments = kept := by
  induction kept generalizing segments with
  | nil => exact walk_text_eq_text filled reached
  | cons own kept ih =>
    cases segments with
    | nil => cases reached
    | cons segment rest =>
      obtain ⟨present, others⟩ := List.forall_mem_cons.mp filled
      rw [walk_nested_cons present] at reached
      split at reached
      · next same => rw [same, ih others reached]
      · cases reached

theorem resolve_nested (mark : String) (filled : path ≠ "") :
    resolve (nested mark (filledSegments path)) path = .ok (.text mark) := by
  rw [resolve_eq_walk filled]
  exact walk_nested (filledSegments_filled path)

theorem ne_empty_of_alike (alike : ∀ source, resolve source path = resolve source other)
    (filled : path ≠ "") : other ≠ "" := by
  rintro rfl
  have reached := resolve_nested "" filled
  rw [alike] at reached
  cases reached

theorem filledSegments_eq_of_alike (alike : ∀ source, resolve source path = resolve source other) :
    filledSegments path = filledSegments other := by
  by_cases filled : path = ""
  · have empty : other = "" := by
      by_contra onward
      exact ne_empty_of_alike (fun source => (alike source).symm) onward filled
    rw [filled, empty]
  · -- The mappings made for the one path let no other segments through to their text.
    have reached := (alike _).symm.trans (resolve_nested "" filled)
    rw [resolve_eq_walk (ne_empty_of_alike alike filled)] at reached
    exact (eq_of_walk_nested (filledSegments_filled other) reached).symm

/-- Paths lead alike from every source exactly when they have the same segments, empty ones aside,
and the empty path leads alike with no other one. -/
theorem alike_iff :
    (∀ source, resolve source path = resolve source other) ↔
      (path = "" ↔ other = "") ∧ filledSegments path = filledSegments other := by
  constructor
  · intro alike
    refine ⟨not_iff_not.mp ⟨ne_empty_of_alike alike, ?_⟩, filledSegments_eq_of_alike alike⟩
    exact ne_empty_of_alike fun source => (alike source).symm
  · rintro ⟨empty, same⟩ source
    by_cases filled : path = ""
    · rw [filled, empty.mp filled]
    · rw [resolve_eq_walk filled, resolve_eq_walk (mt empty.mpr filled), same]

end Telling

/-- Resolving a joined path is resolving its parts one after the other, with the same errors.  A path
that keeps a segment leads where it led when one of its empty segments is left out.  Paths lead alike
from every source only when they differ in nothing but empty segments. -/
theorem resolution_composes :
    (∀ (source : Value) (path other : String), path ≠ "" → other ≠ "" →
      resolve source (path ++ "." ++ other)
        = resolve source path >>= fun value => resolve value other) ∧
    (∀ (path : String) (front back : List String), Text.split '.' path = front ++ "" :: back →
      (∃ segment ∈ front ++ back, segment ≠ "") →
        Text.split '.' (Text.join "." (front ++ back)) = front ++ back ∧
        ∀ source, resolve source (Text.join "." (front ++ back)) = resolve source path) ∧
    ∀ path other : String, (∀ source, resolve source path = resolve source other) ↔
      (path = "" ↔ other = "") ∧ filledSegments path = filledSegments other := by
  refine ⟨fun source path other => resolve_append, ?_, fun path other => alike_iff⟩
  intro path front back segments kept
  obtain ⟨segment, member, present⟩ := kept
  have left : front ++ back ≠ [] := List.ne_nil_of_mem member
  have shortened := split_shortened segments left
  have filled : path ≠ "" :=
    ne_empty_of_filled ⟨segment, mem_split_of_left segments member, present⟩
  have shortFilled : Text.join "." (front ++ back) ≠ "" := by
    refine ne_empty_of_filled ⟨segment, ?_, present⟩
    rw [shortened]
    exact member
  exact ⟨shortened,
    alike_iff.mpr ⟨iff_of_false shortFilled filled, filledSegments_shortened segments left⟩⟩

/-- A title is reached in two parts, and past an empty segment as well; a position that cannot be
read fails in the second part as it does in the whole path. -/
theorem title_is_reached_in_parts :
    let filed : Value := .map [("documents", .list [.map [("title", .text "Statement")]])]
    ("documents." ≠ "" ∧ "0.title" ≠ "" ∧
      resolve filed ("documents." ++ "." ++ "0.title") = .ok (.text "Statement")) ∧
    ("²" ≠ "" ∧ resolve filed ("documents." ++ "." ++ "²") = .error (.badInteger "²")) ∧
    Text.split '.' "documents..0.title" = ["documents"] ++ "" :: ["0", "title"] ∧
      (∃ segment ∈ ["documents"] ++ ["0", "title"], segment ≠ "") ∧
      resolve filed "documents.0.title" = resolve filed "documents..0.title" := by
  intro filed
  obtain ⟨composes, shortens, _⟩ := resolution_composes
  have segments : Text.split '.' "documents..0.title" = ["documents"] ++ "" :: ["0", "title"] := by
    decide
  have kept : ∃ segment ∈ ["documents"] ++ ["0", "title"], segment ≠ "" := by decide
  refine ⟨⟨by decide, by decide, ?_⟩, ⟨by decide, ?_⟩, segments, kept,
    (shortens _ _ _ segments kept).2 filed⟩
  · exact (composes filed "documents." "0.title" (by decide) (by decide)).trans rfl
  · exact (composes filed "documents." "²" (by decide) (by decide)).trans rfl

end LoanDispatch.FieldPath
