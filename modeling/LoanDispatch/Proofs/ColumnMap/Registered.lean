import LoanDispatch.ColumnMap.Registry
import Mathlib.Data.List.Nodup

/-!
Registered column maps.  A registry that was only filled by registering holds sound maps, and a
sound map has exactly one header for the identifier of an application, whose path it is.
-/

set_option autoImplicit false

namespace LoanDispatch

namespace ColumnMap

variable {map : ColumnMap}

theorem Sound.path?_of_mem (sound : map.Sound) {column : Column} (member : column ∈ map.columns) :
    map.path? column.header = some column.path := by
  cases found : map.columns.find? (fun other => other.header == column.header) with
  | none =>
    have absent := List.find?_eq_none.mp found column member
    simp at absent
  | some other =>
    have sameHeader : other.header = column.header := by simpa using List.find?_some found
    have same : other = column :=
      List.inj_on_of_nodup_map sound.headers_distinct (List.mem_of_find?_eq_some found) member
        sameHeader
    rw [path?, found, Option.map_some, same]

theorem Sound.identifierHeader (sound : map.Sound) :
    ∃ header ∈ map.headers, map.identifierHeader? = some header ∧
      map.path? header = some identifierPath := by
  have one : map.identifierColumns ≠ [] := by
    intro none
    have count := sound.one_identifier
    rw [none] at count
    exact absurd count (by decide)
  obtain ⟨column, member⟩ := List.exists_mem_of_ne_nil _ one
  obtain ⟨placed, identifies⟩ := List.mem_filter.mp member
  cases found : map.columns.find? (fun column => column.path == identifierPath) with
  | none => exact absurd identifies (List.find?_eq_none.mp found column placed)
  | some first =>
    have firstPath : first.path = identifierPath := by simpa using List.find?_some found
    have firstMember := List.mem_of_find?_eq_some found
    refine ⟨first.header, List.mem_map_of_mem firstMember, ?_, ?_⟩
    · rw [identifierHeader?, found, Option.map_some]
    · rw [sound.path?_of_mem firstMember, firstPath]

end ColumnMap

namespace Registry

/-- The registries that a deployment can have: it starts from the builtin one and registers maps. -/
inductive Reachable : Registry → Prop where
  | builtin : Reachable builtin
  | register {registry larger : Registry} {map : ColumnMap} :
      Reachable registry → registry.register map = .ok larger → Reachable larger

theorem mem_put {registry : Registry} {map known : ColumnMap}
    (member : known ∈ (registry.put map).maps) : known = map ∨ known ∈ registry.maps := by
  unfold put at member
  split at member
  · obtain ⟨earlier, placed, image⟩ := List.mem_map.mp member
    by_cases same : earlier.version = map.version
    · rw [if_pos same] at image
      exact .inl image.symm
    · rw [if_neg same] at image
      exact .inr (image ▸ placed)
  · rcases List.mem_append.mp member with placed | last
    · exact .inr placed
    · exact .inl (by simpa using last)

theorem sound_of_register {registry larger : Registry} {map : ColumnMap}
    (registered : registry.register map = .ok larger) :
    map.Sound ∧ larger = registry.put map := by
  unfold register at registered
  split at registered
  · next clear =>
    cases registered
    exact ⟨(ColumnMap.problem?_eq_none_iff map).mp clear, rfl⟩
  · cases registered

theorem Reachable.put {registry : Registry} (reachable : registry.Reachable) {map : ColumnMap}
    (sound : map.Sound) : (registry.put map).Reachable := by
  have registered : registry.register map = .ok (registry.put map) := by
    simp only [Registry.register, (ColumnMap.problem?_eq_none_iff map).mpr sound]
  exact .register reachable registered

theorem Reachable.sound {registry : Registry} (reachable : registry.Reachable) {map : ColumnMap}
    (member : map ∈ registry.maps) : map.Sound := by
  induction reachable with
  | builtin =>
    have listed : map = .merchant ∨ map = .merchantWithDocument := by
      simpa [Registry.builtin] using member
    rcases listed with rfl | rfl
    · exact (ColumnMap.problem?_eq_none_iff _).mp (by decide +kernel)
    · exact (ColumnMap.problem?_eq_none_iff _).mp (by decide +kernel)
  | register _ registered ih =>
    obtain ⟨newSound, rfl⟩ := sound_of_register registered
    rcases mem_put member with rfl | earlier
    · exact newSound
    · exact ih earlier

theorem mem_of_get? {registry : Registry} {version : String} {map : ColumnMap}
    (found : registry.get? version = some map) : map ∈ registry.maps := by
  by_cases blank : Text.trim version = ""
  · simp [get?, blank] at found
  · exact List.mem_of_find?_eq_some (by simpa [get?, at?, blank] using found)

theorem find_text (registry : Registry) (version : String) :
    registry.find (.text version)
      = match registry.get? version with
        | some map => .ok map
        | none => .error (.config (.versionUnknown (.text version))) := by
  by_cases empty : version = ""
  · subst empty
    rfl
  · have given : (Value.text version).isGiven = true := by simp [Value.isGiven, empty]
    simp only [find, given, Bool.not_true, Bool.false_eq_true, if_false, Value.text?]
    rfl

theorem mem_of_find {registry : Registry} {version : String} {map : ColumnMap}
    (found : registry.find (.text version) = .ok map) : map ∈ registry.maps := by
  rw [find_text] at found
  split at found
  · next known =>
    cases found
    exact mem_of_get? known
  · cases found

end Registry

end LoanDispatch
