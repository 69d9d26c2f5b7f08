import LoanDispatch.Proofs.ColumnMap.Registered
import Mathlib.Data.List.Induction
import Mathlib.Data.String.Basic

/-!
Registrations one after the other.  Maps are offered to a registry in order, and a refused map leaves
it as it was.  A lookup finds the map that was accepted last under the version it asks for, without
the blanks around it; so a version that was registered with blanks around it is never found.
-/

set_option autoImplicit false

namespace LoanDispatch.Registry

def empty : Registry := ⟨[]⟩

/-- The registry after a map is offered; a refused map leaves it as it was. -/
def offer (registry : Registry) (map : ColumnMap) : Registry :=
  match registry.register map with
  | .ok larger => larger
  | .error _ => registry

def offerAll (registry : Registry) (maps : List ColumnMap) : Registry := maps.foldl offer registry

/-- Among the maps that were offered, this one was accepted last under a version. -/
structure AcceptedLast (offered : List ColumnMap) (version : String) (map : ColumnMap) : Prop where
  sound : map.Sound
  named : map.version = version
  last : ∃ before after, offered = before ++ map :: after ∧
    ∀ later ∈ after, later.version = version → ¬ later.Sound

section AcceptedLast

variable {offered : List ColumnMap} {version : String} {map next : ColumnMap}

theorem acceptedLast_concat_self (sound : next.Sound) :
    AcceptedLast (offered ++ [next]) next.version map ↔ map = next := by
  constructor
  · intro accepted
    obtain ⟨before, after, shape, later⟩ := accepted.last
    rcases List.eq_nil_or_concat after with rfl | ⟨middle, final, rfl⟩
    · exact (List.append_inj_right' shape rfl |> List.singleton_inj.mp).symm
    · have same : next = final := by
        rw [List.concat_eq_append, ← List.cons_append, ← List.append_assoc] at shape
        exact List.singleton_inj.mp (List.append_inj_right' shape rfl)
      exact absurd sound (later next (by simp [same]) rfl)
  · intro same
    subst same
    exact ⟨sound, rfl, offered, [], rfl, by simp⟩

theorem acceptedLast_concat_other (other : ¬ (next.Sound ∧ next.version = version)) :
    AcceptedLast (offered ++ [next]) version map ↔ AcceptedLast offered version map := by
  constructor
  · intro accepted
    obtain ⟨before, after, shape, later⟩ := accepted.last
    rcases List.eq_nil_or_concat after with rfl | ⟨middle, final, rfl⟩
    · have same : next = map := List.singleton_inj.mp (List.append_inj_right' shape rfl)
      exact absurd ⟨same ▸ accepted.sound, same ▸ accepted.named⟩ other
    · rw [List.concat_eq_append, ← List.cons_append, ← List.append_assoc] at shape
      exact ⟨accepted.sound, accepted.named, before, middle, List.append_inj_left' shape rfl,
        fun earlier member => later earlier (by simp [member])⟩
  · intro accepted
    obtain ⟨before, after, shape, later⟩ := accepted.last
    refine ⟨accepted.sound, accepted.named, before, after ++ [next], by simp [shape], ?_⟩
    intro following member named sound
    rcases List.mem_append.mp member with earlier | final
    · exact later following earlier named sound
    · obtain rfl := List.mem_singleton.mp final
      exact other ⟨sound, named⟩

theorem exists_acceptedLast_iff :
    (∃ map, AcceptedLast offered version map) ↔
      ∃ map ∈ offered, map.Sound ∧ map.version = version := by
  induction offered using List.reverseRecOn with
  | nil =>
    constructor
    · intro accepted
      obtain ⟨map, accepted⟩ := accepted
      obtain ⟨before, after, shape, _⟩ := accepted.last
      simp at shape
    · intro present
      obtain ⟨map, member, _⟩ := present
      exact absurd member List.not_mem_nil
  | append_singleton offered next ih =>
    by_cases accepted : next.Sound ∧ next.version = version
    · obtain ⟨sound, rfl⟩ := accepted
      simp only [acceptedLast_concat_self sound]
      exact ⟨fun _ => ⟨next, by simp, sound, rfl⟩, fun _ => ⟨next, rfl⟩⟩
    · simp only [acceptedLast_concat_other accepted, ih, List.mem_append, List.mem_singleton]
      constructor
      · intro present
        obtain ⟨map, member, good⟩ := present
        exact ⟨map, .inl member, good⟩
      · intro present
        obtain ⟨map, member | rfl, good⟩ := present
        · exact ⟨map, member, good⟩
        · exact absurd good accepted

end AcceptedLast

section Put

variable {registry : Registry} {map : ColumnMap} {version : String}

theorem at?_put_self (registry : Registry) (map : ColumnMap) :
    (registry.put map).at? map.version = some map := by
  unfold put at?
  split
  · next known =>
    obtain ⟨earlier, member, same⟩ := List.any_eq_true.mp known
    have listed : map ∈ registry.maps.map fun known =>
        if known.version = map.version then map else known :=
      List.mem_map.mpr ⟨earlier, member, if_pos (by simpa using same)⟩
    cases found : (registry.maps.map fun known =>
        if known.version = map.version then map else known).find?
          fun known => known.version == map.version with
    | none => exact absurd (List.find?_eq_none.mp found map listed) (by simp)
    | some other =>
      have named : other.version = map.version := by simpa using List.find?_some found
      obtain ⟨source, _, image⟩ := List.mem_map.mp (List.mem_of_find?_eq_some found)
      split at image
      · exact congrArg some image.symm
      · next different => exact absurd (image ▸ named) different
  · next unknown =>
    rw [List.find?_append]
    have absent : registry.maps.find? (fun known => known.version == map.version) = none := by
      simpa using unknown
    simp [absent]

theorem at?_put_of_ne (different : map.version ≠ version) :
    (registry.put map).at? version = registry.at? version := by
  unfold put at?
  split
  · induction registry.maps with
    | nil => rfl
    | cons known rest ih =>
      rw [List.map_cons, List.find?_cons, List.find?_cons, ih]
      by_cases same : known.version = map.version
      · simp [same, beq_false_of_ne different]
      · simp [same]
  · simp [List.find?_append, different]

theorem versions_put (registry : Registry) (map : ColumnMap) :
    (registry.put map).maps.map ColumnMap.version
      = if map.version ∈ registry.maps.map ColumnMap.version
        then registry.maps.map ColumnMap.version
        else registry.maps.map ColumnMap.version ++ [map.version] := by
  have known : (registry.maps.any fun known => known.version == map.version) = true ↔
      map.version ∈ registry.maps.map ColumnMap.version := by simp
  by_cases present : map.version ∈ registry.maps.map ColumnMap.version
  · rw [put, if_pos (known.mpr present), if_pos present, List.map_map]
    refine List.map_congr_left fun earlier _ => ?_
    by_cases same : earlier.version = map.version <;> simp [same]
  · rw [put, if_neg (mt known.mp present), if_neg present, List.map_append]
    rfl

theorem nodup_versions_put (distinct : (registry.maps.map ColumnMap.version).Nodup) :
    ((registry.put map).maps.map ColumnMap.version).Nodup := by
  rw [versions_put]
  split
  · exact distinct
  · next absent => exact distinct.append (List.nodup_singleton _) (by simpa using absent)

theorem mem_versions_iff : version ∈ registry.versions ↔ (registry.at? version).isSome := by
  simp [versions, at?, List.find?_isSome]

end Put

section Offer

variable {registry : Registry} {map : ColumnMap} {version : String}

theorem offer_of_sound (registry : Registry) (sound : map.Sound) :
    registry.offer map = registry.put map := by
  simp only [offer, register, (ColumnMap.problem?_eq_none_iff map).mpr sound]

theorem register_of_not_sound (registry : Registry) (unsound : ¬ map.Sound) :
    ∃ problem, registry.register map = .error problem := by
  cases checked : map.problem? with
  | none => exact absurd ((ColumnMap.problem?_eq_none_iff map).mp checked) unsound
  | some problem => exact ⟨problem, by simp only [register, checked]⟩

theorem register_eq_ok_iff {larger : Registry} :
    registry.register map = .ok larger ↔ map.Sound ∧ larger = registry.put map := by
  rw [← ColumnMap.problem?_eq_none_iff, register]
  cases map.problem? with
  | none => simp [eq_comm]
  | some problem => simp

/-- A map whose version has no blanks around it is found once it is registered. -/
theorem get?_registered {larger : Registry} (accepted : registry.register map = .ok larger)
    (tidy : Text.trim map.version = map.version) (asked : Text.trim version = map.version) :
    larger.get? version = some map := by
  obtain ⟨sound, rfl⟩ := register_eq_ok_iff.mp accepted
  rw [get?, asked, if_neg (tidy ▸ sound.version_given)]
  exact at?_put_self registry map

theorem offer_of_not_sound (registry : Registry) (unsound : ¬ map.Sound) :
    registry.offer map = registry := by
  obtain ⟨problem, refused⟩ := registry.register_of_not_sound unsound
  simp only [offer, refused]

theorem offerAll_concat (registry : Registry) (maps : List ColumnMap) (map : ColumnMap) :
    registry.offerAll (maps ++ [map]) = (registry.offerAll maps).offer map := by
  simp [offerAll]

/-- The builtin registry is filled by offering its maps as well. -/
theorem offerAll_builtin (maps : List ColumnMap) :
    builtin.offerAll maps = empty.offerAll (builtin.maps ++ maps) := by
  have filled : empty.offerAll builtin.maps = builtin := by
    have sound : ∀ map ∈ builtin.maps, map.Sound := fun map => Reachable.builtin.sound
    have first := sound .merchant (by simp [builtin])
    have second := sound .merchantWithDocument (by simp [builtin])
    rw [offerAll, builtin, List.foldl_cons, List.foldl_cons, List.foldl_nil,
      offer_of_sound _ first, offer_of_sound _ second]
    rfl
  rw [offerAll, offerAll, List.foldl_append]
  exact congrArg (List.foldl offer · maps) filled.symm

/-- A registry holds under each version the map that was accepted last. -/
theorem at?_offerAll (offered : List ColumnMap) (version : String) (map : ColumnMap) :
    (empty.offerAll offered).at? version = some map ↔ AcceptedLast offered version map := by
  -- The last map that was offered answers for its own version and leaves every other one alone.
  induction offered using List.reverseRecOn with
  | nil =>
    constructor
    · intro found
      cases found
    · intro accepted
      obtain ⟨before, after, shape, _⟩ := accepted.last
      simp at shape
  | append_singleton offered next ih =>
    rw [offerAll_concat]
    by_cases sound : next.Sound
    · rw [offer_of_sound _ sound]
      by_cases same : next.version = version
      · subst same
        rw [at?_put_self, acceptedLast_concat_self sound, Option.some.injEq]
        exact eq_comm
      · rw [at?_put_of_ne same, ih, acceptedLast_concat_other fun good => same good.2]
    · rw [offer_of_not_sound _ sound, ih, acceptedLast_concat_other fun good => sound good.1]

theorem nodup_versions_offerAll (offered : List ColumnMap) :
    ((empty.offerAll offered).maps.map ColumnMap.version).Nodup := by
  induction offered using List.reverseRecOn with
  | nil => exact List.nodup_nil
  | append_singleton offered next ih =>
    rw [offerAll_concat]
    by_cases sound : next.Sound
    · rw [offer_of_sound _ sound]
      exact nodup_versions_put ih
    · rw [offer_of_not_sound _ sound]
      exact ih

theorem versions_increase (offered : List ColumnMap) :
    (empty.offerAll offered).versions.Pairwise (· < ·) := by
  have sorted : (empty.offerAll offered).versions.Pairwise (· ≤ ·) := by
    have ordered := @List.pairwise_mergeSort _ (fun left right : String => decide (left ≤ right))
      (fun first second third low high => by
        simpa using le_trans (by simpa using low) (by simpa using high))
      (fun first second => by simpa using le_total first second)
      ((empty.offerAll offered).maps.map ColumnMap.version)
    exact ordered.imp fun low => by simpa using low
  have distinct : (empty.offerAll offered).versions.Nodup :=
    (List.mergeSort_perm _ _).nodup_iff.mpr (nodup_versions_offerAll offered)
  exact (sorted.and distinct).imp fun both => lt_of_le_of_ne both.1 both.2

theorem find_text_eq_ok_iff : registry.find (.text version) = .ok map ↔
    registry.get? version = some map := by
  rw [find_text]
  cases registry.get? version <;> simp

theorem get?_offerAll (offered : List ColumnMap) (version : String) (map : ColumnMap) :
    (empty.offerAll offered).get? version = some map ↔
      AcceptedLast offered (Text.trim version) map := by
  rw [get?]
  split
  · next blank =>
    constructor
    · intro found
      cases found
    · intro accepted
      have given := accepted.sound.version_given
      rw [accepted.named, blank] at given
      exact absurd (by decide) given
  · exact at?_offerAll offered (Text.trim version) map

end Offer

/-- After any registrations the versions are those of the builtin maps and of the accepted ones, in
order; a lookup finds the map that was accepted last under the trimmed version, so that a version
finds its own map exactly when there are no blanks around it; and a refused map changes nothing that
follows. -/
theorem lookups_follow_registrations (maps : List ColumnMap) :
    let registry := builtin.offerAll maps
    let offered := builtin.maps ++ maps
    registry.versions.Pairwise (· < ·) ∧
    (∀ version, version ∈ registry.versions ↔
      version ∈ builtin.versions ∨ ∃ map ∈ maps, map.Sound ∧ map.version = version) ∧
    (∀ version map, registry.find (.text version) = .ok map ↔
      AcceptedLast offered (Text.trim version) map) ∧
    (∀ version ∈ registry.versions,
      (∃ map, registry.find (.text version) = .ok map ∧ AcceptedLast offered version map) ↔
        Text.trim version = version) ∧
    ∀ refused later, ¬ refused.Sound →
      (∃ problem, registry.register refused = .error problem) ∧
        (registry.offer refused).offerAll later = registry.offerAll later := by
  intro registry offered
  have filled : registry = empty.offerAll offered := offerAll_builtin maps
  have listed : ∀ version, version ∈ registry.versions ↔
      ∃ map ∈ offered, map.Sound ∧ map.version = version := by
    intro version
    rw [filled, mem_versions_iff, Option.isSome_iff_exists, ← exists_acceptedLast_iff]
    simp only [at?_offerAll]
  have finds : ∀ version map, registry.find (.text version) = .ok map ↔
      AcceptedLast offered (Text.trim version) map := by
    intro version map
    rw [find_text_eq_ok_iff, filled, get?_offerAll]
  refine ⟨filled ▸ versions_increase offered, ?_, finds, ?_, ?_⟩
  · intro version
    have known : version ∈ builtin.versions ↔
        ∃ map ∈ builtin.maps, map.Sound ∧ map.version = version := by
      simp only [versions, List.mem_mergeSort, List.mem_map]
      exact exists_congr fun map => and_congr_right fun member =>
        (and_iff_right (Reachable.builtin.sound member)).symm
    rw [listed, known]
    simp only [offered, List.mem_append, or_and_right, exists_or]
  · intro version member
    simp only [finds]
    constructor
    · intro found
      obtain ⟨map, trimmed, own⟩ := found
      exact trimmed.named.symm.trans own.named
    · intro tight
      obtain ⟨map, accepted⟩ := exists_acceptedLast_iff.mpr ((listed version).mp member)
      exact ⟨map, tight.symm ▸ accepted, accepted⟩
  · intro refused later unsound
    exact ⟨registry.register_of_not_sound unsound, by rw [offer_of_not_sound registry unsound]⟩

/-- Of two maps with one version the later one is found, though a map was refused after it. -/
theorem later_map_found :
    let earlier : ColumnMap := ⟨"v9", [⟨"ID", identifierPath⟩]⟩
    let later : ColumnMap := ⟨"v9", [⟨"ID", identifierPath⟩, ⟨"Name", "application.name"⟩]⟩
    let refused : ColumnMap := ⟨"v9", [⟨"Name", "application.name"⟩]⟩
    "v9" ∈ (builtin.offerAll [earlier, later, refused]).versions ∧ Text.trim "v9" = "v9" ∧
      ¬ refused.Sound ∧
      (builtin.offerAll [earlier, later, refused]).find (.text "v9\n") = .ok later := by
  intro earlier later refused
  obtain ⟨_, listed, finds, _⟩ := lookups_follow_registrations [earlier, later, refused]
  have sound : later.Sound := ⟨by decide, by decide, by decide, by decide⟩
  have unsound : ¬ refused.Sound := fun good => absurd good.one_identifier (by decide)
  refine ⟨(listed _).mpr (.inr ⟨later, by simp, sound, rfl⟩), by decide +kernel, unsound, ?_⟩
  have trimmed : Text.trim "v9\n" = later.version := by decide +kernel
  refine (finds _ _).mpr ⟨sound, trimmed.symm, builtin.maps ++ [earlier], [refused], rfl, ?_⟩
  intro map member _
  obtain rfl := List.mem_singleton.mp member
  exact unsound

def paddedMap : ColumnMap := ⟨" v9 ", [⟨"ID", identifierPath⟩]⟩

/-- A map whose version has blanks around it is accepted and listed, but no lookup of its version
finds it. -/
theorem padded_version_unfound :
    let registry := builtin.offerAll [paddedMap]
    builtin.register paddedMap = .ok registry ∧ paddedMap.version ∈ registry.versions ∧
      registry.find (.text paddedMap.version)
        = .error (.config (.versionUnknown (.text paddedMap.version))) := by
  have sound : paddedMap.Sound := ⟨by decide, by decide, by decide, by decide⟩
  have put : builtin.offerAll [paddedMap] = builtin.put paddedMap := by
    rw [offerAll, List.foldl_cons, List.foldl_nil, offer_of_sound builtin sound]
  have absent : (builtin.put paddedMap).get? paddedMap.version = none := by decide +kernel
  refine ⟨?_, ?_, ?_⟩
  · exact register_eq_ok_iff.mpr ⟨sound, put⟩
  · rw [put, mem_versions_iff, at?_put_self]
    rfl
  · rw [put, find_text, absent]

end LoanDispatch.Registry
