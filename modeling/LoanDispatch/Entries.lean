/-!
Lists of entries with keys, in the order in which the keys were first set.  Looking up finds
what was set last, and setting one key leaves every other key alone.
-/

set_option autoImplicit false

namespace LoanDispatch.Entries

variable {κ α : Type} [DecidableEq κ]

/-- The value for a key; the first entry counts. -/
def lookup (key : κ) : List (κ × α) → Option α
  | [] => none
  | entry :: rest => if entry.1 = key then some entry.2 else lookup key rest

/-- Sets a key: a known key keeps its place and takes the new value, a new key goes to the end. -/
def insert (key : κ) (value : α) : List (κ × α) → List (κ × α)
  | [] => [(key, value)]
  | entry :: rest =>
    if entry.1 = key then (key, value) :: rest else entry :: insert key value rest

/-- Sets the keys of the second list, in order, on top of the first. -/
def merge (base extra : List (κ × α)) : List (κ × α) :=
  extra.foldl (fun entries entry => insert entry.1 entry.2 entries) base

theorem lookup_insert_self (key : κ) (value : α) (entries : List (κ × α)) :
    lookup key (insert key value entries) = some value := by
  induction entries with
  | nil => simp [insert, lookup]
  | cons entry rest ih => by_cases same : entry.1 = key <;> simp [insert, lookup, same, ih]

theorem lookup_insert_of_ne {key other : κ} (different : key ≠ other) (value : α)
    (entries : List (κ × α)) :
    lookup other (insert key value entries) = lookup other entries := by
  induction entries with
  | nil => simp [insert, lookup, different]
  | cons entry rest ih =>
    by_cases same : entry.1 = key
    · simp [insert, lookup, same, different]
    · by_cases found : entry.1 = other <;> simp [insert, lookup, same, found, different.symm, ih]

theorem insert_of_absent {key : κ} {entries : List (κ × α)}
    (absent : lookup key entries = none) (value : α) :
    insert key value entries = entries ++ [(key, value)] := by
  induction entries with
  | nil => rfl
  | cons entry rest ih =>
    rw [lookup] at absent
    split at absent
    · cases absent
    · next other => rw [insert, if_neg other, ih absent, List.cons_append]

theorem lookup_of_notMem {key : κ} {entries : List (κ × α)}
    (absent : key ∉ entries.map Prod.fst) : lookup key entries = none := by
  induction entries with
  | nil => rfl
  | cons entry rest ih =>
    obtain ⟨other, others⟩ := not_or.mp (mt List.mem_cons.mpr absent)
    rw [lookup, if_neg (Ne.symm other), ih others]

/-- Setting new keys, each of them once, is appending them. -/
theorem merge_of_distinct {base extra : List (κ × α)}
    (distinct : ((base ++ extra).map Prod.fst).Nodup) : merge base extra = base ++ extra := by
  induction extra generalizing base with
  | nil => exact (List.append_nil base).symm
  | cons entry rest ih =>
    have shifted : base ++ entry :: rest = (base ++ [entry]) ++ rest := by simp
    have absent : entry.1 ∉ base.map Prod.fst := by
      rw [List.map_append, List.map_cons] at distinct
      exact fun member => (List.nodup_append.mp distinct).2.2 _ member _ List.mem_cons_self rfl
    rw [shifted] at distinct ⊢
    rw [← ih distinct, ← insert_of_absent (lookup_of_notMem absent)]
    rfl

theorem lookup_merge_of_notMem {key : κ} {extra : List (κ × α)}
    (absent : key ∉ extra.map Prod.fst) (base : List (κ × α)) :
    lookup key (merge base extra) = lookup key base := by
  induction extra generalizing base with
  | nil => rfl
  | cons entry rest ih =>
    obtain ⟨other, others⟩ := not_or.mp (mt List.mem_cons.mpr absent)
    exact (ih others _).trans (lookup_insert_of_ne (Ne.symm other) entry.2 base)

theorem lookup_merge_of_mem {entry : κ × α} {extra : List (κ × α)}
    (distinct : (extra.map Prod.fst).Nodup) (member : entry ∈ extra) (base : List (κ × α)) :
    lookup entry.1 (merge base extra) = some entry.2 := by
  induction extra generalizing base with
  | nil => cases member
  | cons head rest ih =>
    obtain ⟨apart, distinctRest⟩ := List.nodup_cons.mp distinct
    rcases List.mem_cons.mp member with rfl | among
    · exact (lookup_merge_of_notMem apart _).trans (lookup_insert_self entry.1 entry.2 base)
    · exact ih distinctRest among _

theorem lookup_append_of_none {key : κ} {first second : List (κ × α)}
    (absent : lookup key first = none) : lookup key (first ++ second) = lookup key second := by
  induction first with
  | nil => rfl
  | cons entry rest ih =>
    rw [lookup] at absent
    split at absent
    · cases absent
    · next other => rw [List.cons_append, lookup, if_neg other, ih absent]

/-- The order of entries with different keys does not matter. -/
theorem lookup_perm {first second : List (κ × α)}
    (perm : first.Perm second) (distinct : (first.map Prod.fst).Nodup) (key : κ) :
    lookup key first = lookup key second := by
  induction perm with
  | nil => rfl
  | cons entry perm ih =>
    rw [lookup, lookup, ih (List.nodup_cons.mp distinct).2]
  | swap one two rest =>
    have apart : two.1 ≠ one.1 := by
      intro same
      simp [same] at distinct
    simp only [lookup]
    split
    · next hit => rw [if_neg (fun other => apart (hit.trans other.symm))]
    · rfl
  | trans left right ihl ihr =>
    exact (ihl distinct).trans (ihr ((left.map Prod.fst).nodup_iff.mp distinct))

end LoanDispatch.Entries
