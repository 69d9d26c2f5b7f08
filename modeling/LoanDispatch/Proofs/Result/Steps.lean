import Mathlib.Data.List.Forall2

/-!
Results of several steps.  Each step gives a value or an error, and the first error ends them all;
what the result is says how each step went.
-/

set_option autoImplicit false

namespace LoanDispatch.Result

variable {α β ε ρ : Type}

theorem bind_eq_ok {first : Except ε α} {next : α → Except ε β} {result : β}
    (reached : first >>= next = .ok result) :
    ∃ value, first = .ok value ∧ next value = .ok result := by
  cases first with
  | error cause => cases reached
  | ok value => exact ⟨value, rfl, reached⟩

theorem bind_eq_error {first : Except ε α} {next : α → Except ε β} {cause : ε}
    (failed : first >>= next = .error cause) :
    first = .error cause ∨ ∃ value, first = .ok value ∧ next value = .error cause := by
  cases first with
  | error other =>
    cases failed
    exact .inl rfl
  | ok value => exact .inr ⟨value, rfl, failed⟩

/-- The result is a value, or else an allowed error. -/
def FailsOnly (allowed : ε → Prop) (result : Except ε α) : Prop :=
  ∀ cause, result = .error cause → allowed cause

section FailsOnly

variable {allowed : ε → Prop}

theorem failsOnly_ok (value : α) : FailsOnly allowed (.ok value : Except ε α) := nofun

theorem failsOnly_error {cause : ε} (holds : allowed cause) :
    FailsOnly allowed (.error cause : Except ε α) := by
  intro other same
  cases same
  exact holds

theorem FailsOnly.bind {first : Except ε α} {next : α → Except ε β}
    (start : FailsOnly allowed first) (rest : ∀ value, FailsOnly allowed (next value)) :
    FailsOnly allowed (first >>= next) := by
  cases first with
  | error cause => exact failsOnly_error (start cause rfl)
  | ok value => exact rest value

theorem FailsOnly.map {first : Except ε α} (start : FailsOnly allowed first) (f : α → β) :
    FailsOnly allowed (first.map f) := by
  cases first with
  | error cause => exact failsOnly_error (start cause rfl)
  | ok value => exact failsOnly_ok (f value)

theorem failsOnly_mapM {f : α → Except ε β} (each : ∀ item, FailsOnly allowed (f item))
    (items : List α) : FailsOnly allowed (items.mapM f) := by
  induction items with
  | nil => exact failsOnly_ok []
  | cons item rest ih =>
    rw [List.mapM_cons]
    exact (each item).bind fun first => ih.bind fun others => failsOnly_ok (first :: others)

end FailsOnly

theorem map_eq_ok {first : Except ε α} {f : α → β} {result : β} (reached : first.map f = .ok result) :
    ∃ value, first = .ok value ∧ result = f value := by
  cases first with
  | error cause => cases reached
  | ok value =>
    cases reached
    exact ⟨value, rfl, rfl⟩

theorem mapError_eq_ok {first : Except ε α} {f : ε → ρ} {result : α}
    (reached : first.mapError f = .ok result) : first = .ok result := by
  cases first with
  | error cause => cases reached
  | ok value =>
    cases reached
    rfl

theorem mapError_eq_error {first : Except ε α} {f : ε → ρ} {image : ρ}
    (failed : first.mapError f = .error image) : ∃ cause, first = .error cause ∧ image = f cause := by
  cases first with
  | error cause =>
    cases failed
    exact ⟨cause, rfl, rfl⟩
  | ok value => cases failed

theorem mapM_eq_ok_iff {f : α → Except ε β} {items : List α} {results : List β} :
    items.mapM f = .ok results ↔
      List.Forall₂ (fun item result => f item = .ok result) items results := by
  induction items generalizing results with
  | nil =>
    simp only [List.mapM_nil, pure, Except.pure, Except.ok.injEq, List.forall₂_nil_left_iff]
    exact eq_comm
  | cons item rest ih =>
    rw [List.mapM_cons]
    constructor
    · intro mapped
      obtain ⟨value, first, mapped⟩ := bind_eq_ok mapped
      obtain ⟨values, others, mapped⟩ := bind_eq_ok mapped
      cases mapped
      exact .cons first (ih.mp others)
    · intro related
      cases related with
      | cons head tail =>
        rw [head, ih.mpr tail]
        rfl

/-- Every result of a step over a list comes from one of the items. -/
theorem exists_of_mem_mapM {f : α → Except ε β} {items : List α} {results : List β}
    (mapped : items.mapM f = .ok results) {result : β} (member : result ∈ results) :
    ∃ item ∈ items, f item = .ok result := by
  induction mapM_eq_ok_iff.mp mapped with
  | nil => cases member
  | @cons item first rest others head tail ih =>
    rcases List.mem_cons.mp member with rfl | later
    · exact ⟨item, List.mem_cons_self, head⟩
    · obtain ⟨source, among, step⟩ := ih (mapM_eq_ok_iff.mpr tail) later
      exact ⟨source, List.mem_cons_of_mem _ among, step⟩

/-- The error of a step over a list is the error of one of the items. -/
theorem exists_of_mapM_eq_error {f : α → Except ε β} {items : List α} {cause : ε}
    (failed : items.mapM f = .error cause) : ∃ item ∈ items, f item = .error cause := by
  induction items with
  | nil => cases failed
  | cons item rest ih =>
    rw [List.mapM_cons] at failed
    rcases bind_eq_error failed with first | ⟨value, _, failed⟩
    · exact ⟨item, List.mem_cons_self, first⟩
    rcases bind_eq_error failed with others | ⟨values, _, failed⟩
    · obtain ⟨source, among, step⟩ := ih others
      exact ⟨source, List.mem_cons_of_mem _ among, step⟩
    · cases failed

theorem exists_of_mapM_eq_ok {f : α → Except ε β} {items : List α} {results : List β}
    (mapped : items.mapM f = .ok results) {item : α} (member : item ∈ items) :
    ∃ result, f item = .ok result := by
  induction mapM_eq_ok_iff.mp mapped with
  | nil => cases member
  | @cons first result rest others head tail ih =>
    rcases List.mem_cons.mp member with rfl | later
    · exact ⟨result, head⟩
    · exact ih (mapM_eq_ok_iff.mpr tail) later

end LoanDispatch.Result
