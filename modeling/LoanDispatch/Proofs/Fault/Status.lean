import LoanDispatch.Fault.ApiReply
import LoanDispatch.Fault.Status
import LoanDispatch.Proofs.Number.Reading

/-!
When the status of a fault can be told.  The places are looked through in order, and the search
fails at a text of numerals that cannot be read before any status has been found; nowhere else.
-/

set_option autoImplicit false

namespace LoanDispatch

open Number

theorem asStatus?_eq_error_iff {value : Value} {misfit : Misfit} :
    asStatus? value = .error misfit ↔
      ∃ words, value = .text words ∧ Unreadable words ∧ misfit = integerMisfit words := by
  constructor
  · intro failed
    cases value with
    | text words =>
      rw [asStatus?] at failed
      split at failed
      · next numerals =>
        cases read : readInteger words with
        | error cause =>
          rw [read] at failed
          cases failed
          exact ⟨words, rfl, (readInteger_eq_error_iff numerals misfit).mp read⟩
        | ok number =>
          rw [read] at failed
          cases failed
      · cases failed
    | _ => cases failed
  · intro text
    obtain ⟨words, rfl, unreadable, rfl⟩ := text
    rw [asStatus?, if_pos unreadable.numerals, readInteger_of_unreadable unreadable]
    rfl

/-- The statuses that are worth another attempt. -/
def TransientStatus (status : Int) : Prop := status = 429 ∨ (500 ≤ status ∧ status ≤ 599)

theorem isRetryableStatus_iff (status : Int) :
    isRetryableStatus status = true ↔ TransientStatus status := by
  simp [isRetryableStatus, TransientStatus]

namespace Fault

/-- Among values, a text that cannot be read comes before any status. -/
def UnreadableFirst (values : List Value) (words : String) : Prop :=
  ∃ before after, values = before ++ .text words :: after ∧
    (∀ value ∈ before, asStatus? value = .ok none) ∧ Unreadable words

theorem not_unreadableFirst_nil {words : String} : ¬ UnreadableFirst [] words := by
  intro first
  obtain ⟨before, after, shape, _⟩ := first
  cases before <;> cases shape

theorem unreadableFirst_cons {value : Value} {rest : List Value} {words : String} :
    UnreadableFirst (value :: rest) words ↔
      (value = .text words ∧ Unreadable words) ∨
        (asStatus? value = .ok none ∧ UnreadableFirst rest words) := by
  constructor
  · intro first
    obtain ⟨before, after, shape, clear, unreadable⟩ := first
    cases before with
    | nil =>
      cases shape
      exact .inl ⟨rfl, unreadable⟩
    | cons earlier others =>
      cases shape
      obtain ⟨passed, clear⟩ := List.forall_mem_cons.mp clear
      exact .inr ⟨passed, others, after, rfl, clear, unreadable⟩
  · intro cases
    rcases cases with ⟨rfl, unreadable⟩ | ⟨passed, before, after, rfl, clear, unreadable⟩
    · exact ⟨[], rest, rfl, List.forall_mem_nil _, unreadable⟩
    · exact ⟨value :: before, after, rfl, List.forall_mem_cons.mpr ⟨passed, clear⟩, unreadable⟩

theorem firstStatus?_cons_eq_error {value : Value} {rest : List Value} {misfit : Misfit} :
    firstStatus? (value :: rest) = .error misfit ↔
      asStatus? value = .error misfit ∨
        (asStatus? value = .ok none ∧ firstStatus? rest = .error misfit) := by
  rw [firstStatus?]
  cases asStatus? value with
  | error cause => simp [bind, Except.bind]
  | ok found => cases found <;> simp [bind, Except.bind, pure, Except.pure]

theorem firstStatus?_eq_error_iff {values : List Value} {misfit : Misfit} :
    firstStatus? values = .error misfit ↔
      ∃ words, UnreadableFirst values words ∧ misfit = integerMisfit words := by
  induction values with
  | nil =>
    refine iff_of_false nofun fun first => ?_
    obtain ⟨words, first, _⟩ := first
    exact not_unreadableFirst_nil first
  | cons value rest ih =>
    rw [firstStatus?_cons_eq_error, asStatus?_eq_error_iff, ih]
    simp only [unreadableFirst_cons]
    constructor
    · rintro (⟨words, text, unreadable, same⟩ | ⟨passed, words, first, same⟩)
      · exact ⟨words, .inl ⟨text, unreadable⟩, same⟩
      · exact ⟨words, .inr ⟨passed, first⟩, same⟩
    · rintro ⟨words, ⟨text, unreadable⟩ | ⟨passed, first⟩, same⟩
      · exact .inl ⟨words, text, unreadable, same⟩
      · exact .inr ⟨passed, words, first, same⟩

theorem isRetryable_eq_error_iff {fault : Fault} {misfit : Misfit} :
    fault.isRetryable = .error misfit ↔
      ∃ words, UnreadableFirst fault.statusCandidates words ∧ misfit = integerMisfit words := by
  rw [← firstStatus?_eq_error_iff]
  show fault.status?.map _ = _ ↔ fault.status? = _
  cases fault.status? with
  | error cause => simp [Except.map]
  | ok status => simp [Except.map]

/-- A fault is retryable exactly when its status is told and is worth another attempt. -/
theorem status?_of_isRetryable {fault : Fault} {retryable : Bool}
    (told : fault.isRetryable = .ok retryable) :
    ∃ status, fault.status? = .ok status ∧
      (retryable = true ↔ ∃ code, status = some code ∧ TransientStatus code) := by
  cases read : fault.status? with
  | error cause =>
    rw [isRetryable, read] at told
    cases told
  | ok status =>
    rw [isRetryable, read] at told
    cases told
    refine ⟨status, rfl, ?_⟩
    cases status with
    | none => simp
    | some code => simpa using isRetryableStatus_iff code

theorem isRetryable_of_config (problem : ConfigProblem) :
    (Fault.config problem).isRetryable = .ok false := rfl

theorem isRetryable_of_layout (problem : LayoutProblem) :
    (Fault.layout problem).isRetryable = .ok false := rfl

theorem isRetryable_of_misfit (cause : Misfit) : (Fault.misfit cause).isRetryable = .ok false := rfl

section Reply

/-- An error reply with a status, which no property put on top of it hides. -/
def IsReply (status : Int) (fault : Fault) : Prop :=
  ∃ reason details name message properties,
    fault = .remote ⟨.apiReply status reason details, name, message, properties⟩ ∧
    Entries.lookup "status_code" properties = none ∧ Entries.lookup "resp" properties = none

variable {status : Int} {fault : Fault}

theorem isRetryable_of_first (first : fault.property "status_code" = .int status) :
    fault.isRetryable = .ok (isRetryableStatus status) := by
  rw [isRetryable, status?, statusCandidates, first]
  rfl

theorem IsReply.property_eq (reply : fault.IsReply status) :
    fault.property "status_code" = .int status ∧
      fault.property "resp" = .map [("status", .int status)] := by
  obtain ⟨reason, details, name, message, further, rfl, code, bare⟩ := reply
  constructor
  · rw [property, Value.getD, properties, Entries.lookup_append_of_none code, ownProperties, bare]
    rfl
  · rw [property, Value.getD, properties, Entries.lookup_append_of_none bare, ownProperties, bare]
    rfl

theorem IsReply.isRetryable (reply : fault.IsReply status) :
    fault.isRetryable = .ok (isRetryableStatus status) :=
  isRetryable_of_first reply.property_eq.1

/-- Whatever its body is, a failed reply is an error reply with its status, unless its reason does
not fit. -/
theorem isReply_ofReply (status : Int) (body : String) :
    (∃ cause, RemoteFailure.ofReply status body [] = .misfit cause) ∨
      (RemoteFailure.ofReply status body []).IsReply status := by
  unfold RemoteFailure.ofReply
  split
  simp only
  split
  · exact .inr ⟨_, _, _, _, [], rfl, rfl, rfl⟩
  · exact .inr ⟨_, _, _, _, [], rfl, rfl, rfl⟩
  · exact .inl ⟨_, rfl⟩

end Reply

end Fault

end LoanDispatch
