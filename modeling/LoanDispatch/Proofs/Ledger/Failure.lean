import LoanDispatch.Proofs.Fault.Status
import LoanDispatch.Proofs.Ledger.Order
import LoanDispatch.Proofs.Script.Ending

/-!
Submissions that fail.  Whatever a client does, a failed submission names the sheet as the reason and
shows a detail.  A submission comes to no outcome at all only when the fault that ended it carries
a status that cannot be read.
-/

set_option autoImplicit false

namespace LoanDispatch.Ledger

open Spreadsheet

section Run

variable {σ : Type} {around : Surroundings σ} {config : SheetConfig} {payload : Payload}

/-- A submission concludes without asking anybody. -/
theorem conclude_quiet (start : Nat) (placement : Except Fault Placement) :
    (conclude config payload start placement).Quiet (· = outcomeOf placement) := by
  rcases placement with fault | row | ⟨title, range, reference⟩
  · cases retry : fault.isRetryable with
    | error cause =>
      simp only [conclude, failure, outcomeOf, retry, Script.ofMisfit_error_bind]
      rfl
    | ok retryable =>
      simp only [conclude, failure, outcomeOf, retry, Script.ofMisfit_ok_bind]
      rfl
  · rfl
  · exact fun stop => rfl

theorem run_conclude (start : Nat) (placement : Except Fault Placement) (contexts : Log.Contexts)
    (world : World σ) :
    ((conclude config payload start placement).run around contexts world).1
      = outcomeOf placement :=
  ((conclude_quiet start placement).run around contexts world).1

theorem failureDetail_isGiven (fault : Fault) : (failureDetail fault).isGiven = true := by
  rw [failureDetail, Value.orElse]
  split
  · next given => exact given
  · rfl

/-- An outcome is a success, or else it shows the fault that ended the placement. -/
theorem outcomeOf_eq_ok {placement : Except Fault Placement} {outcome : Outcome}
    (reached : outcomeOf placement = .ok outcome) :
    (∃ status detail reference, (status = .duplicate ∨ status = .appended) ∧
      outcome = .succeeded status detail reference) ∨
    ∃ fault retryable, placement = .error fault ∧ fault.isRetryable = .ok retryable ∧
      outcome = .failed .error .sheetError retryable (failureDetail fault) := by
  rcases placement with fault | row | ⟨title, range, reference⟩
  · cases retry : fault.isRetryable with
    | error cause =>
      simp only [outcomeOf, retry] at reached
      cases reached
    | ok retryable =>
      simp only [outcomeOf, retry] at reached
      cases reached
      exact .inr ⟨fault, retryable, rfl, retry, rfl⟩
  · cases reached
    exact .inl ⟨_, _, _, .inl rfl, rfl⟩
  · cases reached
    exact .inl ⟨_, _, _, .inr rfl, rfl⟩

theorem failed_outcomeOf {placement : Except Fault Placement} {outcome : Outcome}
    (reached : outcomeOf placement = .ok outcome) (failed : outcome.success = false) :
    outcome.reason = some .sheetError ∧ outcome.detail.isGiven = true := by
  rcases outcomeOf_eq_ok reached with ⟨_, _, _, _, rfl⟩ | ⟨fault, _, _, _, rfl⟩
  · cases failed
  · exact ⟨rfl, failureDetail_isGiven fault⟩

theorem outcomeOf_eq_error_iff {placement : Except Fault Placement} {raised : Fault} :
    outcomeOf placement = .error raised ↔
      ∃ fault words, placement = .error fault ∧
        Fault.UnreadableFirst fault.statusCandidates words ∧
        raised = .misfit (Number.integerMisfit words) := by
  constructor
  · intro failed
    rcases placement with fault | row | ⟨title, range, reference⟩
    · cases retry : fault.isRetryable <;> simp only [outcomeOf, retry] at failed <;> cases failed
      obtain ⟨words, unreadable, rfl⟩ := Fault.isRetryable_eq_error_iff.mp retry
      exact ⟨fault, words, rfl, unreadable, rfl⟩
    · cases failed
    · cases failed
  · intro unread
    obtain ⟨fault, words, rfl, unreadable, rfl⟩ := unread
    have retry := Fault.isRetryable_eq_error_iff.mpr ⟨words, unreadable, rfl⟩
    simp only [outcomeOf, retry]

/-- Whatever the client is and however its requests are answered, a submission that fails names the
sheet and shows a detail, and it comes to no outcome exactly when the fault that ended it carries a
text of numerals that cannot be read where its status is looked for. -/
theorem submit_outcome (around : Surroundings σ) (access : Except Fault Client)
    (registry : Registry) (config : SheetConfig) (payload : Payload) (contexts : Log.Contexts)
    (world : World σ) :
    let opened := world.tick.addNote (opening config payload) contexts
    let placement := ((place access registry config payload).run around contexts opened).1
    let result := ((submit access registry config payload).run around contexts world).1
    (∀ outcome, result = .ok outcome → outcome.success = false →
      outcome.reason = some .sheetError ∧ outcome.detail.isGiven = true) ∧
    ∀ raised, result = .error raised ↔
      ∃ fault words, placement = .error fault ∧
        Fault.UnreadableFirst fault.statusCandidates words ∧
        raised = .misfit (Number.integerMisfit words) := by
  intro opened placement result
  have same : result = outcomeOf placement := by
    show ((submit access registry config payload).run around contexts world).1 = _
    rw [submit_eq]
    exact (congrArg Prod.fst (Script.run_andThen ..)).trans (run_conclude ..)
  rw [same]
  exact ⟨fun outcome => failed_outcomeOf, fun raised => outcomeOf_eq_error_iff⟩

/-- A service that fails with a superscript for its code ends a submission without an outcome. -/
theorem superscript_code_raises :
    ((smallOrder "A-1").script smallRegistry |>.run
      (smallSurroundings
        ⟨false, [("titles", .remote ⟨.other, "Exception", "quota", [("code", .text "²")]⟩)],
          none, []⟩)
      [] (World.fresh (smallBook []) 0)).1 = .error (.misfit (.badInteger "²")) := rfl

end Run

end LoanDispatch.Ledger
