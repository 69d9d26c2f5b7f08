import LoanDispatch.Email.Submission
import LoanDispatch.Proofs.Ledger.Grounds
import LoanDispatch.Proofs.Partner.Reports

/-!
The table of outcomes.  Each channel has a few rows, which say what its outcomes can be; whatever the
outside does, the outcome of a submission is one of its channel's rows.
-/

set_option autoImplicit false

namespace LoanDispatch

namespace Outcome

/-- The rows of the table: which status, reason and advice to retry a channel reports together. -/
inductive Row : Channel → Status → Option FailureReason → Bool → Prop where
  | mailAccepted : Row .email .accepted none false
  | lenderAccepted : Row .api .accepted none false
  | lenderTimedOut : Row .api .timeout (some .lenderTimeout) true
  | lenderFailed (retryable : Bool) : Row .api .error (some .lenderError) retryable
  | appended : Row .googleSheet .appended none false
  | duplicate : Row .googleSheet .duplicate none false
  | sheetFailed (retryable : Bool) : Row .googleSheet .error (some .sheetError) retryable

/-- An outcome that stands in the table of a channel, and that is explained when it is a failure. -/
structure Conforms (channel : Channel) (outcome : Outcome) : Prop where
  row : Row channel outcome.status outcome.reason outcome.retryable
  success : outcome.success = true ↔ outcome.reason = none
  final : outcome.success = true → outcome.retryable = false
  bare : outcome.success = false → outcome.reference = .whole .null
  explained : outcome.success = false →
    ∃ words, outcome.detail.text? = some words ∧ words ≠ ""

theorem conforms_succeeded {channel : Channel} {status : Status}
    (row : Row channel status none false) (detail : Value) (reference : Reference) :
    Conforms channel ⟨true, status, detail, reference, none, false⟩ where
  row := row
  success := iff_of_true rfl rfl
  final _ := rfl
  bare := nofun
  explained := nofun

theorem conforms_failed {channel : Channel} {status : Status} {reason : FailureReason}
    {retryable : Bool} {detail : Value} {words : String}
    (row : Row channel status (some reason) retryable) (shown : detail.text? = some words)
    (filled : words ≠ "") : (failed status reason retryable detail).Conforms channel where
  row := row
  success := iff_of_false Bool.false_ne_true (Option.some_ne_none reason)
  final := nofun
  bare _ := rfl
  explained _ := ⟨words, shown, filled⟩

end Outcome

/-- The script comes to no outcome outside the table of a channel. -/
def Script.Conforms {σ : Type} (around : Surroundings σ) (channel : Channel)
    (script : Script Outcome) : Prop :=
  script.Ends around fun result => ∀ outcome, result = .ok outcome → outcome.Conforms channel

section Channels

variable {σ : Type} {around : Surroundings σ} {payload : Payload}

theorem Email.submit_conforms (mailbox : Email.Mailbox) :
    (Email.submit mailbox payload).Conforms around .email := by
  unfold Email.submit
  cases body : Email.body payload with
  | error cause => exact Script.ends_done nofun
  | ok words =>
    refine Script.Ends.note (Script.ends_done fun outcome same => ?_) _
    cases same
    exact Outcome.conforms_succeeded .mailAccepted _ _

theorem Partner.Reports.conforms {raised : Fault → Prop} {result : Except Fault Outcome}
    (reports : Partner.Reports raised result)
    (named : ∀ fault, raised fault → fault.className ≠ "") {outcome : Outcome}
    (reached : result = .ok outcome) : outcome.Conforms .api := by
  cases reports with
  | accepted reference =>
    cases reached
    exact Outcome.conforms_succeeded .lenderAccepted _ _
  | timedOut =>
    cases reached
    exact Outcome.conforms_failed .lenderTimedOut rfl (by decide)
  | failed retryable filled =>
    cases reached
    exact Outcome.conforms_failed (.lenderFailed retryable) rfl filled
  | unanswered retryable fault =>
    cases reached
    exact Outcome.conforms_failed (.lenderFailed retryable) rfl
      (Partner.faultText_of_className (named _ fault))
  | misfit cause => cases reached

theorem Partner.submit_conforms {link : Partner.Link}
    (named : ∀ request state failure, (around.partner request state).1 = .error (.remote failure) →
      failure.name ≠ "") :
    (Partner.submit link payload).Conforms around .api := by
  intro contexts world outcome reached
  have unheard : ∀ request state fault, (around.partner request state).1 = .error fault →
      fault.className ≠ "" := fun request state fault answer =>
    Partner.className_of_named fun failure same => named request state failure (same ▸ answer)
  exact (Partner.submit_reports (fun _ _ => Partner.className_of_unmade) unheard contexts
    world).conforms (fun _ filled => filled) reached

theorem Ledger.submit_conforms {access : Except Fault Spreadsheet.Client} {registry : Registry}
    {config : Ledger.SheetConfig}
    (absent : ∀ fault, access = .error fault → fault.Worded)
    (worded : ∀ client, access = .ok client → client.Worded around) :
    (Ledger.submit access registry config payload).Conforms around .googleSheet := by
  intro contexts world outcome reached
  obtain ⟨inner, opened, _, result, _⟩ := Ledger.submit_carries around access contexts world
  rcases Ledger.outcomeOf_eq_ok (result.symm.trans reached) with
    ⟨_, detail, reference, rfl | rfl, rfl⟩ | ⟨fault, retryable, placed, _, rfl⟩
  · exact Outcome.conforms_succeeded .duplicate _ _
  · exact Outcome.conforms_succeeded .appended _ _
  · obtain ⟨words, shown, filled⟩ :=
      Ledger.failureDetail_of_worded (Ledger.fails_place absent worded inner opened fault placed)
    exact Outcome.conforms_failed (.sheetFailed retryable) shown filled

end Channels

end LoanDispatch
