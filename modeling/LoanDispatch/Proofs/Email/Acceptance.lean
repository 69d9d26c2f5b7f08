import LoanDispatch.Email.Submission
import LoanDispatch.Proofs.Number.Range
import LoanDispatch.Proofs.Payload.Typing
import LoanDispatch.Proofs.Result.Steps
import LoanDispatch.Proofs.Script.Ending

/-!
Submissions by email are accepted.  Nothing is asked of the outside, so a submission fails only when
its message cannot be made: the amount is an integer too large for a floating point number, or the
version of a document has more digits than are printed.
-/

set_option autoImplicit false

namespace LoanDispatch

namespace Email

/-- The amount is an integer that no floating point number is next to. -/
def LargeAmount (application : Application) : Prop :=
  ∃ number, application.requestedAmount = .int number ∧ Number.Binary64.overflow ≤ number.natAbs

def LongVersion (document : Document) : Prop :=
  ∃ number, document.version = .int number ∧ Value.printLimit ≤ number.natAbs

section Message

variable {application : Application} {document : Document} {payload : Payload}

theorem shown_text (words : String) : ∃ shownWords, shown (.text words) = .ok shownWords := by
  unfold shown Value.orElse
  split
  · exact ⟨words, rfl⟩
  · exact ⟨"n/a", rfl⟩

theorem amountText_of_large (large : LargeAmount application) :
    amountText application.requestedAmount = .error .tooLarge := by
  obtain ⟨number, same, beyond⟩ := large
  rw [same, amountText, amountText.wholeText, Number.Binary64.ofInt?_eq_none_iff number |>.mpr beyond]

theorem amountText_of_numeric (fits : ¬ LargeAmount application)
    (numeric : application.requestedAmount = .null ∨
      (∃ number, application.requestedAmount = .int number) ∨
      ∃ number, application.requestedAmount = .float number) :
    ∃ words, amountText application.requestedAmount = .ok words := by
  rcases numeric with same | ⟨number, same⟩ | ⟨number, same⟩
  · exact ⟨_, congrArg amountText same⟩
  · cases near : Number.Binary64.ofInt? number with
    | none => exact absurd ⟨number, same, Number.Binary64.ofInt?_eq_none_iff number |>.mp near⟩ fits
    | some size =>
      rw [same, amountText, amountText.wholeText, near]
      exact ⟨_, rfl⟩
  · exact ⟨_, congrArg amountText same⟩

theorem amountText_of_fitting (typed : application.WellTyped) (fits : ¬ LargeAmount application) :
    ∃ words, amountText application.requestedAmount = .ok words :=
  amountText_of_numeric fits typed.requestedAmount

theorem documentLine_of_long (typed : document.WellTyped) (long : LongVersion document) :
    documentLine document = .error (.unprintable Number.maxIntegerDigits) := by
  obtain ⟨title, titled⟩ := typed.title
  obtain ⟨kind, named⟩ := typed.documentType
  obtain ⟨number, same, many⟩ := long
  rw [documentLine, titled, named, same, Value.printed_int,
    if_pos (Value.isLong_iff.mpr many)]
  rfl

theorem documentLine_of_short (typed : document.WellTyped) (short : ¬ LongVersion document) :
    ∃ line, documentLine document = .ok line := by
  obtain ⟨title, titled⟩ := typed.title
  obtain ⟨kind, named⟩ := typed.documentType
  obtain ⟨number, same⟩ := typed.version
  have few : ¬ Value.isLong number = true :=
    fun many => short ⟨number, same, Value.isLong_iff.mp many⟩
  rw [documentLine, titled, named, same, Value.printed_int, if_neg few]
  exact ⟨_, rfl⟩

theorem documentLines_of_short (typed : ∀ document ∈ payload.documents, document.WellTyped)
    (short : ∀ document ∈ payload.documents, ¬ LongVersion document) :
    ∃ lines, documentLines payload.documents = .ok lines := by
  unfold documentLines
  split
  · exact ⟨_, rfl⟩
  · cases made : payload.documents.mapM documentLine with
    | ok lines => exact ⟨lines, rfl⟩
    | error cause =>
      obtain ⟨document, member, failed⟩ := Result.exists_of_mapM_eq_error made
      obtain ⟨line, written⟩ := documentLine_of_short (typed document member) (short document member)
      cases failed.symm.trans written

theorem documentLines_of_long (typed : ∀ document ∈ payload.documents, document.WellTyped)
    (long : ∃ document ∈ payload.documents, LongVersion document) :
    documentLines payload.documents = .error (.unprintable Number.maxIntegerDigits) := by
  obtain ⟨document, member, many⟩ := long
  have filled : payload.documents.isEmpty = false := by
    cases listed : payload.documents with
    | nil => simp [listed] at member
    | cons first rest => rfl
  rw [documentLines, filled, if_neg Bool.false_ne_true]
  cases made : payload.documents.mapM documentLine with
  | ok lines =>
    obtain ⟨line, written⟩ := Result.exists_of_mapM_eq_ok made member
    cases (documentLine_of_long (typed document member) many).symm.trans written
  | error cause =>
    obtain ⟨other, among, failed⟩ := Result.exists_of_mapM_eq_error made
    by_cases also : LongVersion other
    · cases failed.symm.trans (documentLine_of_long (typed other among) also)
      rfl
    · obtain ⟨line, written⟩ := documentLine_of_short (typed other among) also
      cases failed.symm.trans written

/-- Of a typed payload only the amount and the documents can keep the body from being made. -/
theorem body_of_typed (typed : payload.WellTyped) :
    ∃ summary : String → List String,
      body payload = do
        let amount ← amountText payload.application.requestedAmount
        let documents ← documentLines payload.documents
        return Text.join "\n" (summary amount ++ ["", "Documents:"] ++ documents) ++ "\n" := by
  obtain ⟨name, named⟩ := typed.application.name
  obtain ⟨id, identified⟩ := typed.application.id
  obtain ⟨product, sold⟩ := typed.application.productType
  obtain ⟨moment, submitted⟩ := typed.submittedAt
  obtain ⟨nameWords, nameShown⟩ := shown_text name
  obtain ⟨productWords, productShown⟩ := shown_text product
  refine ⟨fun amount => summaryLines nameWords id productWords amount moment.isoText, ?_⟩
  simp only [body, bodyLines, named, identified, sold, submitted, nameShown, productShown,
    Value.printed_text, Value.isoText]
  cases amountText payload.application.requestedAmount with
  | error cause => rfl
  | ok amount =>
    cases documentLines payload.documents with
    | error cause => rfl
    | ok documents => rfl

end Message

section Submission

variable {σ : Type} {around : Surroundings σ} {payload : Payload} {contexts : Log.Contexts}
  {world : World σ}

theorem submit_of_body {words : String} (made : body payload = .ok words) (mailbox : Mailbox) :
    ((submit mailbox payload).run around contexts world).1
      = .ok (.succeeded .accepted (.text ("accepted for delivery to " ++ mailbox.toAddress))
          (.text reference)) := by
  rw [submit, made]
  rfl

theorem submit_of_misfit {cause : Misfit} (failed : body payload = .error cause)
    (mailbox : Mailbox) :
    ((submit mailbox payload).run around contexts world).1 = .error (.misfit cause) := by
  rw [submit, failed]
  rfl

end Submission

/-- A submission by email is accepted unless a number in its message is too large; then it ends with
the misfit of that number, and no outcome reports it. -/
theorem submission_accepted_iff {σ : Type} (around : Surroundings σ) {payload : Payload}
    (typed : payload.WellTyped) (mailbox : Mailbox) (contexts : Log.Contexts) (world : World σ) :
    let ended := ((submit mailbox payload).run around contexts world).1
    (ended = .ok ⟨true, .accepted, .text ("accepted for delivery to " ++ mailbox.toAddress),
        .whole (.text "email_stub"), none, false⟩ ↔
      ¬ LargeAmount payload.application ∧
        ∀ document ∈ payload.documents, ¬ LongVersion document) ∧
    (LargeAmount payload.application → ended = .error (.misfit .tooLarge)) ∧
    (¬ LargeAmount payload.application → (∃ document ∈ payload.documents, LongVersion document) →
      ended = .error (.misfit (.unprintable Number.maxIntegerDigits))) := by
  intro ended
  obtain ⟨summary, made⟩ := body_of_typed typed
  have large : LargeAmount payload.application → ended = .error (.misfit .tooLarge) := by
    intro beyond
    apply submit_of_misfit
    rw [made, amountText_of_large beyond]
    rfl
  have long : ¬ LargeAmount payload.application →
      (∃ document ∈ payload.documents, LongVersion document) →
      ended = .error (.misfit (.unprintable Number.maxIntegerDigits)) := by
    intro fits many
    obtain ⟨amount, shown⟩ := amountText_of_fitting typed.application fits
    apply submit_of_misfit
    rw [made, shown, documentLines_of_long typed.documents many]
    rfl
  refine ⟨⟨fun accepted => ?_, fun printable => ?_⟩, large, long⟩
  · constructor
    · intro beyond
      cases accepted.symm.trans (large beyond)
    · intro document member many
      by_cases beyond : LargeAmount payload.application
      · cases accepted.symm.trans (large beyond)
      · cases accepted.symm.trans (long beyond ⟨document, member, many⟩)
  · obtain ⟨fits, short⟩ := printable
    obtain ⟨amount, shown⟩ := amountText_of_fitting typed.application fits
    obtain ⟨lines, listed⟩ := documentLines_of_short typed.documents short
    apply submit_of_body
    rw [made, shown, listed]
    rfl

def amountPayload (amount : Int) : Payload :=
  let small := Payload.small (Payload.smallMoment .utc)
  { small with application := { small.application with requestedAmount := .int amount } }

theorem amountPayload_wellTyped (amount : Int) : (amountPayload amount).WellTyped :=
  let small := Payload.small_wellTyped (Payload.smallMoment .utc)
  { small with
    application := { small.application with requestedAmount := .inr (.inl ⟨amount, rfl⟩) } }

def smallMailbox : Mailbox := ⟨"deals@lender.example", "loans@broker.example"⟩

/-- The largest amount that has a number next to it is accepted. -/
theorem largest_amount_accepted :
    let payload := amountPayload (Number.Binary64.overflow - 1 : Nat)
    payload.WellTyped ∧
      ((submit smallMailbox payload).run .offline [] (World.fresh () 0)).1 = .ok
        ⟨true, .accepted, .text "accepted for delivery to deals@lender.example",
          .whole (.text "email_stub"), none, false⟩ := by
  intro payload
  have typed := amountPayload_wellTyped (Number.Binary64.overflow - 1 : Nat)
  refine ⟨typed, (submission_accepted_iff .offline typed smallMailbox [] _).1.mpr ⟨?_, ?_⟩⟩
  · intro large
    obtain ⟨number, same, beyond⟩ := large
    cases same
    have positive : 0 < Number.Binary64.overflow := by decide +kernel
    omega
  · intro document member long
    obtain ⟨number, same, many⟩ := long
    cases List.mem_singleton.mp member
    cases same
    have few : ¬ Value.printLimit ≤ (3 : Int).natAbs := by decide +kernel
    exact few many

/-- A huge amount has no number next to it, and the submission ends without an outcome. -/
theorem huge_amount_raises :
    let payload := amountPayload (Number.tenTo 400 : Nat)
    payload.WellTyped ∧
      ((submit smallMailbox payload).run .offline [] (World.fresh () 0)).1
        = .error (.misfit .tooLarge) := by
  intro payload
  have typed := amountPayload_wellTyped (Number.tenTo 400 : Nat)
  have large : LargeAmount payload.application := ⟨_, rfl, by decide +kernel⟩
  obtain ⟨summary, made⟩ := body_of_typed typed
  refine ⟨typed, submit_of_misfit ?_ smallMailbox⟩
  rw [made, amountText_of_large large]
  rfl

end Email

end LoanDispatch
