import LoanDispatch.Partner.Submission
import LoanDispatch.Proofs.Result.Steps
import LoanDispatch.Proofs.Script.Ending

/-!
What a submission to a partner reports.  Simulated or over the network, it ends in an acceptance, a
lapse of time or a failure of the lender, whatever the transport does; it comes to no outcome only
when the metadata of a simulated application do not fit.
-/

set_option autoImplicit false

namespace LoanDispatch.Partner

/-- The ends of a submission to a partner.  `raised` are the faults that keep a request from being
made or answered. -/
inductive Reports (raised : Fault → Prop) : Except Fault Outcome → Prop where
  | accepted (reference : Reference) : Reports raised (.ok (.accepted reference))
  | timedOut : Reports raised (.ok timedOut)
  | failed (retryable : Bool) {detail : String} :
      detail ≠ "" → Reports raised (.ok (lenderFailed retryable detail))
  | unanswered (retryable : Bool) {fault : Fault} :
      raised fault → Reports raised (.ok (lenderFailed retryable (faultText fault)))
  | misfit (cause : Misfit) : Reports raised (.error (.misfit cause))

section Submission

variable {σ : Type} {around : Surroundings σ} {raised : Fault → Prop} {link : Link}
  {payload : Payload}

private theorem accept_reports (forced : Bool) :
    (show Script Outcome from do
      if forced then
        noteFailure .warning link payload .lenderError
          ("Forced lender error for application " ++ payload.application.id.display)
        return lenderFailed true "Forced lender error."
      notice .info link payload
        ("Application " ++ payload.application.id.display ++ " accepted by lender "
          ++ link.lenderId.display ++ " (simulated)") [] none
      return .succeeded .accepted .null .null).Ends around (Reports raised) := by
  cases forced with
  | true => exact Script.Ends.note (Script.ends_done (.failed true (by decide))) _
  | false => exact Script.Ends.note (Script.ends_done (.accepted (.whole .null))) _

theorem submitSimulated_reports :
    (submitSimulated link payload).Ends around (Reports raised) := by
  unfold submitSimulated
  split
  · exact Script.Ends.note (Script.ends_done .timedOut) _
  · split
    · cases read : forcesFailure payload with
      | error cause => exact Script.ends_done (.misfit cause)
      | ok forced => exact accept_reports forced
    · exact accept_reports false

theorem unanswered_reports {fault : Fault} (holds : raised fault) :
    (unanswered link payload fault).Ends around (Reports raised) := by
  unfold unanswered
  split
  · exact Script.Ends.note (Script.ends_done .timedOut) _
  · exact Script.Ends.note (Script.ends_done (.unanswered true holds)) _
  · exact Script.Ends.note (Script.ends_done (.unanswered false holds)) _

theorem refused_reports (status : Int) :
    (refused link payload status).Ends around (Reports raised) := by
  unfold refused
  refine Script.Ends.note (Script.ends_done (.failed _ fun empty => ?_)) _
  have letters := congrArg String.length empty
  simp [String.length_append] at letters

theorem submitOver_reports {endpoint : String}
    (unmade : ∀ fault, request link endpoint payload = .error fault → raised fault)
    (unheard : ∀ request state fault, (around.partner request state).1 = .error fault →
      raised fault) :
    (submitOver link endpoint payload).Ends around (Reports raised) := by
  unfold submitOver
  simp only [Script.readClock_bind, Script.attempt_bind]
  refine Script.Ends.clock fun start => Script.Ends.andThen ?_
  cases made : request link endpoint payload with
  | error fault => exact Script.ends_done (unanswered_reports (unmade fault made))
  | ok request =>
    refine Script.ends_askPartner fun state => ?_
    cases answer : (around.partner request state).1 with
    | error fault => exact unanswered_reports (unheard request state fault answer)
    | ok reply =>
      simp only
      split
      · exact refused_reports reply.status
      · refine Script.Ends.clock fun stop => Script.Ends.note ?_ _
        cases referenceOf reply with
        | error cause => exact Script.ends_done (.misfit cause)
        | ok reference => exact Script.ends_done (.accepted reference)

/-- However the transport behaves, a submission to a partner ends in a report. -/
theorem submit_reports
    (unmade : ∀ endpoint fault, request link endpoint payload = .error fault → raised fault)
    (unheard : ∀ request state fault, (around.partner request state).1 = .error fault →
      raised fault) :
    (submit link payload).Ends around (Reports raised) := by
  unfold submit
  simp only
  split
  · exact submitSimulated_reports
  · split
    · exact Script.Ends.note (Script.ends_done (.failed false (by decide))) _
    · exact submitOver_reports (unmade _) unheard

/-- Only values that do not fit keep a submission to a partner from an outcome. -/
theorem submit_fails :
    (submit link payload).Fails around fun fault => ∃ cause, fault = .misfit cause := by
  intro contexts world fault failed
  have reports : Reports (fun _ => True) ((submit link payload).run around contexts world).1 :=
    submit_reports (fun _ _ _ => trivial) (fun _ _ _ _ => trivial) contexts world
  rw [failed] at reports
  cases reports with
  | misfit cause => exact ⟨cause, rfl⟩

end Submission

section Text

theorem className_misfit (cause : Misfit) : (Fault.misfit cause).className ≠ "" := by
  cases cause with
  | noIntegerPart infinite => cases infinite <;> decide
  | _ => exact of_decide_eq_false rfl

/-- The library's own faults have classes with names. -/
theorem className_of_named {fault : Fault}
    (named : ∀ failure, fault = .remote failure → failure.name ≠ "") : fault.className ≠ "" := by
  cases fault with
  | misfit cause => exact className_misfit cause
  | remote failure => exact named failure rfl
  | _ => exact of_decide_eq_false rfl

/-- A request that is not made has a value that does not fit, or an address that cannot be read. -/
theorem unmade_cases {link : Link} {endpoint : String} {payload : Payload} {fault : Fault}
    (unmade : request link endpoint payload = .error fault) :
    (∃ cause, fault = .misfit cause) ∨
      ∃ message, fault = .remote ⟨.other, "InvalidURL", message, []⟩ := by
  rcases Result.bind_eq_error unmade with content | ⟨content, _, unmade⟩
  · obtain ⟨cause, _, same⟩ := Result.mapError_eq_error content
    exact .inl ⟨cause, same⟩
  rcases Result.bind_eq_error unmade with attempt | ⟨attempt, _, unmade⟩
  · obtain ⟨cause, _, same⟩ := Result.mapError_eq_error attempt
    exact .inl ⟨cause, same⟩
  rcases Result.bind_eq_error unmade with target | ⟨url, _, unmade⟩
  · unfold targetOf at target
    split at target
    · cases target
    · cases target
      exact .inr ⟨_, rfl⟩
  rcases Result.bind_eq_error unmade with body | ⟨body, _, unmade⟩
  · obtain ⟨cause, _, same⟩ := Result.mapError_eq_error body
    exact .inl ⟨cause, same⟩
  rcases Result.bind_eq_error unmade with key | ⟨key, _, unmade⟩
  · obtain ⟨cause, _, same⟩ := Result.mapError_eq_error key
    exact .inl ⟨cause, same⟩
  · cases unmade

theorem className_of_unmade {link : Link} {endpoint : String} {payload : Payload} {fault : Fault}
    (unmade : request link endpoint payload = .error fault) : fault.className ≠ "" := by
  rcases unmade_cases unmade with ⟨cause, rfl⟩ | ⟨message, rfl⟩
  · exact className_misfit cause
  · exact of_decide_eq_false rfl

theorem faultText_of_className {fault : Fault} (named : fault.className ≠ "") :
    faultText fault ≠ "" := by
  unfold faultText
  split
  · exact named
  · next filled => exact filled

end Text

end LoanDispatch.Partner
