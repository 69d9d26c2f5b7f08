import LoanDispatch.Proofs.Ledger.Failure

/-!
The grounds of a failed submission.  A submission does what its placement does, and its outcome is
the one that the placement comes to.  When the client's faults have texts for their messages, the
fault that ends a placement has one too.
-/

set_option autoImplicit false

namespace LoanDispatch

namespace Fault

/-- The message of the fault is a text, if the fault has a message. -/
def Worded (fault : Fault) : Prop :=
  fault.property "message" = .null ∨ ∃ words, (fault.property "message").text? = some words

theorem worded_misfit (cause : Misfit) : (Fault.misfit cause).Worded := .inl rfl

theorem worded_config (problem : ConfigProblem) : (Fault.config problem).Worded :=
  .inr ⟨problem.message, rfl⟩

theorem worded_layout (problem : LayoutProblem) : (Fault.layout problem).Worded :=
  .inr ⟨problem.message, rfl⟩

end Fault

theorem Value.filled_of_isGiven {value : Value} {words : String} (given : value.isGiven = true)
    (shown : value.text? = some words) : words ≠ "" := by
  cases value with
  | text own =>
    cases shown
    simpa [Value.isGiven] using given
  | channel member =>
    cases shown
    cases member <;> decide
  | _ => cases shown

namespace Spreadsheet.Client

variable {σ : Type} {around : Surroundings σ}

/-- The calls of a client only fail with faults that have texts for their messages. -/
structure Worded (around : Surroundings σ) (client : Client) : Prop where
  titles (spreadsheetId : String) : (client.titles spreadsheetId).Fails around Fault.Worded
  values (spreadsheetId range : String) :
    (client.values spreadsheetId range).Fails around Fault.Worded
  append (spreadsheetId range : String) (row : List Value) :
    (client.append spreadsheetId range row).Fails around Fault.Worded

theorem worded_plain
    (worded : ∀ request state fault, (around.sheet request state).1 = .error fault → fault.Worded) :
    plain.Worded around where
  titles _ := Script.ends_askSheet fun state fault => worded _ state fault
  values _ _ := Script.ends_askSheet fun state fault => worded _ state fault
  append _ _ _ := Script.ends_askSheet fun state fault => worded _ state fault

theorem worded_serviceFault (fault : Fault) : (serviceFault fault).Worded := by
  unfold serviceFault
  split
  · next cause _ => exact Fault.worded_misfit cause
  · exact .inr ⟨_, rfl⟩

theorem worded_raisedFault {fault : Fault} (worded : fault.Worded) :
    (raisedFault fault).Worded := by
  unfold raisedFault
  split
  · exact worded_serviceFault _
  · exact worded

theorem fails_askDocument
    (worded : ∀ request state fault, (around.sheet request state).1 = .error fault → fault.Worded)
    (request : SheetRequest) : (askDocument request).Fails around Fault.Worded := by
  refine Script.Ends.andThen (Script.ends_askSheet fun state => ?_)
  cases answer : (around.sheet request state).1 with
  | ok document => exact Script.fails_ok _
  | error fault =>
    refine Script.ends_done fun raised same => ?_
    cases same
    exact worded_raisedFault (worded request state fault answer)

/-- Error replies of the programming interface lose the messages of their own. -/
theorem worded_interface
    (worded : ∀ request state fault, (around.sheet request state).1 = .error fault → fault.Worded) :
    interface.Worded around where
  titles _ :=
    (fails_askDocument worded _).bind fun _ => Script.fails_ofMisfit Fault.worded_misfit _
  values _ _ :=
    (fails_askDocument worded _).bind fun _ => Script.fails_ofMisfit Fault.worded_misfit _
  append _ _ _ :=
    (fails_askDocument worded _).bind fun _ =>
      (Script.fails_ofMisfit Fault.worded_misfit _).bind fun _ =>
        (Script.fails_write _).bind fun _ => Script.fails_ok _

end Spreadsheet.Client

namespace Ledger

open Spreadsheet

section Faults

variable {σ : Type} {around : Surroundings σ} {registry : Registry} {config : SheetConfig}
  {payload : Payload}

theorem worded_of_find {version : Value} {fault : Fault}
    (failed : registry.find version = .error fault) : fault.Worded := by
  unfold Registry.find at failed
  split at failed
  · simp only [Except.bind] at failed
    split at failed
    · cases failed
    · cases failed
      exact Fault.worded_config _
  · split at failed
    · simp only [Except.bind] at failed
      split at failed
      · cases failed
      · cases failed
        exact Fault.worded_config _
    · cases failed
      exact Fault.worded_misfit _

theorem worded_of_pickTitle {titles : Value} {requested : Option String} {fault : Fault}
    (failed : pickTitle titles requested = .error fault) : fault.Worded := by
  unfold pickTitle at failed
  simp only at failed
  split at failed
  · split at failed
    · cases failed
    · cases failed
      exact Fault.worded_layout _
    · cases failed
      exact Fault.worded_misfit _
  · split at failed
    · cases failed
      exact Fault.worded_layout _
    · split at failed
      · cases failed
      · cases failed
        exact Fault.worded_misfit _

theorem fails_appendRow {client : Client} (worded : client.Worded around) (map : ColumnMap)
    (title : Value) (headers : List String) :
    (appendRow client map config payload title headers).Fails around Fault.Worded :=
  (Script.fails_ofMisfit Fault.worded_misfit _).bind fun _ =>
    (Script.fails_ofMisfit Fault.worded_misfit _).bind fun _ =>
    (Script.fails_ofMisfit Fault.worded_misfit _).bind fun _ =>
    (worded.append _ _ _).bind fun _ =>
    (Script.fails_ofMisfit Fault.worded_misfit _).bind fun _ => Script.fails_ok _

theorem fails_checkHeaders (map : ColumnMap) (title : Value) (headers : List String) :
    (Script.ofFault ((checkHeaders map title headers).mapError .layout)).Fails around
      Fault.Worded := by
  refine Script.fails_ofFault fun fault failed => ?_
  cases checked : checkHeaders map title headers with
  | ok identifier =>
    rw [checked] at failed
    cases failed
  | error problem =>
    rw [checked] at failed
    cases failed
    exact Fault.worded_layout problem

/-- A placement only fails with faults that have texts for their messages, if its client does. -/
theorem fails_place {access : Except Fault Client}
    (absent : ∀ fault, access = .error fault → fault.Worded)
    (worded : ∀ client, access = .ok client → client.Worded around) :
    (place access registry config payload).Fails around Fault.Worded := by
  unfold place
  cases access with
  | error fault =>
    refine Script.ends_done fun raised same => ?_
    cases same
    exact absent fault rfl
  | ok client =>
    have calls := worded client rfl
    rw [Script.ofFault_ok_bind]
    -- Every step is a call of the client, or fails with a problem of its own.
    refine (Script.fails_ofFault fun fault => worded_of_find).bind fun map => ?_
    refine (calls.titles _).bind fun titles => ?_
    refine (Script.fails_ofFault fun fault => worded_of_pickTitle).bind fun title => ?_
    refine (Script.fails_ofMisfit Fault.worded_misfit _).bind fun headerRange => ?_
    refine (calls.values _ _).bind fun rows => ?_
    refine (Script.fails_ofMisfit Fault.worded_misfit _).bind fun headers => ?_
    refine (fails_checkHeaders map title headers).bind fun identifier => ?_
    refine (Script.fails_ofMisfit Fault.worded_misfit _).bind fun columnRange => ?_
    refine (calls.values _ _).bind fun cells => ?_
    refine (Script.fails_ofMisfit Fault.worded_misfit _).bind fun found => ?_
    cases found with
    | some row => exact (Script.fails_write _).bind fun _ => Script.fails_ok _
    | none => exact fails_appendRow calls map title headers

theorem failureDetail_of_worded {fault : Fault} (worded : fault.Worded) :
    ∃ words, (failureDetail fault).text? = some words ∧ words ≠ "" := by
  have given := failureDetail_isGiven fault
  have shown : ∃ words, (failureDetail fault).text? = some words := by
    rw [failureDetail, Value.orElse]
    split
    · rw [Value.orElse]
      split
      · next message =>
        rcases worded with absent | shown
        · rw [absent] at message
          cases message
        · exact shown
      · exact ⟨_, rfl⟩
    · exact ⟨_, rfl⟩
  obtain ⟨words, shown⟩ := shown
  exact ⟨words, shown, Value.filled_of_isGiven given shown⟩

/-- A submission does what its placement does. -/
theorem submit_carries (around : Surroundings σ) (access : Except Fault Client) :
    (submit access registry config payload).Carries around (place access registry config payload)
      fun placement result => result = outcomeOf placement := by
  rw [submit_eq]
  refine Script.Carries.clock fun start => Script.Carries.note ?_ _
  refine (Script.carries_self _).andThen fun placement result same => ?_
  cases same
  exact conclude_quiet start placement

/-- Only a status that cannot be read keeps a submission to a sheet from an outcome. -/
theorem submit_fails (access : Except Fault Client) :
    (submit access registry config payload).Fails around
      fun fault => ∃ cause, fault = .misfit cause := by
  intro contexts world fault failed
  obtain ⟨inner, opened, _, result, _⟩ := submit_carries around access contexts world
  rw [failed] at result
  obtain ⟨_, words, _, _, unread⟩ := outcomeOf_eq_error_iff.mp result.symm
  exact ⟨_, unread⟩

end Faults

end Ledger

end LoanDispatch
