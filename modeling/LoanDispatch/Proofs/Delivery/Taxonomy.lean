import LoanDispatch.Proofs.Delivery.Readiness
import LoanDispatch.Proofs.Outcome.Table

/-!
What deliveries can come to.  The outcome of a delivery stands in the table of the lender's channel,
and a failed submission to a sheet advises to retry only for the status of the fault that ended it.
-/

set_option autoImplicit false

namespace LoanDispatch.Delivery

variable {σ : Type} {around : Surroundings σ} {deployment : Deployment} {source : LenderSource}
  {rows : String → Option LenderRow} {lenderId : String} {payload : Payload} {number : Int}

section Table

theorem worded_of_sheetAccess
    {fault : Fault} (failed : deployment.sheetAccess = .error fault) : fault.Worded := by
  unfold Deployment.sheetAccess at failed
  split at failed
  · cases failed
  · unfold Spreadsheet.Credentials.ofSettings at failed
    split at failed
    · cases failed
      exact Fault.worded_config _
    · split at failed
      · cases failed
        exact Fault.worded_misfit _
      · cases failed

/-- The clients that a deployment makes or is usually given keep to texts when the service does. -/
theorem worded_of_client
    (known : deployment.client = none ∨ deployment.client = some .plain ∨
      deployment.client = some .interface)
    (worded : ∀ request state fault, (around.sheet request state).1 = .error fault → fault.Worded)
    {client : Spreadsheet.Client} (given : deployment.sheetAccess = .ok client) :
    client.Worded around := by
  unfold Deployment.sheetAccess at given
  rcases known with made | plain | interface
  · rw [made] at given
    cases credentials : Spreadsheet.Credentials.ofSettings deployment.isKey deployment.settings with
    | error fault =>
      rw [credentials] at given
      cases given
    | ok account =>
      rw [credentials] at given
      cases given
      exact Spreadsheet.Client.worded_interface worded
  · rw [plain] at given
    cases given
    exact Spreadsheet.Client.worded_plain worded
  · rw [interface] at given
    cases given
    exact Spreadsheet.Client.worded_interface worded

/-- Whatever the client and the transport do, the outcome over a route is in its channel's table. -/
theorem dispatch_conforms
    (worded : ∀ client, deployment.sheetAccess = .ok client → client.Worded around)
    (named : ∀ request state failure, (around.partner request state).1 = .error (.remote failure) →
      failure.name ≠ "") (route : Route) :
    (route.dispatch deployment payload).Conforms around route.channel := by
  cases route with
  | email mailbox => exact Email.submit_conforms mailbox
  | partner link => exact Partner.submit_conforms named
  | sheet config => exact Ledger.submit_conforms (fun _ => worded_of_sheetAccess) worded

end Table

section Sheets

/-- A failed outcome of a submission to a sheet shows the fault that ended the submission, and advises
to retry exactly for a transient status of that fault. -/
structure ShowsFault (around : Surroundings σ) (deployment : Deployment)
    (config : Ledger.SheetConfig) (payload : Payload) (world : World σ) (outcome : Outcome)
    (fault : Fault) : Prop where
  caught : ∃ inner opened, World.Alike opened world ∧
    ((Ledger.place deployment.sheetAccess deployment.columnMaps config payload).run around inner
      opened).1 = .error fault
  shown : outcome.detail = Ledger.failureDetail fault
  advised : ∃ status, fault.status? = .ok status ∧
    (outcome.retryable = true ↔ ∃ code, status = some code ∧ TransientStatus code)

theorem submit_showsFault {config : Ledger.SheetConfig} {contexts : Log.Contexts}
    {world : World σ} {outcome : Outcome}
    (reached : ((Ledger.submit deployment.sheetAccess deployment.columnMaps config payload).run
      around contexts world).1 = .ok outcome) (failed : outcome.success = false) :
    ∃ fault, ShowsFault around deployment config payload world outcome fault := by
  obtain ⟨inner, opened, alike, result, _⟩ :=
    Ledger.submit_carries around deployment.sheetAccess contexts world
  rcases Ledger.outcomeOf_eq_ok (result.symm.trans reached) with
    ⟨_, _, _, _, rfl⟩ | ⟨fault, retryable, placed, told, rfl⟩
  · cases failed
  · exact ⟨fault, ⟨inner, opened, alike, placed⟩, rfl, Fault.status?_of_isRetryable told⟩

end Sheets

/-- Every outcome of a delivery stands in the table of the channel that the lender's row names, and a
failed submission to a sheet shows the fault that ended it. -/
theorem outcomes_conform (holds : source.Holds rows)
    (worded : ∀ client, deployment.sheetAccess = .ok client → client.Worded around)
    (named : ∀ request state failure, (around.partner request state).1 = .error (.remote failure) →
      failure.name ≠ "")
    (lenderId : String) (payload : Payload) (number : Int) (contexts : Log.Contexts)
    (world : World σ) (outcome : Outcome)
    (delivered : ((deliver deployment source lenderId payload number).run around contexts world).1
      = .ok outcome) :
    ∃ row, rows lenderId = some row ∧
      outcome.Conforms (Profile.channelOf row.method) ∧
      (Profile.channelOf row.method = .googleSheet → outcome.success = false →
        ∃ config fault, Profile.sheetConfig row.config = .ok config ∧
          ShowsFault around deployment config payload world outcome fault) := by
  rcases deliver_cases holds around deployment lenderId payload number contexts world with
    ⟨fault, _, ended, _⟩ | ⟨row, route, inner, opened, held, channel, bound, alike, same⟩
  · cases delivered.symm.trans ended
  have reached := same.symm.trans delivered
  refine ⟨row, held, channel ▸ dispatch_conforms worded named route inner opened outcome reached,
    fun sheet failed => ?_⟩
  cases bound with
  | email => cases channel.trans sheet
  | partner => cases channel.trans sheet
  | sheet read =>
    obtain ⟨fault, shows⟩ := submit_showsFault reached failed
    obtain ⟨inner, began, like, caught⟩ := shows.caught
    exact ⟨_, fault, read, ⟨inner, began, like.trans alike, caught⟩, shows.shown, shows.advised⟩

/-- A service that replies to the first request that it is not available. -/
def unavailable : Fault := .remote ⟨.apiReply 503 "backend" .null, "HttpError", "", []⟩

def unavailableSurroundings : Surroundings Spreadsheet.Workbook :=
  Ledger.smallSurroundings ⟨true, [("titles", unavailable)], none, []⟩

theorem unavailable_worded (request : SheetRequest) (book : Spreadsheet.Workbook) {fault : Fault}
    (failed : (unavailableSurroundings.sheet request book).1 = .error fault) : fault.Worded := by
  cases request with
  | titles spreadsheetId =>
    cases failed
    exact .inl rfl
  | values spreadsheetId range => cases failed
  | append spreadsheetId range row => cases failed

/-- A delivery to a sheet that is not available fails, and another attempt is worth while. -/
theorem unavailable_sheet_conforms :
    let run :=
      (deliver (smallDeployment .interface) paddedStore.source "acme"
        (Ledger.smallOrder "A-1").payload 0).run unavailableSurroundings []
        (World.fresh (Ledger.smallBook []) 0)
    ∃ outcome, run.1 = .ok outcome ∧ outcome.Conforms .googleSheet ∧ outcome.retryable = true ∧
      ∃ fault code, outcome.detail = Ledger.failureDetail fault ∧ fault.status? = .ok (some code) ∧
        TransientStatus code := by
  intro run
  obtain ⟨outcome, reached, failed, retried⟩ :
      ∃ outcome, run.1 = .ok outcome ∧ outcome.success = false ∧ outcome.retryable = true :=
    ⟨_, rfl, rfl, rfl⟩
  have worded : ∀ client, (smallDeployment .interface).sheetAccess = .ok client →
      client.Worded unavailableSurroundings := fun client =>
    worded_of_client (.inr (.inr rfl)) fun request book fault => unavailable_worded request book
  have named : ∀ request state failure,
      (unavailableSurroundings.partner request state).1 = .error (.remote failure) →
        failure.name ≠ "" := by
    intro request state failure failed
    cases failed
  obtain ⟨row, held, conforms, shows⟩ :=
    outcomes_conform (Store.Memory.source_holds paddedStore) worded named "acme"
      (Ledger.smallOrder "A-1").payload 0 [] (World.fresh (Ledger.smallBook []) 0) outcome reached
  have stored : paddedStore.get? "acme" = some paddedRow := rfl
  cases stored.symm.trans held
  have channel : Profile.channelOf paddedRow.method = .googleSheet := by decide +kernel
  obtain ⟨config, fault, _, ⟨_, shown, status, told, advised⟩⟩ := shows channel failed
  obtain ⟨code, rfl, transient⟩ := advised.mp retried
  exact ⟨outcome, reached, channel ▸ conforms, retried, fault, code, shown, told, transient⟩

end LoanDispatch.Delivery
