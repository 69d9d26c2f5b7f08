import LoanDispatch.Delivery
import LoanDispatch.Proofs.Ledger.Grounds
import LoanDispatch.Proofs.Partner.Reports
import LoanDispatch.Proofs.Profile.Readiness

/-!
Deliveries to lenders that are ready.  When a profile is found, a delivery is the submission over the
profile's route, but for notes and time; when none is found, the delivery fails as the search did,
and nobody has been asked.
-/

set_option autoImplicit false

namespace LoanDispatch.Delivery

variable {σ : Type} {around : Surroundings σ} {deployment : Deployment} {source : LenderSource}
  {rows : String → Option LenderRow} {lenderId : String} {payload : Payload} {number : Int}

section Stages

/-- The only faults that a submission ends with are values that do not fit. -/
theorem dispatch_fails (route : Route) :
    (route.dispatch deployment payload).Fails around
      fun fault => ∃ cause, fault = .misfit cause := by
  cases route with
  | email mailbox =>
    exact (Script.fails_ofMisfit (fun cause => ⟨cause, rfl⟩) _).bind fun _ =>
      (Script.fails_write _).bind fun _ => Script.fails_ok _
  | partner link => exact Partner.submit_fails
  | sheet config => exact Ledger.submit_fails deployment.sheetAccess

theorem conclude_quiet (report : Report) :
    (conclude lenderId payload number report).Quiet (· = .ok ()) := by
  unfold conclude
  simp only
  split
  · rfl
  · rfl

theorem attempt_carries (holds : source.Holds rows) {row : LenderRow} {profile : Profile}
    {route : Route} (found : rows lenderId = some row)
    (made : Profile.ofRow (.text lenderId) row = .ok profile)
    (routed : Route.ofProfile deployment.settings profile number = .ok route) :
    (attempt deployment source lenderId payload number).Carries around
      (route.dispatch deployment payload)
      fun given result => result.map Report.outcome = given := by
  have resolved : Profile.ofRows rows lenderId = .ok profile := by
    simp only [Profile.ofRows, found, made]
    rfl
  refine .after (resolved ▸ Profile.resolve_quiet holds lenderId) ?_
  refine .after (Route.find_quiet routed payload) ?_
  refine .clock fun start => ?_
  refine ((Script.carries_self _).within _).andThen fun given result same => ?_
  cases same
  cases given with
  | error fault => rfl
  | ok outcome => exact fun stop => rfl

/-- A delivery whose route is found is the submission over it. -/
theorem deliver_carries (holds : source.Holds rows) {row : LenderRow} {profile : Profile}
    {route : Route} (found : rows lenderId = some row)
    (made : Profile.ofRow (.text lenderId) row = .ok profile)
    (routed : Route.ofProfile deployment.settings profile number = .ok route) :
    (deliver deployment source lenderId payload number).Carries around
      (route.dispatch deployment payload) fun given result => result = given := by
  refine ((attempt_carries holds found made routed).within _).andThen fun given result same => ?_
  cases same
  cases result with
  | error fault => rfl
  | ok report => exact (conclude_quiet report).bind_ok rfl

/-- A delivery whose profile is not found asks nobody and fails as the search did. -/
theorem deliver_refused (holds : source.Holds rows) {fault : Fault}
    (failed : Profile.ofRows rows lenderId = .error fault) :
    (deliver deployment source lenderId payload number).Quiet (· = .error fault) := by
  have search := failed ▸ Profile.resolve_quiet holds lenderId
  exact (search.bind_error.within _).bind_error

/-- Either no profile is found and the delivery fails so, or the delivery ends as the submission over
the lender's route does. -/
theorem deliver_cases (holds : source.Holds rows) (around : Surroundings σ)
    (deployment : Deployment) (lenderId : String) (payload : Payload) (number : Int)
    (contexts : Log.Contexts) (world : World σ) :
    let delivered := (deliver deployment source lenderId payload number).run around contexts world
    (∃ fault, Profile.ofRows rows lenderId = .error fault ∧ delivered.1 = .error fault ∧
      delivered.2.2.Alike world) ∨
    ∃ row route inner opened, rows lenderId = some row ∧
      route.channel = Profile.channelOf row.method ∧
      Route.Bound deployment.settings lenderId number row route ∧ World.Alike opened world ∧
      delivered.1 = ((route.dispatch deployment payload).run around inner opened).1 := by
  intro delivered
  cases found : Profile.ofRows rows lenderId with
  | error fault =>
    obtain ⟨ended, alike⟩ := (deliver_refused holds found).run around contexts world
    exact .inl ⟨fault, rfl, ended, alike⟩
  | ok profile =>
    obtain ⟨row, held, made⟩ := Profile.ofRows_eq_ok found
    obtain ⟨route, routed, channel, bound⟩ :=
      Route.ofProfile_of_row deployment.settings number made
    obtain ⟨inner, opened, alike, same, _⟩ := deliver_carries holds held made routed contexts world
    exact .inr ⟨row, route, inner, opened, held, channel, bound, alike, same⟩

/-- Neither the search for a profile nor a submission fails for a method. -/
theorem deliver_fails (holds : source.Holds rows) :
    (deliver deployment source lenderId payload number).Fails around
      fun fault => ∀ method, fault ≠ .unsupportedMethod method := by
  intro contexts world fault failed method unsupported
  subst unsupported
  rcases deliver_cases holds around deployment lenderId payload number contexts world with
    ⟨cause, missed, ended, _⟩ | ⟨row, route, inner, opened, _, _, _, _, same⟩
  · cases failed.symm.trans ended
    rcases Profile.ofRows_eq_error missed with ⟨_, missing⟩ | ⟨_, _, _, unsound⟩
    · cases missing
    · cases unsound
  · obtain ⟨cause, misfit⟩ := dispatch_fails route inner opened _ (same.symm.trans failed)
    cases misfit

end Stages

/-- A profile that is found has a route, which is bound to what the row says and which the delivery
takes, so no delivery fails for an unsupported method; and where no profile is found, the delivery
fails with the fault of the search before anybody has been asked. -/
theorem profiles_are_ready (holds : source.Holds rows) (around : Surroundings σ)
    (deployment : Deployment) (lenderId : String) (payload : Payload) (number : Int)
    (contexts : Log.Contexts) (world : World σ) :
    let resolved := ((Profile.resolve source lenderId).run around contexts world).1
    let delivered := (deliver deployment source lenderId payload number).run around contexts world
    (∀ profile, resolved = .ok profile →
      ∃ row route, rows lenderId = some row ∧
        (Route.find deployment.settings profile payload number).Quiet (· = .ok route) ∧
        profile.method = .channel route.channel ∧
        route.channel = Profile.channelOf row.method ∧
        Route.Bound deployment.settings lenderId number row route ∧
        ∃ inner opened, World.Alike opened world ∧
          delivered.1 = ((route.dispatch deployment payload).run around inner opened).1) ∧
    (∀ method, delivered.1 ≠ .error (.unsupportedMethod method)) ∧
    (∀ fault, resolved = .error fault →
      (rows lenderId = none ∧ fault = .lenderNotFound (.text lenderId) ∨
        ∃ row problem, rows lenderId = some row ∧ fault = .config problem) ∧
      delivered.1 = .error fault ∧ delivered.2.2.Alike world) := by
  intro resolved delivered
  have search : resolved = Profile.ofRows rows lenderId :=
    ((Profile.resolve_quiet holds lenderId).run around contexts world).1
  refine ⟨fun profile found => ?_, fun method unsupported => ?_, fun fault failed => ?_⟩
  · obtain ⟨row, held, made⟩ := Profile.ofRows_eq_ok (search.symm.trans found)
    obtain ⟨route, routed, channel, bound⟩ :=
      Route.ofProfile_of_row deployment.settings number made
    obtain ⟨inner, opened, alike, same, _⟩ := deliver_carries holds held made routed contexts world
    exact ⟨row, route, held, Route.find_quiet routed payload,
      channel ▸ (Profile.ofRow_eq_ok made).2.1, channel, bound, inner, opened, alike, same⟩
  · exact deliver_fails holds contexts world _ unsupported method rfl
  · have found := search.symm.trans failed
    obtain ⟨ended, alike⟩ := (deliver_refused holds found).run around contexts world
    exact ⟨Profile.ofRows_eq_error found, ended, alike⟩

/-- A row under a former name of its channel, with blanks around its entries. -/
def paddedRow : LenderRow :=
  ⟨.text " Google_Sheets\t", .int 7, .null,
    .map [("spreadsheetId", .text " sheet-1"), ("columnMapVersion", .text "small ")]⟩

def paddedStore : Store.Memory := Store.Memory.empty.put "acme" paddedRow

def smallDeployment (client : Spreadsheet.Client) : Deployment :=
  ⟨.default, Ledger.smallRegistry, some client, fun _ => false⟩

/-- The padded row has a route to the sheet, and a lender without a row is not found. -/
theorem padded_row_is_ready :
    let world := World.fresh (Ledger.smallBook []) 0
    let delivered :=
      (deliver (smallDeployment .plain) paddedStore.source "other" (Ledger.smallOrder "A-1").payload
        0).run (Ledger.smallSurroundings .plain) [] world
    (∃ route, Route.Bound .default "acme" 0 paddedRow route ∧ route.channel = .googleSheet) ∧
      delivered.1 = .error (.lenderNotFound (.text "other")) ∧ delivered.2.2.Alike world := by
  intro world delivered
  have held : paddedStore.get? "acme" = some paddedRow := rfl
  have ready (lenderId : String) :=
    profiles_are_ready (Store.Memory.source_holds paddedStore) (Ledger.smallSurroundings .plain)
      (smallDeployment .plain) lenderId (Ledger.smallOrder "A-1").payload 0 [] world
  obtain ⟨row, route, same, _, _, channel, bound, _⟩ := (ready "acme").1 _ rfl
  cases held.symm.trans same
  obtain ⟨_, ended, alike⟩ := (ready "other").2.2 _ rfl
  exact ⟨⟨route, bound, channel.trans (by decide +kernel)⟩, ended, alike⟩

end LoanDispatch.Delivery
