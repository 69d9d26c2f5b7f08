import LoanDispatch.Profile.Resolution
import LoanDispatch.Route

/-!
Delivering an application to a lender: the profile is found, the route is chosen, one attempt is
made, and its outcome is noted.  Attempts are not repeated here; the outcome says whether another
one is worth while.
-/

set_option autoImplicit false

namespace LoanDispatch.Delivery

def logger : String := "backend.lender_delivery.submissions.service"

/-- An attempt with its outcome and how long it took. -/
structure Report where
  route : Route
  outcome : Outcome
  duration : Number.Binary64

def attempt (deployment : Deployment) (source : LenderSource) (lenderId : String)
    (payload : Payload) (number : Int) : Script Report := do
  let profile ← Profile.resolve source lenderId
  let route ← Route.find deployment.settings profile payload number
  let start ← Script.readClock
  let outcome ← route.submit deployment profile payload number
  let stop ← Script.readClock
  return ⟨route, outcome, Script.duration start stop⟩

def conclude (lenderId : String) (payload : Payload) (number : Int) (report : Report) :
    Script Unit := do
  let id := payload.application.id
  let outcome := report.outcome
  let code := report.route.channel.code
  let fields :=
    [("application_id", id), ("lender_id", Value.text lenderId), ("channel", .text code),
     ("attempt", .int number), ("duration_ms", .float report.duration)]
  if outcome.success then
    .write ⟨.info, logger,
      "Delivered application " ++ id.display ++ " to lender " ++ lenderId ++ " via " ++ code ++ ": "
        ++ outcome.status.code,
      fields, none⟩
  else
    .write ⟨.warning, logger,
      "Delivery of application " ++ id.display ++ " to lender " ++ lenderId ++ " via " ++ code
        ++ " failed: " ++ outcome.reasonValue.display ++ " (retryable="
        ++ (Value.bool outcome.retryable).display ++ ")",
      fields ++ [("failure_reason", outcome.reasonValue)], none⟩

def deliver (deployment : Deployment) (source : LenderSource) (lenderId : String)
    (payload : Payload) (number : Int) : Script Outcome := do
  let report ← Script.within
    [("application_id", payload.application.id), ("lender_id", .text lenderId),
     ("attempt", .int number)]
    (attempt deployment source lenderId payload number)
  conclude lenderId payload number report
  return report.outcome

end LoanDispatch.Delivery
