import LoanDispatch.Profile.Basic
import LoanDispatch.Script.Basic

/-!
Finding the profile of a lender.  A source of rows is anything that looks a lender up.
-/

set_option autoImplicit false

namespace LoanDispatch

structure LenderSource where
  fetch : String → Script (Option LenderRow)

namespace Profile

def logger : String := "backend.lender_delivery.submissions.profiles"

/-- The profile of a lender, or the reason why there is none. -/
def resolve (source : LenderSource) (lenderId : String) : Script Profile := do
  match ← source.fetch lenderId with
  | none => .fail (.lenderNotFound (.text lenderId))
  | some row =>
    match ofRow (.text lenderId) row with
    | .error problem =>
      .write ⟨.warning, logger,
        "Lender " ++ lenderId ++ " has invalid submission config: " ++ problem.message,
        [("lender_id", .text lenderId)], none⟩
      .fail (.config problem)
    | .ok profile =>
      let code := (channelOf row.method).code
      .write ⟨.debug, logger, "Resolved submission profile for " ++ lenderId ++ " → " ++ code,
        [("lender_id", .text lenderId), ("channel", .text code)], none⟩
      return profile

end Profile

end LoanDispatch
