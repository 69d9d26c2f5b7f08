import LoanDispatch.Settings.Basic
import LoanDispatch.Spreadsheet.Client

/-!
The credentials of the service account that the spreadsheet service is used with.
-/

set_option autoImplicit false

namespace LoanDispatch.Spreadsheet

structure Credentials where
  email : String
  scopes : List String
  tokenUri : String

namespace Credentials

/-- The credentials in the settings; `isKey` recognises private keys. -/
def ofSettings (isKey : String → Bool) (settings : Settings) : Except Fault Credentials :=
  if !settings.hasCredentials then .error (.config .credentialsMissing)
  else if !isKey (settings.privateKey?.getD "") then .error (.misfit .badCredential)
  else .ok ⟨settings.accountEmail, settings.sheetsScopes, settings.tokenUri⟩

end Credentials

end LoanDispatch.Spreadsheet
