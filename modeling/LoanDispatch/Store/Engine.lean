import LoanDispatch.Script.Basic
import LoanDispatch.Settings.Basic

/-!
The engine that connects to the database of lender rows.
-/

set_option autoImplicit false

namespace LoanDispatch.Store

structure Engine where
  url : String
  poolSize : Int
  maxOverflow : Int
  echo : Bool
  expireOnCommit : Bool

namespace Engine

def logger : String := "backend.lender_delivery.core.database"

def ofSettings (settings : Settings) : Engine where
  url := settings.databaseUrl
  poolSize := settings.databasePoolSize
  maxOverflow := settings.databaseMaxOverflow
  echo := settings.databaseEcho
  expireOnCommit := false

def close : Script Unit := .write ⟨.info, logger, "Database connections closed", [], none⟩

end Engine

end LoanDispatch.Store
