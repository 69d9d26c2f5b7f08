import LoanDispatch.Value.Basic

/-!
The configuration of a ledger sheet: where it is, how its columns are mapped, and which tab is used.
-/

set_option autoImplicit false

namespace LoanDispatch.Ledger

structure SheetConfig where
  spreadsheetId : String
  columnMapVersion : String
  /-- The title of the tab; without one the first tab is used. -/
  sheetName : Option String
  deriving DecidableEq

namespace SheetConfig

def sheetNameValue (config : SheetConfig) : Value :=
  (config.sheetName.map Value.text).getD .null

def toValue (config : SheetConfig) : Value :=
  .record .sheetConfig
    [("spreadsheet_id", .text config.spreadsheetId),
     ("column_map_version", .text config.columnMapVersion), ("sheet_name", config.sheetNameValue)]

end SheetConfig

end LoanDispatch.Ledger
