import LoanDispatch.Cell
import LoanDispatch.ColumnMap.Basic
import LoanDispatch.Payload.Basic
import LoanDispatch.Fault.Basic
import LoanDispatch.Spreadsheet.Address
import LoanDispatch.Value.Printed
import LoanDispatch.Value.Sequence

/-!
The layout of a ledger sheet: which tab is used, what its header row says, where an application
stands already, and how the cells of a new row follow the headers.
-/

set_option autoImplicit false

namespace LoanDispatch.Ledger

/-- The text of a stored cell without blanks around it; an empty cell is the empty text. -/
def cellText : Value → Except Misfit String
  | .null => .ok ""
  | cell => cell.printed.map Text.trim

/-- The tab with the requested title, or the first tab when none is requested. -/
def pickTitle (titles : Value) (requested : Option String) : Except Fault Value :=
  let name := requested.getD ""
  if name ≠ "" then
    match titles.includes name with
    | .ok true => .ok (.text name)
    | .ok false => .error (.layout (.tabNotFound (.text name)))
    | .error misfit => .error (.misfit misfit)
  else if !titles.isGiven then .error (.layout .noTab)
  else
    match titles.first with
    | .ok title => .ok title
    | .error misfit => .error (.misfit misfit)

/-- The address of cells in the tab with a title; only a text is a title. -/
def addressIn (title : Value) (cells : String) : Except Misfit String :=
  match title.text? with
  | some words => .ok (Spreadsheet.address words cells)
  | none => .error (.noAttribute title.kindName "replace")

/-- The headers in the first of the rows that were read; no rows have no headers. -/
def headersOf (rows : Value) : Except Misfit (List String) := do
  let row ← if rows.isGiven then rows.first else .ok (.list [])
  (← row.iterate).mapM cellText

/-- The headers of a map that a sheet does not have. -/
def missingHeaders (map : ColumnMap) (headers : List String) : List String :=
  map.headers.filter fun header => !headers.contains header

/-- The header of the identifier column, which the sheet must have too. -/
def identifierHeader (map : ColumnMap) (headers : List String) : Except LayoutProblem String :=
  match map.identifierHeader? with
  | none => .error .identifierUnmapped
  | some header =>
    if headers.contains header then .ok header else .error (.identifierColumnMissing header)

/-- The identifier header, once the sheet is known to have all headers of the map. -/
def checkHeaders (map : ColumnMap) (title : Value) (headers : List String) :
    Except LayoutProblem String :=
  if headers.all fun header => header == "" then .error (.headerRowMissing title)
  else
    match missingHeaders map headers with
    | [] => identifierHeader map headers
    | missing => .error (.headersMissing missing map.version)

/-- The number of the first row whose cell has the text; the rows are counted from `number`, and the
cells behind that row are not looked at. -/
def findRow (target : String) : Nat → List Value → Except Misfit (Option Nat)
  | _, [] => .ok none
  | number, row :: rest =>
    if !row.isGiven then findRow target (number + 1) rest
    else do
      let shown ← cellText (← row.first)
      if shown = target then return some number else findRow target (number + 1) rest

/-- The number of the row of an identifier in the identifier column; row 1 holds the header. -/
def existingRow (column id : Value) : Except Misfit (Option Nat) := do
  let target ← cellText id
  findRow target 2 (← column.afterFirst)

/-- One cell for each header; a header that is not mapped has an empty cell. -/
def buildRow (payload : Payload) (map : ColumnMap) (headers : List String) :
    Except Misfit (List Value) :=
  headers.mapM fun header => resolveCell payload.toValue (map.path? header)

end LoanDispatch.Ledger
