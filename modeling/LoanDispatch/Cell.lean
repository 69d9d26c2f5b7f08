import LoanDispatch.FieldPath
import LoanDispatch.Json.Printer
import LoanDispatch.Value.Json

/-!
Cells of a spreadsheet.  Null is an empty cell, finite numbers stay numbers, and everything else is
text: structured values are written as compact JSON.
-/

set_option autoImplicit false

namespace LoanDispatch

def Value.toCell : Value → Except Misfit Value
  | .null => .ok (.text "")
  | .bool flag => .ok (.text (if flag then "true" else "false"))
  | .int number => .ok (.int number)
  | .float number => .ok (if number.isFinite then .float number else .text number.shortestText)
  | .text words => .ok (.text words)
  | .channel member => .ok (.channel member)
  | .dateTime moment => .ok (.text moment.isoText)
  | .date day => .ok (.text day.isoText)
  | .foreign words => .ok (.text words)
  | value =>
    (value.toJson (.describe false)).map fun document => .text (document.write Json.compactAscii)

/-- The cell at the end of a path; a missing path gives an empty cell. -/
def resolveCell (source : Value) : Option String → Except Misfit Value
  | none => .ok (.text "")
  | some path =>
    if path = "" then .ok (.text "")
    else
      match FieldPath.resolve source path with
      | .ok value => value.toCell
      | .error misfit => .error misfit

end LoanDispatch
