import LoanDispatch.Number.Reading
import LoanDispatch.Value.Dictionary

/-!
Dotted paths into values.  Each segment goes one level down: by key into a mapping, by position into
a list, by declared field into a record.  A level that is not there gives null, and null stays null.
-/

set_option autoImplicit false

namespace LoanDispatch.FieldPath

/-- The item at a position written as digits; a segment of other characters is no position. -/
def itemAt (items : List Value) (segment : String) : Except Misfit Value :=
  if Text.allNumerals segment.toList then
    (Number.readInteger segment).map fun index => (items[index.toNat]?).getD .null
  else .ok .null

/-- One level down; an empty segment stays. -/
def step (current : Value) (segment : String) : Except Misfit Value :=
  if segment = "" then .ok current
  else
    match current with
    | .map entries => .ok (Value.getD segment entries)
    | .list items => itemAt items segment
    | .tuple items => itemAt items segment
    | .record _ fields => .ok (Value.getD segment fields)
    | _ => .ok .null

/-- Goes down segment by segment until a level is null. -/
def walk (current : Value) : List String → Except Misfit Value
  | [] => .ok current
  | segment :: rest =>
    if current.isNull then .ok .null
    else
      match step current segment with
      | .ok next => walk next rest
      | .error misfit => .error misfit

/-- The value that a path leads to; the empty path leads nowhere. -/
def resolve (source : Value) (path : String) : Except Misfit Value :=
  if path = "" then .ok .null else walk source (Text.split '.' path)

end LoanDispatch.FieldPath
