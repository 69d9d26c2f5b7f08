import LoanDispatch.Calendar.Printer
import LoanDispatch.Fault.Misfit
import LoanDispatch.Value.Basic

/-!
Building records from named fields.  An absent field takes its default; an absent field without a
default and a field that is not declared do not match.
-/

set_option autoImplicit false

namespace LoanDispatch.RecordKind

/-- The declared fields with the given values in place of their defaults; none when a required field
is absent. -/
def fill? (given : List (String × Value)) :
    List (String × Option Value) → Option (List (String × Value))
  | [] => some []
  | (name, default) :: rest =>
    match (Entries.lookup name given).or default, fill? given rest with
    | some value, some fields => some ((name, value) :: fields)
    | _, _ => none

def make (now : Calendar.DateTime) (kind : RecordKind) (given : List (String × Value)) :
    Except Misfit Value :=
  let declared := kind.declaredFields now now.isoText
  if given.any fun field => declared.all fun known => known.1 != field.1 then
    .error .wrongArguments
  else
    match fill? given declared with
    | some fields => .ok (.record kind fields)
    | none => .error .wrongArguments

end LoanDispatch.RecordKind
