import LoanDispatch.Value.Basic

/-!
The context of a delivery in the log.  Contexts are nested: entering one adds its fields to those of
the context around it, and leaving it brings back exactly the context before, as `leave_enter` says.
-/

set_option autoImplicit false

namespace LoanDispatch.Log

abbrev Fields := List (String × Value)

namespace Fields

/-- The fields that a context takes over: null fields are left out. -/
def given (fields : Fields) : Fields := fields.filter fun field => !field.2.isNull

end Fields

abbrev Contexts := List Fields

namespace Contexts

def current (contexts : Contexts) : Fields := contexts.headD []

/-- Opens a context around what follows. -/
def enter (fields : Fields) (contexts : Contexts) : Contexts :=
  Entries.merge contexts.current (Fields.given fields) :: contexts

def leave (contexts : Contexts) : Contexts := contexts.tail

@[simp]
theorem leave_enter (fields : Fields) (contexts : Contexts) :
    leave (enter fields contexts) = contexts := rfl

end Contexts

end LoanDispatch.Log
