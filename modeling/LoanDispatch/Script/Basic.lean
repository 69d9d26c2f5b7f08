import LoanDispatch.Fault.Basic
import LoanDispatch.Log.Note
import LoanDispatch.Script.Request

/-!
Scripts.  A script is what a delivery does, step by step: it writes notes, opens and closes log
contexts, reads the clock, and asks the spreadsheet service or a partner, whose answer decides how
it goes on.  It ends with a value or with a fault.
-/

set_option autoImplicit false

namespace LoanDispatch

inductive Script (α : Type) where
  | done (result : Except Fault α)
  | note (note : Log.Note) (rest : Script α)
  | enter (fields : List (String × Value)) (rest : Script α)
  | leave (rest : Script α)
  | clock (next : Nat → Script α)
  | sheet (request : SheetRequest) (next : Except Fault Value → Script α)
  | partner (request : PartnerRequest) (next : Except Fault PartnerReply → Script α)

namespace Script

variable {α β : Type}

/-- Goes on with a function of the result, whether value or fault. -/
def andThen : Script α → (Except Fault α → Script β) → Script β
  | .done result, next => next result
  | .note words rest, next => .note words (rest.andThen next)
  | .enter fields rest, next => .enter fields (rest.andThen next)
  | .leave rest, next => .leave (rest.andThen next)
  | .clock read, next => .clock fun time => (read time).andThen next
  | .sheet request answer, next => .sheet request fun result => (answer result).andThen next
  | .partner request answer, next => .partner request fun result => (answer result).andThen next

/-- Goes on with a function of the value; a fault ends the script. -/
def bind (script : Script α) (next : α → Script β) : Script β :=
  script.andThen fun
    | .ok value => next value
    | .error fault => .done (.error fault)

instance : Monad Script where
  pure value := .done (.ok value)
  bind := bind

def fail (fault : Fault) : Script α := .done (.error fault)

def ofFault (result : Except Fault α) : Script α := .done result

def ofMisfit : Except Misfit α → Script α
  | .ok value => .done (.ok value)
  | .error misfit => .done (.error (.misfit misfit))

def attempt (script : Script α) : Script (Except Fault α) :=
  script.andThen fun result => .done (.ok result)

def write (words : Log.Note) : Script Unit := .note words (.done (.ok ()))

def readClock : Script Nat := .clock fun time => .done (.ok time)

def askSheet (request : SheetRequest) : Script Value := .sheet request .done

def askPartner (request : PartnerRequest) : Script PartnerReply := .partner request .done

/-- Runs a script inside a log context, which is closed however the script ends. -/
def within (fields : List (String × Value)) (script : Script α) : Script α :=
  .enter fields (script.andThen fun result => .leave (.done result))

end Script

end LoanDispatch
