import LoanDispatch.Fault.Basic
import LoanDispatch.Log.Context

/-!
The bound log context.  Mappings are referred to by number, and one of them is bound.  Reading the
context hands out a mapping of its own, so whoever changes it changes nothing else.  Entering a
context binds a new mapping and keeps a token, with which leaving it binds again what was bound
before, however the body has ended.
-/

set_option autoImplicit false

namespace LoanDispatch.Log

structure Binding where
  /-- All mappings ever made; the number of a mapping is its place. -/
  mappings : List Fields
  bound : Option Nat
  /-- What was bound before each open context, innermost first. -/
  tokens : List (Option Nat)
  /-- The mappings that have been handed out. -/
  copies : List Nat

namespace Binding

/-- Nothing has been entered yet; something may be bound all the same. -/
def ambient : Option Fields → Binding
  | none => ⟨[], none, [], []⟩
  | some fields => ⟨[fields], some 0, [], []⟩

def read (binding : Binding) (mapping : Option Nat) : Fields :=
  (mapping.bind fun number => binding.mappings[number]?).getD []

def content (binding : Binding) : Fields := binding.read binding.bound

def make (fields : Fields) (binding : Binding) : Nat × Binding :=
  (binding.mappings.length, { binding with mappings := binding.mappings ++ [fields] })

/-- A new mapping with the fields of the bound one. -/
def copy (binding : Binding) : Nat × Binding := binding.make binding.content

/-- Hands out a copy of the context. -/
def hand (binding : Binding) : Nat × Binding :=
  let (copied, binding) := binding.copy
  (copied, { binding with copies := copied :: binding.copies })

/-- Binds a mapping and keeps a token for what was bound before. -/
def bind (mapping : Nat) (binding : Binding) : Binding :=
  { binding with bound := some mapping, tokens := binding.bound :: binding.tokens }

/-- Binds a copy of the context with the given fields on top. -/
def enter (fields : Fields) (binding : Binding) : Nat × Binding :=
  let (copied, binding) := binding.copy
  let (top, binding) := binding.make (Entries.merge (binding.read (some copied)) fields.given)
  (top, binding.bind top)

/-- Binds again what was bound before; a fault of the body goes on.  Where nothing has been entered
there is nothing to leave. -/
def leave (ending : Except Fault Unit) (binding : Binding) : Except Fault Unit × Binding :=
  match binding.tokens with
  | [] => (ending, binding)
  | before :: rest => (ending, { binding with bound := before, tokens := rest })

def change (mapping : Nat) (how : Fields → Fields) (binding : Binding) : Binding :=
  { binding with mappings := binding.mappings.modify mapping how }

end Binding

/-- What can be done with the context; of the mappings only those handed out are changed. -/
inductive Use where
  | enter (fields : Fields)
  | leave (ending : Except Fault Unit)
  | hand
  | change (which : Nat) (how : Fields → Fields)

namespace Binding

def step (binding : Binding) : Use → Binding
  | .enter fields => (binding.enter fields).2
  | .leave ending => (binding.leave ending).2
  | .hand => binding.hand.2
  | .change which how =>
    match binding.copies[which]? with
    | some mapping => binding.change mapping how
    | none => binding

def follow (binding : Binding) (uses : List Use) : Binding := uses.foldl step binding

end Binding

end LoanDispatch.Log
