import LoanDispatch.Profile.Resolution

/-!
Sessions on a database of lender rows.  A session sees what it has written before anyone else does.
A scope does its work in one session: at its end the session is committed, and when anything fails
it is rolled back and the fault goes on.
-/

set_option autoImplicit false

namespace LoanDispatch.Store

abbrev Rows := List (String × LenderRow)

/-- What a database offers: `δ` is what it has stored and `σ` a session on it. -/
structure Database (δ σ : Type) where
  start : δ → σ
  add : String → LenderRow → σ → σ
  /-- Writes the added rows; the session is the only one that sees them. -/
  flush : σ → Except Fault Unit × σ
  commit : σ → Except Fault Unit × σ
  rollback : σ → σ
  select : String → σ → Option LenderRow
  /-- What is stored once the session has been closed. -/
  close : σ → δ

inductive Act where
  | add (lenderId : String) (row : LenderRow)
  | flush

/-- What is done in a scope; it may fail after its acts. -/
structure Work where
  acts : List Act
  failure : Option Fault

def Act.rows : Act → Rows
  | .add lenderId row => [(lenderId, row)]
  | .flush => []

def Work.rows (work : Work) : Rows := work.acts.flatMap Act.rows

namespace Database

variable {δ σ : Type} (db : Database δ σ)

def perform : List Act → σ → Except Fault Unit × σ
  | [], session => (.ok (), session)
  | .add lenderId row :: rest, session => perform rest (db.add lenderId row session)
  | .flush :: rest, session =>
    match db.flush session with
    | (.ok _, session) => perform rest session
    | (.error fault, session) => (.error fault, session)

/-- The work of a scope and the commit after it. -/
def attempt (work : Work) (session : σ) : Except Fault Unit × σ :=
  match db.perform work.acts session, work.failure with
  | (.error fault, session), _ => (.error fault, session)
  | (.ok _, session), some fault => (.error fault, session)
  | (.ok _, session), none => db.commit session

def scope (work : Work) (stored : δ) : Except Fault Unit × δ :=
  match db.attempt work (db.start stored) with
  | (.ok _, session) => (.ok (), db.close session)
  | (.error fault, session) => (.error fault, db.close (db.rollback session))

/-- What is stored after several scopes, one after the other. -/
def after (stored : δ) (works : List Work) : δ :=
  works.foldl (fun stored work => (db.scope work stored).2) stored

/-- The rows of those scopes that do not fail. -/
def committed : List Work → δ → Rows
  | [], _ => []
  | work :: rest, stored =>
    match db.scope work stored with
    | (.ok _, stored) => work.rows ++ committed rest stored
    | (.error _, stored) => committed rest stored

def logger : String := "backend.lender_delivery.submissions.store"

/-- Looks rows up in a session of its own; a missing one is noted. -/
def source (stored : δ) : LenderSource where
  fetch lenderId :=
    match db.select lenderId (db.start stored) with
    | some row => pure (some row)
    | none => do
      .write ⟨.debug, logger, "No lender configuration row for " ++ lenderId, [], none⟩
      return none

end Database

end LoanDispatch.Store
