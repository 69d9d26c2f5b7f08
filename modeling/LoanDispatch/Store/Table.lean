import LoanDispatch.Store.Session
import LoanDispatch.Value.Json
import LoanDispatch.Value.OfJson

/-!
Lender rows in a database table.  A row that is written takes its identifier, and no second row is
written under it.  Configurations are stored as JSON documents.
-/

set_option autoImplicit false

namespace LoanDispatch.Store

structure Table where
  rows : Rows

/-- Rows that are added one by one, each written at once; the unit may fail after them. -/
structure WorkUnit where
  rows : Rows
  failure : Option Fault

def WorkUnit.work (work : WorkUnit) : Work :=
  ⟨work.rows.flatMap fun entry => [.add entry.1 entry.2, .flush], work.failure⟩

namespace Table

def empty : Table := ⟨[]⟩

def duplicateFault : Fault :=
  .remote ⟨.other, "IntegrityError", "UNIQUE constraint failed: lenders.id", []⟩

def storedConfig (config : Value) : Value :=
  match config.toJson .display with
  | .ok document => .ofJson document
  | .error _ => config

def storedRow (row : LenderRow) : LenderRow :=
  ⟨row.method.plainChannel, row.email.plainChannel, row.name.plainChannel, storedConfig row.config⟩

def get? (table : Table) (lenderId : String) : Option LenderRow :=
  Entries.lookup lenderId table.rows

/-- Writes rows in order up to the first one whose identifier is taken. -/
def write : Rows → Table → Except Fault Unit × Table
  | [], table => (.ok (), table)
  | (lenderId, row) :: rest, table =>
    if (table.get? lenderId).isSome then (.error duplicateFault, table)
    else write rest ⟨table.rows ++ [(lenderId, storedRow row)]⟩

/-- A session has a table of its own until it is committed. -/
structure Session where
  stored : Table
  written : Table
  pending : Rows

namespace Session

def start (table : Table) : Session := ⟨table, table, []⟩

def add (lenderId : String) (row : LenderRow) (session : Session) : Session :=
  { session with pending := session.pending ++ [(lenderId, row)] }

def flush (session : Session) : Except Fault Unit × Session :=
  let (result, written) := write session.pending session.written
  (result, ⟨session.stored, written, []⟩)

def commit (session : Session) : Except Fault Unit × Session :=
  match session.flush with
  | (.ok _, session) => (.ok (), start session.written)
  | (.error fault, session) => (.error fault, session)

def rollback (session : Session) : Session := start session.stored

end Session

def database : Database Table Session where
  start := Session.start
  add := Session.add
  flush := Session.flush
  commit := Session.commit
  rollback := Session.rollback
  select lenderId session := session.written.get? lenderId
  close := Session.stored

/-- The table after a unit of work; a fault leaves the table as it was. -/
def commit (table : Table) (work : WorkUnit) : Except Fault Table :=
  match database.scope work.work table with
  | (.ok _, stored) => .ok stored
  | (.error fault, _) => .error fault

def ids (table : Table) : List String :=
  (table.rows.map Prod.fst).mergeSort fun left right => decide (left ≤ right)

def source (table : Table) : LenderSource := database.source table

end Table

end LoanDispatch.Store
