import LoanDispatch.Proofs.Result.Steps
import LoanDispatch.Proofs.Store.Scope
import LoanDispatch.Store.Table

/-!
The table is a transactional database: rows are written while their identifiers are free, and a
plain row is stored as it is, since its configuration is read back from its document.
-/

set_option autoImplicit false

namespace LoanDispatch

namespace Value

mutual

/-- The value of a document is written as that document, or not at all. -/
theorem eq_of_toJson_ofJson (document : Json) {image : Json}
    (written : (ofJson document).toJson .display = .ok image) : image = document := by
  cases document with
  | null | bool _ | text _ =>
    cases written
    rfl
  | int number =>
    rw [ofJson, toJson] at written
    split at written
    · cases written
    · cases written
      rfl
  | float number =>
    rw [ofJson, toJson, if_neg (by simp)] at written
    cases written
    rfl
  | array items =>
    rw [ofJson, toJson] at written
    obtain ⟨images, each, rfl⟩ := Result.map_eq_ok written
    rw [eq_of_itemsJson_ofJsonItems items each]
  | object entries =>
    rw [ofJson, toJson] at written
    obtain ⟨images, each, rfl⟩ := Result.map_eq_ok written
    rw [eq_of_entriesJson_ofJsonEntries entries each]

theorem eq_of_itemsJson_ofJsonItems (items : List Json) {images : List Json}
    (written : itemsJson .display (ofJsonItems items) = .ok images) : images = items := by
  cases items with
  | nil =>
    cases written
    rfl
  | cons item rest =>
    rw [ofJsonItems, itemsJson] at written
    obtain ⟨first, own, written⟩ := Result.bind_eq_ok written
    obtain ⟨others, later, written⟩ := Result.bind_eq_ok written
    cases written
    rw [eq_of_toJson_ofJson item own, eq_of_itemsJson_ofJsonItems rest later]

theorem eq_of_entriesJson_ofJsonEntries (entries : List (String × Json))
    {images : List (String × Json)}
    (written : entriesJson .display (ofJsonEntries entries) = .ok images) : images = entries := by
  cases entries with
  | nil =>
    cases written
    rfl
  | cons entry rest =>
    obtain ⟨key, document⟩ := entry
    rw [ofJsonEntries, entriesJson] at written
    obtain ⟨first, own, written⟩ := Result.bind_eq_ok written
    obtain ⟨others, later, written⟩ := Result.bind_eq_ok written
    cases written
    rw [eq_of_toJson_ofJson document own, eq_of_entriesJson_ofJsonEntries rest later]

end

end Value

theorem LenderRow.PlainText.plainChannel {value : Value} (plain : LenderRow.PlainText value) :
    value.plainChannel = value := by
  rcases plain with same | ⟨words, same⟩
  · rw [same]; rfl
  · rw [same]; rfl

namespace Store

theorem View.lookup_insert (rows : Rows) (lenderId : String) (row : LenderRow) :
    (fun other => Entries.lookup other (Entries.insert lenderId row rows))
      = View.put (fun other => Entries.lookup other rows) (lenderId, row) := by
  funext other
  by_cases same : other = lenderId
  · rw [same, Entries.lookup_insert_self, View.put, if_pos rfl]
  · rw [Entries.lookup_insert_of_ne (Ne.symm same), View.put, if_neg same]

namespace Table

variable {table : Table} {rows : Rows}

theorem storedRow_of_plain {row : LenderRow} (plain : row.Plain) : storedRow row = row := by
  obtain ⟨document, _, same⟩ := plain.config
  have config : storedConfig row.config = row.config := by
    rw [same, storedConfig]
    split
    · next image written => rw [Value.eq_of_toJson_ofJson document written]
    · rfl
  rw [storedRow, plain.method.plainChannel, plain.email.plainChannel, plain.name.plainChannel,
    config]

theorem get?_append {lenderId : String} (absent : table.get? lenderId = none) (row : LenderRow) :
    (Table.mk (table.rows ++ [(lenderId, row)])).get? = View.put table.get? (lenderId, row) := by
  rw [← Entries.insert_of_absent absent row]
  exact View.lookup_insert table.rows lenderId row

theorem write_of_free (plain : ∀ entry ∈ rows, entry.2.Plain) (free : View.Free table.get? rows) :
    (write rows table).1 = .ok () ∧
      (write rows table).2.get? = View.overlay table.get? rows := by
  induction rows generalizing table with
  | nil => exact ⟨rfl, rfl⟩
  | cons entry rest ih =>
    obtain ⟨absent, others⟩ := View.free_cons.mp free
    have put := get?_append absent entry.2
    have goesOn : write (entry :: rest) table
        = write rest ⟨table.rows ++ [(entry.1, entry.2)]⟩ := by
      rw [write, absent, if_neg (by simp), storedRow_of_plain (plain entry List.mem_cons_self)]
    obtain ⟨ended, content⟩ := ih (fun other among => plain other (List.mem_cons_of_mem _ among))
      (put ▸ others)
    rw [goesOn]
    refine ⟨ended, content.trans ?_⟩
    rw [put]
    rfl

theorem free_of_write (written : (write rows table).1 = .ok ()) : View.Free table.get? rows := by
  induction rows generalizing table with
  | nil => exact View.free_nil
  | cons entry rest ih =>
    rw [write] at written
    cases found : table.get? entry.1 with
    | some row =>
      rw [found] at written
      cases written
    | none =>
      rw [found] at written
      have others := ih written
      rw [get?_append found] at others
      exact View.free_cons.mpr ⟨found, others.of_put entry.2⟩

theorem write_of_taken (taken : ¬ View.Free table.get? rows) :
    ∃ fault, (write rows table).1 = .error fault := by
  cases ended : (write rows table).1 with
  | ok done => exact absurd (free_of_write ended) taken
  | error fault => exact ⟨fault, rfl⟩

def observation : Observation Table Session where
  content := get?
  seen session := session.written.get?
  pending := Session.pending

theorem commit_of_flush {session : Session} {written : Table}
    (flushed : write session.pending session.written = (.ok (), written)) :
    session.commit = (.ok (), Session.start written) := by
  rw [Session.commit, Session.flush, flushed]

theorem commit_of_fault {session : Session} {fault : Fault} {written : Table}
    (flushed : write session.pending session.written = (.error fault, written)) :
    session.commit = (.error fault, ⟨session.stored, written, []⟩) := by
  rw [Session.commit, Session.flush, flushed]

theorem database_transactional : database.Transactional observation where
  close_start _ := rfl
  seen_start _ := rfl
  pending_start _ := rfl
  close_add _ _ _ := rfl
  seen_add _ _ _ := rfl
  pending_add _ _ _ := rfl
  close_flush _ := rfl
  flush_free session plain free := by
    obtain ⟨ended, content⟩ := write_of_free plain free
    exact ⟨ended, content, rfl⟩
  flush_taken _ taken := write_of_taken taken
  commit_free session plain free := by
    obtain ⟨ended, content⟩ := write_of_free plain free
    have committed := commit_of_flush (Prod.ext ended rfl)
    exact ⟨congrArg Prod.fst committed,
      (congrArg (fun result => result.2.stored.get?) committed).trans content⟩
  commit_taken session taken := by
    obtain ⟨fault, ended⟩ := write_of_taken taken
    have failed := commit_of_fault (Prod.ext ended rfl)
    exact ⟨⟨fault, congrArg Prod.fst failed⟩, congrArg (fun result => result.2.stored) failed⟩
  close_rollback _ := rfl
  select_seen _ _ _ := rfl

end Table

end Store

end LoanDispatch
