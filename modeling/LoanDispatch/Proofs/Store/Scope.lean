import LoanDispatch.Json.Basic
import LoanDispatch.Store.Session
import LoanDispatch.Value.OfJson

/-!
Scopes over a transactional database.  As long as no identifier is taken, a session sees what was
stored under what it has written; a scope stores all of its rows or none of them.
-/

set_option autoImplicit false

namespace LoanDispatch

mutual

/-- The numbers of a document are finite, and no object has a key twice. -/
def Json.Proper : Json → Prop
  | .float number => number.isFinite = true
  | .array items => Json.ProperItems items
  | .object entries => (entries.map Prod.fst).Nodup ∧ Json.ProperEntries entries
  | _ => True

def Json.ProperItems : List Json → Prop
  | [] => True
  | item :: rest => item.Proper ∧ Json.ProperItems rest

def Json.ProperEntries : List (String × Json) → Prop
  | [] => True
  | (_, document) :: rest => document.Proper ∧ Json.ProperEntries rest

end

namespace LenderRow

def PlainText (value : Value) : Prop := value = .null ∨ ∃ words, value = .text words

/-- A row of texts and nulls whose configuration is a JSON document. -/
structure Plain (row : LenderRow) : Prop where
  method : PlainText row.method
  email : PlainText row.email
  name : PlainText row.name
  config : ∃ document : Json, document.Proper ∧ row.config = .ofJson document

end LenderRow

namespace Store

abbrev View := String → Option LenderRow

namespace View

def put (view : View) (entry : String × LenderRow) : View :=
  fun lenderId => if lenderId = entry.1 then some entry.2 else view lenderId

def overlay (view : View) (rows : Rows) : View := rows.foldl put view

/-- No identifier of the rows is taken, and none of them occurs twice. -/
structure Free (view : View) (rows : Rows) : Prop where
  distinct : (rows.map Prod.fst).Nodup
  absent : ∀ entry ∈ rows, view entry.1 = none

variable {view : View} {rows first second : Rows} {entry : String × LenderRow} {lenderId : String}

theorem overlay_append : view.overlay (first ++ second) = (view.overlay first).overlay second :=
  List.foldl_append

theorem overlay_of_notMem (missing : lenderId ∉ rows.map Prod.fst) :
    view.overlay rows lenderId = view lenderId := by
  induction rows generalizing view with
  | nil => rfl
  | cons entry rest ih =>
    obtain ⟨other, others⟩ := not_or.mp (mt List.mem_cons.mpr missing)
    exact (ih others).trans (if_neg other)

theorem overlay_of_mem (distinct : (rows.map Prod.fst).Nodup) (member : entry ∈ rows) :
    view.overlay rows entry.1 = some entry.2 := by
  induction rows generalizing view with
  | nil => cases member
  | cons head rest ih =>
    obtain ⟨apart, distinctRest⟩ := List.nodup_cons.mp distinct
    cases List.mem_cons.mp member with
    | inl same =>
      rw [same]
      exact (overlay_of_notMem apart).trans (if_pos rfl)
    | inr among => exact ih distinctRest among

theorem overlay_eq_none_iff :
    view.overlay rows lenderId = none ↔ lenderId ∉ rows.map Prod.fst ∧ view lenderId = none := by
  induction rows generalizing view with
  | nil => simp [overlay]
  | cons entry rest ih =>
    show (view.put entry).overlay rest lenderId = none ↔ _
    rw [ih, put]
    by_cases same : lenderId = entry.1 <;> simp [same]

theorem free_append : view.Free (first ++ second) ↔
    view.Free first ∧ (view.overlay first).Free second := by
  constructor
  · intro free
    have distinct := List.map_append ▸ free.distinct
    obtain ⟨one, two, apart⟩ := List.nodup_append.mp distinct
    refine ⟨⟨one, fun entry member => free.absent entry (List.mem_append_left _ member)⟩, two, ?_⟩
    intro entry member
    have absent := free.absent entry (List.mem_append_right _ member)
    refine overlay_eq_none_iff.mpr ⟨fun also => ?_, absent⟩
    exact apart _ also _ (List.mem_map_of_mem member) rfl
  · intro both
    obtain ⟨one, two⟩ := both
    constructor
    · rw [List.map_append]
      refine List.nodup_append.mpr ⟨one.distinct, two.distinct, ?_⟩
      intro key among other also same
      obtain ⟨entry, member, named⟩ := List.mem_map.mp also
      exact (overlay_eq_none_iff.mp (two.absent entry member)).1 (named ▸ same ▸ among)
    · intro entry member
      cases List.mem_append.mp member with
      | inl among => exact one.absent entry among
      | inr among => exact (overlay_eq_none_iff.mp (two.absent entry among)).2

theorem free_nil : view.Free [] := ⟨List.nodup_nil, fun _ member => nomatch member⟩

theorem free_cons :
    view.Free (entry :: rows) ↔ view entry.1 = none ∧ (view.put entry).Free rows := by
  have single : view.Free [entry] ↔ view entry.1 = none :=
    ⟨fun free => free.absent entry List.mem_cons_self, fun absent =>
      ⟨List.pairwise_singleton _ _, fun _ member => List.mem_singleton.mp member ▸ absent⟩⟩
  rw [← List.singleton_append, free_append, single]
  rfl

/-- Which identifiers are free does not depend on the rows under the others. -/
theorem Free.of_put {row : LenderRow} (free : (view.put (lenderId, row)).Free rows)
    (other : LenderRow) : (view.put (lenderId, other)).Free rows := by
  refine ⟨free.distinct, fun entry member => ?_⟩
  have absent := free.absent entry member
  unfold put at absent ⊢
  split at absent
  · cases absent
  · next apart => rw [if_neg apart, absent]

end View

variable {δ σ : Type}

/-- What can be observed of a database and of a session on it. -/
structure Observation (δ σ : Type) where
  content : δ → View
  seen : σ → View
  pending : σ → Rows

/-- Sessions are transactions on rows under unique keys, and plain rows come back as they were. -/
structure Database.Transactional (db : Database δ σ) (observed : Observation δ σ) : Prop where
  close_start : ∀ stored, db.close (db.start stored) = stored
  seen_start : ∀ stored, observed.seen (db.start stored) = observed.content stored
  pending_start : ∀ stored, observed.pending (db.start stored) = []
  close_add : ∀ lenderId row session, db.close (db.add lenderId row session) = db.close session
  seen_add : ∀ lenderId row session,
    observed.seen (db.add lenderId row session) = observed.seen session
  pending_add : ∀ lenderId row session,
    observed.pending (db.add lenderId row session) = observed.pending session ++ [(lenderId, row)]
  close_flush : ∀ session, db.close (db.flush session).2 = db.close session
  flush_free : ∀ session, (∀ entry ∈ observed.pending session, entry.2.Plain) →
    (observed.seen session).Free (observed.pending session) →
      (db.flush session).1 = .ok () ∧
      observed.seen (db.flush session).2
        = (observed.seen session).overlay (observed.pending session) ∧
      observed.pending (db.flush session).2 = []
  flush_taken : ∀ session, ¬ (observed.seen session).Free (observed.pending session) →
    ∃ fault, (db.flush session).1 = .error fault
  commit_free : ∀ session, (∀ entry ∈ observed.pending session, entry.2.Plain) →
    (observed.seen session).Free (observed.pending session) →
      (db.commit session).1 = .ok () ∧
      observed.content (db.close (db.commit session).2)
        = (observed.seen session).overlay (observed.pending session)
  commit_taken : ∀ session, ¬ (observed.seen session).Free (observed.pending session) →
    (∃ fault, (db.commit session).1 = .error fault) ∧
      db.close (db.commit session).2 = db.close session
  close_rollback : ∀ session, db.close (db.rollback session) = db.close session
  select_seen : ∀ lenderId session, observed.pending session = [] →
    db.select lenderId session = observed.seen session lenderId

namespace Database

variable {db : Database δ σ} {observed : Observation δ σ} {stored : δ} {session : σ}
  {rows : Rows} {acts : List Act} {work : Work}

/-- A session on what is stored, after these rows have been added and some of them written. -/
structure Reached (db : Database δ σ) (observed : Observation δ σ) (stored : δ) (rows : Rows)
    (session : σ) : Prop where
  kept : db.close session = stored
  split : ∃ written, rows = written ++ observed.pending session ∧
    (observed.content stored).Free written ∧
    observed.seen session = (observed.content stored).overlay written

namespace Reached

theorem start (lawful : db.Transactional observed) (stored : δ) :
    Reached db observed stored [] (db.start stored) where
  kept := lawful.close_start stored
  split := ⟨[], (lawful.pending_start stored).symm, View.free_nil, lawful.seen_start stored⟩

theorem add (lawful : db.Transactional observed) (reached : Reached db observed stored rows session)
    (lenderId : String) (row : LenderRow) :
    Reached db observed stored (rows ++ [(lenderId, row)]) (db.add lenderId row session) := by
  obtain ⟨kept, written, split, free, seen⟩ := reached
  refine ⟨(lawful.close_add ..).trans kept, written, ?_, free, (lawful.seen_add ..).trans seen⟩
  rw [lawful.pending_add, split, List.append_assoc]

/-- What is pending can be written exactly when no row added so far is in the way of another. -/
theorem free_pending_iff (reached : Reached db observed stored rows session) :
    (observed.seen session).Free (observed.pending session) ↔
      (observed.content stored).Free rows := by
  obtain ⟨_, written, split, free, seen⟩ := reached
  rw [split, View.free_append, seen]
  exact ⟨fun rest => ⟨free, rest⟩, And.right⟩

theorem overlay_pending (reached : Reached db observed stored rows session) :
    (observed.seen session).overlay (observed.pending session)
      = (observed.content stored).overlay rows := by
  obtain ⟨_, written, split, _, seen⟩ := reached
  rw [split, View.overlay_append, seen]

theorem pending_plain (reached : Reached db observed stored rows session)
    (plain : ∀ entry ∈ rows, entry.2.Plain) :
    ∀ entry ∈ observed.pending session, entry.2.Plain := by
  obtain ⟨_, written, split, _, _⟩ := reached
  intro entry member
  exact plain entry (split ▸ List.mem_append_right written member)

theorem flush (lawful : db.Transactional observed)
    (reached : Reached db observed stored rows session) (plain : ∀ entry ∈ rows, entry.2.Plain)
    (free : (observed.content stored).Free rows) :
    (db.flush session).1 = .ok () ∧ Reached db observed stored rows (db.flush session).2 := by
  obtain ⟨ended, seen, empty⟩ :=
    lawful.flush_free session (reached.pending_plain plain) (reached.free_pending_iff.mpr free)
  refine ⟨ended, (lawful.close_flush session).trans reached.kept, rows, ?_, free, ?_⟩
  · rw [empty, List.append_nil]
  · rw [seen, reached.overlay_pending]

end Reached

/-- How the acts of a scope end: all rows added, or stopped at an identifier that is taken. -/
theorem perform_cases (lawful : db.Transactional observed)
    (reached : Reached db observed stored rows session)
    (plain : ∀ entry ∈ rows ++ acts.flatMap Act.rows, entry.2.Plain) :
    (∃ last, db.perform acts session = (.ok (), last) ∧
        Reached db observed stored (rows ++ acts.flatMap Act.rows) last) ∨
      ∃ fault last, db.perform acts session = (.error fault, last) ∧ db.close last = stored ∧
        ¬ (observed.content stored).Free (rows ++ acts.flatMap Act.rows) := by
  induction acts generalizing rows session with
  | nil =>
    refine .inl ⟨session, rfl, ?_⟩
    rw [List.flatMap_nil, List.append_nil]
    exact reached
  | cons act rest ih =>
    cases act with
    | add lenderId row =>
      have next := reached.add lawful lenderId row
      have rearranged : rows ++ (Act.add lenderId row :: rest).flatMap Act.rows
          = rows ++ [(lenderId, row)] ++ rest.flatMap Act.rows := by
        simp [Act.rows]
      rw [rearranged] at plain ⊢
      exact ih next plain
    | flush =>
      have same : (Act.flush :: rest).flatMap Act.rows = rest.flatMap Act.rows := rfl
      rw [same] at plain ⊢
      -- The rows added so far are written now, or one of them is in the way of another for good.
      by_cases free : (observed.content stored).Free rows
      · have plainRows : ∀ entry ∈ rows, entry.2.Plain :=
          fun entry member => plain entry (List.mem_append_left _ member)
        obtain ⟨ended, next⟩ := reached.flush lawful plainRows free
        have goesOn : db.perform (.flush :: rest) session
            = db.perform rest (db.flush session).2 := by
          rw [perform, ← Prod.eta (db.flush session), ended]
        rw [goesOn]
        exact ih next plain
      · obtain ⟨fault, ended⟩ := lawful.flush_taken session (mt reached.free_pending_iff.mp free)
        refine .inr ⟨fault, (db.flush session).2, ?_, ?_, fun all => ?_⟩
        · rw [perform, ← Prod.eta (db.flush session), ended]
        · exact (lawful.close_flush session).trans reached.kept
        · exact free (View.free_append.mp all).1

theorem scope_of_fault (lawful : db.Transactional observed) {fault : Fault}
    (tried : db.attempt work (db.start stored) = (.error fault, session))
    (kept : db.close session = stored) : db.scope work stored = (.error fault, stored) := by
  simp only [scope, tried, lawful.close_rollback, kept]

theorem attempt_of_failure {fault : Fault} {last : σ} (failing : work.failure = some fault)
    (ended : db.perform work.acts session = (.ok (), last)) :
    db.attempt work session = (.error fault, last) := by
  simp only [attempt, ended, failing]

theorem attempt_of_commit {last : σ} (healthy : work.failure = none)
    (ended : db.perform work.acts session = (.ok (), last)) :
    db.attempt work session = db.commit last := by
  simp only [attempt, ended, healthy]

/-- A scope whose rows are free stores them all, unless it fails on its own. -/
theorem scope_of_free (lawful : db.Transactional observed)
    (plain : ∀ entry ∈ work.rows, entry.2.Plain)
    (free : (observed.content stored).Free work.rows) :
    (∃ fault, work.failure = some fault ∧ db.scope work stored = (.error fault, stored)) ∨
      work.failure = none ∧ (db.scope work stored).1 = .ok () ∧
        observed.content (db.scope work stored).2
          = (observed.content stored).overlay work.rows := by
  rcases perform_cases lawful (.start lawful stored) plain with performed | stopped
  · obtain ⟨last, ended, reached⟩ := performed
    rw [List.nil_append] at reached
    cases failing : work.failure with
    | some fault =>
      have tried := attempt_of_failure failing ended
      exact .inl ⟨fault, rfl, scope_of_fault lawful tried reached.kept⟩
    | none =>
      obtain ⟨kept, content⟩ := lawful.commit_free last (reached.pending_plain plain)
        (reached.free_pending_iff.mpr free)
      have tried : db.attempt work (db.start stored) = (.ok (), (db.commit last).2) :=
        (attempt_of_commit failing ended).trans (Prod.ext kept rfl)
      have whole : db.scope work stored = (.ok (), db.close (db.commit last).2) := by
        rw [scope, tried]
      rw [whole]
      exact .inr ⟨rfl, rfl, content.trans reached.overlay_pending⟩
  · obtain ⟨fault, last, _, _, taken⟩ := stopped
    exact absurd free taken

/-- A scope with a row whose identifier is taken fails and stores nothing. -/
theorem scope_of_taken (lawful : db.Transactional observed)
    (plain : ∀ entry ∈ work.rows, entry.2.Plain)
    (taken : ¬ (observed.content stored).Free work.rows) :
    ∃ fault, db.scope work stored = (.error fault, stored) := by
  rcases perform_cases lawful (.start lawful stored) plain with performed | stopped
  · obtain ⟨last, ended, reached⟩ := performed
    rw [List.nil_append] at reached
    cases failing : work.failure with
    | some fault =>
      have tried := attempt_of_failure failing ended
      exact ⟨fault, scope_of_fault lawful tried reached.kept⟩
    | none =>
      obtain ⟨⟨fault, failed⟩, kept⟩ :=
        lawful.commit_taken last (mt reached.free_pending_iff.mp taken)
      have tried : db.attempt work (db.start stored) = (.error fault, (db.commit last).2) :=
        (attempt_of_commit failing ended).trans (Prod.ext failed rfl)
      exact ⟨fault, scope_of_fault lawful tried (kept.trans reached.kept)⟩
  · obtain ⟨fault, last, ended, kept, _⟩ := stopped
    have tried : db.attempt work (db.start stored) = (.error fault, last) := by
      simp only [attempt, ended]
    exact ⟨fault, scope_of_fault lawful tried kept⟩

end Database

end Store

end LoanDispatch
