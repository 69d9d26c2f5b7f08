import LoanDispatch.Proofs.Profile.Readiness
import LoanDispatch.Proofs.Store.Table

/-!
A transactional database answers like a store in memory.  Scope after scope it holds what the rows
of the committed scopes leave when they are put into memory, so that every lookup finds the same row
in both, and every lender has the same profile or the same fault.
-/

set_option autoImplicit false

namespace LoanDispatch.Store

namespace Memory

def putAll (store : Memory) (rows : Rows) : Memory :=
  rows.foldl (fun store entry => store.put entry.1 entry.2) store

theorem get?_put (store : Memory) (entry : String × LenderRow) :
    (store.put entry.1 entry.2).get? = View.put store.get? entry :=
  View.lookup_insert store.rows entry.1 entry.2

theorem get?_putAll (store : Memory) (rows : Rows) :
    (store.putAll rows).get? = View.overlay store.get? rows := by
  induction rows generalizing store with
  | nil => rfl
  | cons entry rest ih =>
    refine (ih (store.put entry.1 entry.2)).trans ?_
    rw [get?_put]
    rfl

theorem putAll_append (store : Memory) (first second : Rows) :
    store.putAll (first ++ second) = (store.putAll first).putAll second :=
  List.foldl_append

end Memory

namespace Database

variable {δ σ : Type} {db : Database δ σ} {observed : Observation δ σ} {stored : δ}
  {works : List Work} {store : Memory}

/-- One scope keeps the database and the memory alike. -/
theorem content_scope (lawful : db.Transactional observed) {work : Work}
    (plain : ∀ entry ∈ work.rows, entry.2.Plain) (alike : observed.content stored = store.get?) :
    observed.content (db.scope work stored).2
      = (store.putAll (db.committed [work] stored)).get? := by
  by_cases free : (observed.content stored).Free work.rows
  · rcases scope_of_free lawful plain free with failed | kept
    · obtain ⟨fault, _, ended⟩ := failed
      simp only [committed, ended]
      exact alike
    · obtain ⟨_, ended, content⟩ := kept
      have whole : db.scope work stored = (.ok (), (db.scope work stored).2) := Prod.ext ended rfl
      have rows : db.committed [work] stored = work.rows := by
        rw [committed, whole]
        exact List.append_nil _
      rw [rows, Memory.get?_putAll, content, alike]
  · obtain ⟨fault, ended⟩ := scope_of_taken lawful plain free
    simp only [committed, ended]
    exact alike

theorem committed_cons (work : Work) (rest : List Work) (stored : δ) :
    db.committed (work :: rest) stored
      = db.committed [work] stored ++ db.committed rest (db.scope work stored).2 := by
  rw [committed, committed]
  split
  · next ended => simp only [ended, committed, List.append_nil]
  · next ended => simp only [ended, committed, List.nil_append]

theorem content_after (lawful : db.Transactional observed)
    (plain : ∀ work ∈ works, ∀ entry ∈ work.rows, entry.2.Plain)
    (alike : observed.content stored = store.get?) :
    observed.content (db.after stored works)
      = (store.putAll (db.committed works stored)).get? := by
  induction works generalizing stored store with
  | nil => exact alike
  | cons work rest ih =>
    have next := content_scope lawful (plain work List.mem_cons_self) alike
    rw [committed_cons, Memory.putAll_append]
    exact ih (fun other among => plain other (List.mem_cons_of_mem _ among)) next

theorem source_holds_content (lawful : db.Transactional observed) (stored : δ) :
    (db.source stored).Holds (observed.content stored) := by
  have same : (fun lenderId => db.select lenderId (db.start stored)) = observed.content stored := by
    funext lenderId
    rw [lawful.select_seen lenderId _ (lawful.pending_start stored), lawful.seen_start]
  exact same ▸ db.source_holds stored

/-- Scopes are atomic, and after any of them the database answers like the memory that their
committed rows were put into. -/
theorem scopes_refine_memory (lawful : db.Transactional observed)
    (blank : observed.content stored = fun _ => none)
    (plain : ∀ work ∈ works, ∀ entry ∈ work.rows, entry.2.Plain) :
    let reached := db.after stored works
    let memory := Memory.empty.putAll (db.committed works stored)
    (∀ next : Work, (∀ entry ∈ next.rows, entry.2.Plain) →
      let ended := db.scope next reached
      (¬ (observed.content reached).Free next.rows → ∃ fault, ended = (.error fault, reached)) ∧
      (∀ fault, next.failure = some fault → (observed.content reached).Free next.rows →
        ended = (.error fault, reached)) ∧
      (next.failure = none → (observed.content reached).Free next.rows →
        ended.1 = .ok () ∧
        (∀ entry ∈ next.rows, observed.content ended.2 entry.1 = some entry.2) ∧
        ∀ lenderId ∉ next.rows.map Prod.fst,
          observed.content ended.2 lenderId = observed.content reached lenderId)) ∧
    ∀ (lenderId : String) {τ : Type} (around : Surroundings τ) (contexts : Log.Contexts)
      (world : World τ),
      (((db.source reached).fetch lenderId).run around contexts world).1
        = ((memory.source.fetch lenderId).run around contexts world).1 ∧
      ((Profile.resolve (db.source reached) lenderId).run around contexts world).1
        = ((Profile.resolve memory.source lenderId).run around contexts world).1 := by
  intro reached memory
  refine ⟨fun next plainNext => ⟨scope_of_taken lawful plainNext, ?_, ?_⟩, ?_⟩
  · intro fault failing free
    rcases scope_of_free lawful plainNext free with failed | kept
    · obtain ⟨other, same, ended⟩ := failed
      cases failing.symm.trans same
      exact ended
    · cases failing.symm.trans kept.1
  · intro healthy free
    rcases scope_of_free lawful plainNext free with failed | kept
    · obtain ⟨fault, failing, _⟩ := failed
      cases healthy.symm.trans failing
    · obtain ⟨_, ended, content⟩ := kept
      refine ⟨ended, fun entry member => ?_, fun lenderId missing => ?_⟩
      · rw [content, View.overlay_of_mem free.distinct member]
      · rw [content, View.overlay_of_notMem missing]
  · intro lenderId τ around contexts world
    have alike : observed.content reached = memory.get? := content_after lawful plain blank
    have holds : (db.source reached).Holds memory.get? :=
      alike ▸ source_holds_content lawful reached
    have held := memory.source_holds
    constructor
    · have fetched := ((holds lenderId).run around contexts world).1
      rw [fetched, ((held lenderId).run around contexts world).1]
    · have resolved := ((Profile.resolve_quiet holds lenderId).run around contexts world).1
      rw [resolved, ((Profile.resolve_quiet held lenderId).run around contexts world).1]

end Database

namespace Table

def plainRow (method : String) : LenderRow :=
  ⟨.text method, .text "deals@lender.example", .null, .map [("endpoint", .null)]⟩

theorem plainRow_plain (method : String) : (plainRow method).Plain where
  method := .inr ⟨method, rfl⟩
  email := .inr ⟨"deals@lender.example", rfl⟩
  name := .inl rfl
  config := ⟨.object [("endpoint", .null)], by simp [Json.Proper, Json.ProperEntries], rfl⟩

/-- One scope that is committed, one that fails after its row was written, and one that takes an
identifier twice. -/
def threeScopes : List Work :=
  [⟨[.add "acme" (plainRow "api"), .flush, .add "other" (plainRow "email")], none⟩,
   ⟨[.add "third" (plainRow "email"), .flush], some duplicateFault⟩,
   ⟨[.add "fourth" (plainRow "email"), .add "fourth" (plainRow "api")], none⟩]

theorem threeScopes_refine_memory :
    let reached := database.after empty threeScopes
    let memory := Memory.empty.putAll [("acme", plainRow "api"), ("other", plainRow "email")]
    (∃ fault, database.scope ⟨[.add "acme" (plainRow "email")], none⟩ reached
        = (.error fault, reached)) ∧
      ((Profile.resolve (database.source reached) "acme").run .offline [] (World.fresh () 0)).1
        = ((Profile.resolve memory.source "acme").run .offline [] (World.fresh () 0)).1 := by
  have plain : ∀ work ∈ threeScopes, ∀ entry ∈ work.rows, entry.2.Plain := by
    intro work member entry among
    simp only [threeScopes, List.mem_cons, List.not_mem_nil, or_false] at member
    rcases member with rfl | rfl | rfl
    all_goals
      simp only [Work.rows, List.flatMap_cons, List.flatMap_nil, Act.rows, List.cons_append,
        List.nil_append, List.mem_cons, List.not_mem_nil, or_false] at among
      rcases among with rfl | rfl <;> exact plainRow_plain _
  have blank : observation.content empty = fun _ => none := rfl
  have rows : database.committed threeScopes empty
      = [("acme", plainRow "api"), ("other", plainRow "email")] := rfl
  obtain ⟨scopes, answers⟩ := Database.scopes_refine_memory database_transactional blank plain
  obtain ⟨taken, _⟩ := scopes ⟨[.add "acme" (plainRow "email")], none⟩ fun entry member => by
    cases List.mem_singleton.mp member
    exact plainRow_plain "email"
  refine ⟨taken fun free => ?_, ?_⟩
  · have present : ((database.after empty threeScopes).get? "acme").isSome := rfl
    have absent := free.absent ("acme", plainRow "email") List.mem_cons_self
    rw [show (database.after empty threeScopes).get? "acme" = none from absent] at present
    cases present
  · have same := (answers "acme" .offline [] (World.fresh () 0)).2
    rw [rows] at same
    exact same

end Table

end LoanDispatch.Store
