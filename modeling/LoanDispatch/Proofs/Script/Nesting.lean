import LoanDispatch.Proofs.Log.Binding
import LoanDispatch.Proofs.Script.Conduct

/-!
Scripts that nest their log contexts: they leave what they enter, in order, however they are
answered.  Such a script ends in the contexts in which it has begun, and what it notes on the way is
correlated as it was at its beginning, in all the keys that it gives to none of its own contexts.
-/

set_option autoImplicit false

namespace LoanDispatch

namespace Log.Contexts

variable {key : String} {value : Value} {fields : Fields} {contexts : Contexts}

theorem lookup_enter_of_mem (distinct : (fields.map Prod.fst).Nodup)
    (member : (key, value) ∈ fields) (given : value.isNull = false) :
    Entries.lookup key (contexts.enter fields).current = some value := by
  have kept : (key, value) ∈ fields.given := List.mem_filter.mpr ⟨member, by rw [given]; rfl⟩
  have apart : (fields.given.map Prod.fst).Nodup :=
    distinct.sublist (List.filter_sublist.map Prod.fst)
  exact Entries.lookup_merge_of_mem apart kept contexts.current

theorem lookup_enter_of_null (absent : ∀ field ∈ fields, field.1 = key → field.2.isNull = true) :
    Entries.lookup key (contexts.enter fields).current = Entries.lookup key contexts.current := by
  refine Entries.lookup_merge_of_notMem (fun named => ?_) contexts.current
  obtain ⟨field, kept, same⟩ := List.mem_map.mp named
  obtain ⟨member, given⟩ := List.mem_filter.mp kept
  rw [absent field member same] at given
  cases given

end Log.Contexts

namespace Script

variable {α β σ : Type} {keys : List String} {script : Script α} {around : Surroundings σ}
  {depth outer : Nat} {contexts base : Log.Contexts}

/-- However it is answered, the script leaves the `depth` contexts that are open and all that it
enters, in order; it gives none of the keys to a context. -/
def Nests (keys : List String) : Script α → Nat → Prop
  | .done _, depth => depth = 0
  | .note _ rest, depth => rest.Nests keys depth
  | .enter fields rest, depth =>
    (∀ field ∈ fields, field.1 ∈ keys → field.2.isNull = true) ∧ rest.Nests keys (depth + 1)
  | .leave rest, depth => ∃ outer, depth = outer + 1 ∧ rest.Nests keys outer
  | .clock next, depth => ∀ time, (next time).Nests keys depth
  | .sheet _ next, depth => ∀ answer, (next answer).Nests keys depth
  | .partner _ next, depth => ∀ answer, (next answer).Nests keys depth

section Building

theorem Nests.andThen {next : Except Fault α → Script β} (first : script.Nests keys depth)
    (rest : ∀ result, (next result).Nests keys outer) :
    (script.andThen next).Nests keys (outer + depth) := by
  induction script generalizing depth with
  | done result =>
    cases first
    exact rest result
  | note words goesOn ih => exact ih first
  | enter fields goesOn ih => exact ⟨first.1, ih first.2⟩
  | leave goesOn ih =>
    obtain ⟨left, rfl, outside⟩ := first
    exact ⟨outer + left, rfl, ih outside⟩
  | clock read ih => exact fun time => ih time (first time)
  | sheet request answer ih => exact fun result => ih result (first result)
  | partner request answer ih => exact fun result => ih result (first result)

theorem Nests.bind {next : α → Script β} (first : script.Nests keys 0)
    (rest : ∀ value, (next value).Nests keys 0) : (script >>= next).Nests keys 0 := by
  refine Nests.andThen first fun result => ?_
  cases result with
  | ok value => exact rest value
  | error fault => exact rfl

theorem Nests.attempt (nests : script.Nests keys 0) : script.attempt.Nests keys 0 :=
  nests.andThen fun _ => rfl

theorem Nests.within (nests : script.Nests keys 0) {fields : Log.Fields}
    (harmless : ∀ field ∈ fields, field.1 ∈ keys → field.2.isNull = true) :
    (within fields script).Nests keys 0 := by
  refine ⟨harmless, ?_⟩
  have left : (script.andThen fun result => .leave (.done result)).Nests keys 1 :=
    nests.andThen fun _ => ⟨0, rfl, rfl⟩
  exact left

theorem Nests.of_subset {fewer : List String} (nests : script.Nests keys depth)
    (subset : fewer ⊆ keys) : script.Nests fewer depth := by
  induction script generalizing depth with
  | done result => exact nests
  | note words rest ih => exact ih nests
  | enter fields rest ih =>
    obtain ⟨harmless, inside⟩ := nests
    exact ⟨fun field member named => harmless field member (subset named), ih inside⟩
  | leave rest ih =>
    obtain ⟨left, same, outside⟩ := nests
    exact ⟨left, same, ih outside⟩
  | clock read ih => exact fun time => ih time (nests time)
  | sheet request answer ih => exact fun result => ih result (nests result)
  | partner request answer ih => exact fun result => ih result (nests result)

theorem nests_done (result : Except Fault α) : (Script.done result).Nests keys 0 := rfl

theorem nests_ofMisfit (result : Except Misfit α) : (ofMisfit result).Nests keys 0 := by
  cases result <;> exact rfl

theorem nests_write (words : Log.Note) : (write words).Nests keys 0 := rfl

theorem nests_readClock : readClock.Nests keys 0 := fun _ => rfl

theorem nests_askSheet (request : SheetRequest) : (askSheet request).Nests keys 0 := fun _ => rfl

theorem nests_askPartner (request : PartnerRequest) : (askPartner request).Nests keys 0 :=
  fun _ => rfl

end Building

section Running

/-- Contexts that have been entered from a base without giving them any of the keys. -/
inductive Above (keys : List String) (base : Log.Contexts) : Nat → Log.Contexts → Prop where
  | base : Above keys base 0 base
  | enter {lower : Nat} {below : Log.Contexts} {fields : Log.Fields} : Above keys base lower below →
      (∀ field ∈ fields, field.1 ∈ keys → field.2.isNull = true) →
      Above keys base (lower + 1) (below.enter fields)

theorem Above.lookup (above : Above keys base depth contexts) {key : String} (named : key ∈ keys) :
    Entries.lookup key contexts.current = Entries.lookup key base.current := by
  induction above with
  | base => rfl
  | enter _ harmless ih =>
    rw [← ih]
    refine Log.Contexts.lookup_enter_of_null fun field member same => ?_
    exact harmless field member (same ▸ named)

theorem Above.ne_nil (above : Above keys base depth contexts) (filled : base ≠ []) :
    contexts ≠ [] := by
  cases above with
  | base => exact filled
  | enter _ _ => exact List.cons_ne_nil _ _

theorem Above.leave (above : Above keys base (depth + 1) contexts) :
    Above keys base depth contexts.leave := by
  cases above with
  | enter inner _ => exact inner

/-- A script that nests ends in the contexts of its beginning, and its notes see their keys. -/
theorem Nests.run (nests : script.Nests keys depth) (above : Above keys base depth contexts)
    (around : Surroundings σ) (world : World σ) :
    (script.run around contexts world).2.1 = base ∧
      ∃ written, (script.run around contexts world).2.2.entries = world.entries ++ written ∧
        ∀ entry ∈ written, ∀ key ∈ keys,
          Entries.lookup key entry.context = Entries.lookup key base.current := by
  induction script generalizing depth contexts world with
  | done result =>
    cases nests
    cases above
    exact ⟨rfl, [], (List.append_nil _).symm, nofun⟩
  | note words rest ih =>
    obtain ⟨ended, written, entries, seen⟩ := ih nests above (world.addNote words contexts)
    refine ⟨ended, ⟨words, contexts.current⟩ :: written, ?_, fun entry member key named => ?_⟩
    · exact entries.trans (List.append_assoc ..)
    · rcases List.mem_cons.mp member with rfl | later
      · exact above.lookup named
      · exact seen entry later key named
  | enter fields rest ih => exact ih nests.2 (above.enter nests.1) world
  | leave rest ih =>
    obtain ⟨left, rfl, outside⟩ := nests
    exact ih outside above.leave world
  | clock read ih => exact ih _ (nests _) above world.tick
  | sheet request answer ih => exact ih _ (nests _) above _
  | partner request answer ih => exact ih _ (nests _) above _

/-- How a run of the script uses the log context. -/
def uses (around : Surroundings σ) : Script α → Log.Contexts → World σ → List Log.Use
  | .done _, _, _ => []
  | .note words rest, contexts, world => rest.uses around contexts (world.addNote words contexts)
  | .enter fields rest, contexts, world =>
    .enter fields :: rest.uses around (contexts.enter fields) world
  | .leave rest, contexts, world => .leave (.ok ()) :: rest.uses around contexts.leave world
  | .clock next, contexts, world => (next world.tick.time).uses around contexts world.tick
  | .sheet request next, contexts, world =>
    let (answer, after) := world.answerSheet around request
    (next answer).uses around contexts after
  | .partner request next, contexts, world =>
    let (answer, after) := world.answerPartner around request
    (next answer).uses around contexts after

/-- The bound context follows a script that nests back to where it has been. -/
theorem Nests.follow (nests : script.Nests keys depth) (above : Above keys base depth contexts)
    (filled : base ≠ []) {binding : Log.Binding} (mirrors : binding.Mirrors contexts)
    (around : Surroundings σ) (world : World σ) :
    (binding.follow (script.uses around contexts world)).Mirrors base := by
  induction script generalizing depth contexts binding world with
  | done result =>
    cases nests
    cases above
    exact mirrors
  | note words rest ih => exact ih nests above mirrors _
  | enter fields rest ih => exact ih nests.2 (above.enter nests.1) (mirrors.enter fields) world
  | leave rest ih =>
    obtain ⟨left, rfl, outside⟩ := nests
    cases above with
    | @enter _ below fields inner harmless =>
      cases below with
      | nil => exact absurd rfl (inner.ne_nil filled)
      | cons outer others => exact ih outside inner (mirrors.leave (.ok ())) world
  | clock read ih => exact ih _ (nests _) above mirrors world.tick
  | sheet request answer ih => exact ih _ (nests _) above mirrors _
  | partner request answer ih => exact ih _ (nests _) above mirrors _

theorem run_bind_of_ok {value : α} {next : α → Script β} {after : Log.Contexts}
    {world reached : World σ}
    (ended : script.run around contexts world = (.ok value, after, reached)) :
    (script >>= next).run around contexts world = (next value).run around after reached := by
  show (script.andThen _).run around contexts world = _
  rw [run_andThen, ended]

theorem run_bind_of_error {fault : Fault} {next : α → Script β} {after : Log.Contexts}
    {world reached : World σ}
    (ended : script.run around contexts world = (.error fault, after, reached)) :
    (script >>= next).run around contexts world = (.error fault, after, reached) := by
  show (script.andThen _).run around contexts world = _
  rw [run_andThen, ended]
  rfl

theorem run_within {result : Except Fault α} {fields : Log.Fields} {world reached : World σ}
    (ended : script.run around (contexts.enter fields) world
      = (result, contexts.enter fields, reached)) :
    (within fields script).run around contexts world = (result, contexts, reached) := by
  show (script.andThen _).run around (contexts.enter fields) world = _
  rw [run_andThen, ended]
  rfl

end Running

end Script

end LoanDispatch
