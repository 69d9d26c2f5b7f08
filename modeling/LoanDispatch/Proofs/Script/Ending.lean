import LoanDispatch.Proofs.Script.Conduct

/-!
How scripts end.  A quiet script asks nobody: it ends with one result, and leaves nothing behind but
notes and time.  Of a script that asks, `Ends` says what holds of its result in every run, and
`Fails` with which faults it may end.
-/

set_option autoImplicit false

namespace LoanDispatch

/-- Surroundings without a connection: every request fails. -/
def Surroundings.offline : Surroundings Unit :=
  let lost : Fault := .remote ⟨.transport, "ConnectError", "offline", []⟩
  ⟨fun _ state => (.error lost, state), fun _ state => (.error lost, state)⟩

namespace World

variable {σ : Type}

/-- Two worlds that differ at most in their time and their log. -/
structure Alike (one two : World σ) : Prop where
  state : one.state = two.state
  requests : one.requests = two.requests
  posts : one.posts = two.posts

theorem Alike.refl (world : World σ) : world.Alike world := ⟨rfl, rfl, rfl⟩

theorem Alike.trans {one two three : World σ} (first : one.Alike two) (second : two.Alike three) :
    one.Alike three :=
  ⟨first.state.trans second.state, first.requests.trans second.requests,
    first.posts.trans second.posts⟩

theorem addNote_alike (words : Log.Note) (contexts : Log.Contexts) (world : World σ) :
    (world.addNote words contexts).Alike world := ⟨rfl, rfl, rfl⟩

theorem tick_alike (world : World σ) : world.tick.Alike world := ⟨rfl, rfl, rfl⟩

end World

namespace Script

variable {α β σ : Type} {around : Surroundings σ} {script : Script α}

section Quiet

variable {post : Except Fault α → Prop}

/-- The script asks nobody and ends as `post` says, whatever the time is. -/
def Quiet (post : Except Fault α → Prop) : Script α → Prop
  | .done result => post result
  | .note _ rest => rest.Quiet post
  | .enter _ rest => rest.Quiet post
  | .leave rest => rest.Quiet post
  | .clock next => ∀ time, (next time).Quiet post
  | .sheet .. | .partner .. => False

theorem Quiet.run (quiet : script.Quiet post) (around : Surroundings σ) (contexts : Log.Contexts)
    (world : World σ) :
    post (script.run around contexts world).1 ∧
      (script.run around contexts world).2.2.Alike world := by
  induction script generalizing contexts world with
  | done result => exact ⟨quiet, .refl world⟩
  | note words rest ih =>
    obtain ⟨ended, alike⟩ := ih quiet contexts (world.addNote words contexts)
    exact ⟨ended, alike.trans (world.addNote_alike words contexts)⟩
  | enter fields rest ih => exact ih quiet (contexts.enter fields) world
  | leave rest ih => exact ih quiet contexts.leave world
  | clock read ih =>
    obtain ⟨ended, alike⟩ := ih _ (quiet _) contexts world.tick
    exact ⟨ended, alike.trans world.tick_alike⟩
  | sheet request answer _ => exact quiet.elim
  | partner request answer _ => exact quiet.elim

theorem Quiet.weaken {loose : Except Fault α → Prop} (quiet : script.Quiet post)
    (implied : ∀ result, post result → loose result) : script.Quiet loose := by
  induction script with
  | done result => exact implied result quiet
  | note words rest ih => exact ih quiet
  | enter fields rest ih => exact ih quiet
  | leave rest ih => exact ih quiet
  | clock read ih => exact fun time => ih time (quiet time)
  | sheet request answer _ => exact quiet.elim
  | partner request answer _ => exact quiet.elim

theorem Quiet.andThen {final : Except Fault β → Prop} {next : Except Fault α → Script β}
    (quiet : script.Quiet post) (rest : ∀ result, post result → (next result).Quiet final) :
    (script.andThen next).Quiet final := by
  induction script with
  | done result => exact rest result quiet
  | note words goesOn ih => exact ih quiet
  | enter fields goesOn ih => exact ih quiet
  | leave goesOn ih => exact ih quiet
  | clock read ih => exact fun time => ih time (quiet time)
  | sheet request answer _ => exact quiet.elim
  | partner request answer _ => exact quiet.elim

theorem Quiet.bind_ok {value : α} {final : Except Fault β → Prop} {next : α → Script β}
    (quiet : script.Quiet (· = .ok value)) (rest : (next value).Quiet final) :
    (script >>= next).Quiet final := by
  refine Quiet.andThen quiet fun result ended => ?_
  cases ended
  exact rest

theorem Quiet.bind_error {fault : Fault} {next : α → Script β}
    (quiet : script.Quiet (· = .error fault)) : (script >>= next).Quiet (· = .error fault) := by
  refine Quiet.andThen quiet fun result ended => ?_
  cases ended
  rfl

theorem Quiet.within (quiet : script.Quiet post) (fields : List (String × Value)) :
    (within fields script).Quiet post :=
  show (script.andThen fun result => .leave (.done result)).Quiet post from
    quiet.andThen fun _ ended => ended

end Quiet

section Carries

variable {γ : Type} {around : Surroundings σ} {core : Script γ}
  {through : Except Fault γ → Except Fault α → Prop}

/-- The script does what its core does and nothing else, but for notes and time.  `through` relates
the result of the core to the result of the script. -/
def Carries (around : Surroundings σ) (script : Script α) (core : Script γ)
    (through : Except Fault γ → Except Fault α → Prop) : Prop :=
  ∀ contexts world, ∃ inner opened, World.Alike opened world ∧
    through (core.run around inner opened).1 (script.run around contexts world).1 ∧
    (script.run around contexts world).2.2.Alike (core.run around inner opened).2.2

theorem carries_self (core : Script α) :
    core.Carries around core fun given result => result = given :=
  fun contexts world => ⟨contexts, world, .refl world, rfl, .refl _⟩

theorem Carries.note (carries : script.Carries around core through) (words : Log.Note) :
    (Script.note words script).Carries around core through := by
  intro contexts world
  obtain ⟨inner, opened, alike, ended, left⟩ := carries contexts (world.addNote words contexts)
  exact ⟨inner, opened, alike.trans (world.addNote_alike words contexts), ended, left⟩

theorem Carries.enter (carries : script.Carries around core through)
    (fields : List (String × Value)) : (Script.enter fields script).Carries around core through :=
  fun contexts world => carries (contexts.enter fields) world

theorem Carries.clock {next : Nat → Script α}
    (carries : ∀ time, (next time).Carries around core through) :
    (Script.clock next).Carries around core through := by
  intro contexts world
  obtain ⟨inner, opened, alike, ended, left⟩ := carries world.tick.time contexts world.tick
  exact ⟨inner, opened, alike.trans world.tick_alike, ended, left⟩

theorem Carries.after {value : β} {first : Script β} {next : β → Script α}
    (quiet : first.Quiet (· = .ok value)) (carries : (next value).Carries around core through) :
    (first >>= next).Carries around core through := by
  intro contexts world
  obtain ⟨ended, alike⟩ := quiet.run around contexts world
  obtain ⟨inner, opened, like, result, left⟩ :=
    carries (first.run around contexts world).2.1 (first.run around contexts world).2.2
  refine ⟨inner, opened, like.trans alike, ?_⟩
  show through _ ((first.andThen _).run around contexts world).1 ∧
    World.Alike ((first.andThen _).run around contexts world).2.2 _
  rw [run_andThen, ended]
  exact ⟨result, left⟩

theorem Carries.andThen {final : Except Fault γ → Except Fault β → Prop}
    {next : Except Fault α → Script β} (carries : script.Carries around core through)
    (rest : ∀ given result, through given result → (next result).Quiet (final given)) :
    (script.andThen next).Carries around core final := by
  intro contexts world
  obtain ⟨inner, opened, alike, ended, left⟩ := carries contexts world
  refine ⟨inner, opened, alike, ?_⟩
  rw [run_andThen]
  obtain ⟨result, still⟩ := (rest _ _ ended).run around (script.run around contexts world).2.1
    (script.run around contexts world).2.2
  exact ⟨result, still.trans left⟩

theorem Carries.within (carries : script.Carries around core through)
    (fields : List (String × Value)) : (within fields script).Carries around core through := by
  have left : (script.andThen fun result => .leave (.done result)).Carries around core through :=
    carries.andThen fun _ _ ended => ended
  exact left.enter fields

end Carries

section Ends

variable {post : Except Fault β → Prop}

/-- However the script is run in the surroundings, it ends as `post` says. -/
def Ends (around : Surroundings σ) (post : Except Fault α → Prop) (script : Script α) : Prop :=
  ∀ contexts world, post (script.run around contexts world).1

theorem Ends.andThen {next : Except Fault α → Script β}
    (first : script.Ends around fun result => (next result).Ends around post) :
    (script.andThen next).Ends around post := by
  intro contexts world
  rw [run_andThen]
  exact first contexts world _ _

theorem Ends.note {rest : Script β} (ends : rest.Ends around post) (words : Log.Note) :
    (Script.note words rest).Ends around post :=
  fun contexts _ => ends contexts _

theorem Ends.clock {next : Nat → Script β} (ends : ∀ time, (next time).Ends around post) :
    (Script.clock next).Ends around post :=
  fun contexts _ => ends _ contexts _

theorem ends_done {result : Except Fault β} (holds : post result) :
    (Script.done result).Ends around post :=
  fun _ _ => holds

theorem ends_askPartner {post : Except Fault PartnerReply → Prop} {request : PartnerRequest}
    (answers : ∀ state, post (around.partner request state).1) :
    (askPartner request).Ends around post :=
  fun _ world => answers world.state

theorem ends_askSheet {post : Except Fault Value → Prop} {request : SheetRequest}
    (answers : ∀ state, post (around.sheet request state).1) :
    (askSheet request).Ends around post :=
  fun _ world => answers world.state

end Ends

section Fails

variable {allowed : Fault → Prop}

/-- In the surroundings the script only fails with allowed faults. -/
def Fails (around : Surroundings σ) (allowed : Fault → Prop) (script : Script α) : Prop :=
  script.Ends around fun result => ∀ fault, result = .error fault → allowed fault

theorem Fails.bind {next : α → Script β} (first : script.Fails around allowed)
    (rest : ∀ value, (next value).Fails around allowed) :
    (script >>= next).Fails around allowed := by
  refine Ends.andThen fun contexts world => ?_
  have faults := first contexts world
  cases ended : (script.run around contexts world).1 with
  | ok value => exact rest value
  | error fault =>
    refine ends_done fun other same => ?_
    cases same
    exact faults _ ended

theorem fails_ok (value : α) : (Script.done (.ok value) : Script α).Fails around allowed :=
  ends_done fun _ same => nomatch same

theorem fails_ofFault {result : Except Fault α}
    (faults : ∀ fault, result = .error fault → allowed fault) :
    (ofFault result).Fails around allowed :=
  ends_done faults

theorem fails_ofMisfit_of {result : Except Misfit α}
    (misfits : ∀ cause, result = .error cause → allowed (.misfit cause)) :
    (ofMisfit result).Fails around allowed := by
  cases result with
  | ok value => exact fails_ok value
  | error cause =>
    refine ends_done fun fault same => ?_
    cases same
    exact misfits cause rfl

theorem fails_ofMisfit (misfits : ∀ cause, allowed (.misfit cause)) (result : Except Misfit α) :
    (ofMisfit result).Fails around allowed :=
  fails_ofMisfit_of fun cause _ => misfits cause

theorem fails_write (words : Log.Note) : (write words).Fails around allowed :=
  Ends.note (fails_ok ()) words

end Fails

end Script

end LoanDispatch
