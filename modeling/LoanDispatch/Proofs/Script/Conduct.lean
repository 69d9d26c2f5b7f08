import LoanDispatch.Script.Run

/-!
The conduct of scripts that only use the spreadsheet service.  `Terms` say what a script may rely on
and what it may ask; `Script.Meets` says that it keeps to them whatever it is answered and whatever
others do between its requests.  A script that meets its terms does so in every run, alone or beside
others.
-/

set_option autoImplicit false

namespace LoanDispatch

/-- What a script relies on and what it keeps to, over states that it shares with others. -/
structure Terms (τ : Type) where
  /-- What others may do before a request of the script is answered. -/
  drift : τ → τ → Prop
  /-- The requests that the script may make. -/
  allowed : SheetRequest → τ → Prop
  /-- The answers to a request, with the state after it. -/
  answered : SheetRequest → τ → Except Fault Value → τ → Prop

namespace Script

variable {α β σ τ : Type}

/-- Under the terms the script makes only allowed requests, asks no partner, and ends as `post` says.
-/
def Meets (terms : Terms τ) (post : Except Fault α → τ → Prop) : Script α → τ → Prop
  | .done result, state => post result state
  | .note _ rest, state => rest.Meets terms post state
  | .enter _ rest, state => rest.Meets terms post state
  | .leave rest, state => rest.Meets terms post state
  | .clock next, state => ∀ time, (next time).Meets terms post state
  | .sheet request next, state =>
    ∀ current, terms.drift state current →
      terms.allowed request current ∧
        ∀ answer after, terms.answered request current answer after →
          (next answer).Meets terms post after
  | .partner _ _, _ => False

theorem meets_andThen (terms : Terms τ) (post : Except Fault β → τ → Prop) (script : Script α)
    (next : Except Fault α → Script β) (state : τ) :
    (script.andThen next).Meets terms post state ↔
      script.Meets terms (fun result after => (next result).Meets terms post after) state := by
  induction script generalizing state with
  | done result => exact Iff.rfl
  | note words rest ih => exact ih state
  | enter fields rest ih => exact ih state
  | leave rest ih => exact ih state
  | clock read ih => exact forall_congr' fun time => ih time state
  | sheet request answer ih =>
    refine forall_congr' fun current => imp_congr_right fun _ => and_congr_right fun _ => ?_
    exact forall_congr' fun result => forall_congr' fun after => imp_congr_right fun _ =>
      ih result after
  | partner request answer _ => exact Iff.rfl

/-! What scripts made of checks and requests do first. -/

theorem andThen_andThen {γ : Type} (script : Script α) (first : Except Fault α → Script β)
    (second : Except Fault β → Script γ) :
    (script.andThen first).andThen second
      = script.andThen fun result => (first result).andThen second := by
  induction script with
  | done result => rfl
  | note words rest ih => exact congrArg (note words) ih
  | enter fields rest ih => exact congrArg (enter fields) ih
  | leave rest ih => exact congrArg leave ih
  | clock read ih => exact congrArg clock (funext ih)
  | sheet request answer ih => exact congrArg (sheet request) (funext ih)
  | partner request answer ih => exact congrArg (Script.partner request) (funext ih)

theorem attempt_bind (script : Script α) (next : Except Fault α → Script β) :
    script.attempt >>= next = script.andThen next :=
  andThen_andThen script _ _

@[simp] theorem ofFault_ok_bind (value : α) (next : α → Script β) :
    ofFault (.ok value) >>= next = next value := rfl

@[simp] theorem ofFault_error_bind (fault : Fault) (next : α → Script β) :
    ofFault (.error fault) >>= next = .done (.error fault) := rfl

@[simp] theorem ofMisfit_ok_bind (value : α) (next : α → Script β) :
    ofMisfit (.ok value) >>= next = next value := rfl

@[simp] theorem ofMisfit_error_bind (misfit : Misfit) (next : α → Script β) :
    ofMisfit (.error misfit) >>= next = .done (.error (.misfit misfit)) := rfl

@[simp] theorem write_bind (words : Log.Note) (next : Unit → Script β) :
    write words >>= next = .note words (next ()) := rfl

@[simp] theorem readClock_bind (next : Nat → Script β) : readClock >>= next = .clock next := rfl

/-- A script that goes on from an answer, and ends with the fault of a request that failed. -/
def onAnswer (next : Value → Script β) : Except Fault Value → Script β
  | .ok value => next value
  | .error fault => .done (.error fault)

@[simp] theorem askSheet_bind (request : SheetRequest) (next : Value → Script β) :
    askSheet request >>= next = .sheet request (onAnswer next) :=
  congrArg (sheet request) (funext fun answer => by cases answer <;> rfl)

theorem Meets.weaken {terms : Terms τ} {post loose : Except Fault α → τ → Prop} {script : Script α}
    {state : τ} (meets : script.Meets terms post state)
    (implied : ∀ result after, post result after → loose result after) :
    script.Meets terms loose state := by
  induction script generalizing state with
  | done result => exact implied result state meets
  | note words rest ih => exact ih meets
  | enter fields rest ih => exact ih meets
  | leave rest ih => exact ih meets
  | clock read ih => exact fun time => ih time (meets time)
  | sheet request answer ih =>
    intro current drifted
    obtain ⟨allowed, goesOn⟩ := meets current drifted
    exact ⟨allowed, fun result after answered => ih result (goesOn result after answered)⟩
  | partner request answer _ => exact meets

/-- What others do meanwhile does no harm to a script that has not ended, nor to an end that they
cannot undo. -/
theorem Meets.drift {terms : Terms τ} {post : Except Fault α → τ → Prop} {script : Script α}
    {state later : τ} (meets : script.Meets terms post state)
    (chained : ∀ {first second third}, terms.drift first second → terms.drift second third →
      terms.drift first third)
    (stable : ∀ {result first second}, post result first → terms.drift first second →
      post result second)
    (drifted : terms.drift state later) : script.Meets terms post later := by
  induction script with
  | done result => exact stable meets drifted
  | note words rest ih => exact ih meets
  | enter fields rest ih => exact ih meets
  | leave rest ih => exact ih meets
  | clock read ih => exact fun time => ih time (meets time)
  | sheet request answer _ => exact fun current further => meets current (chained drifted further)
  | partner request answer _ => exact meets

/-- The script has ended or waits for the spreadsheet service. -/
def Waits : Script α → Prop
  | .done _ | .sheet .. => True
  | _ => False

/-- What holds of every request to the spreadsheet service that a run of the script makes: the world
before, the request, its answer, and the world after. -/
def Along (around : Surroundings σ)
    (holds : World σ → SheetRequest → Except Fault Value → World σ → Prop) :
    Script α → Log.Contexts → World σ → Prop
  | .done _, _, _ => True
  | .note words rest, contexts, world =>
    rest.Along around holds contexts (world.addNote words contexts)
  | .enter fields rest, contexts, world => rest.Along around holds (contexts.enter fields) world
  | .leave rest, contexts, world => rest.Along around holds contexts.leave world
  | .clock next, contexts, world => (next world.tick.time).Along around holds contexts world.tick
  | .sheet request next, contexts, world =>
    let (answer, after) := world.answerSheet around request
    holds world request answer after ∧ (next answer).Along around holds contexts after
  | .partner request next, contexts, world =>
    let (answer, after) := world.answerPartner around request
    (next answer).Along around holds contexts after

theorem along_of_always {around : Surroundings σ}
    {holds : World σ → SheetRequest → Except Fault Value → World σ → Prop}
    (always : ∀ request world,
      holds world request (world.answerSheet around request).1 (world.answerSheet around request).2)
    (script : Script α) (contexts : Log.Contexts) (world : World σ) :
    script.Along around holds contexts world := by
  induction script generalizing contexts world with
  | done result => trivial
  | note words rest ih => exact ih contexts _
  | enter fields rest ih => exact ih _ world
  | leave rest ih => exact ih _ world
  | clock read ih => exact ih _ contexts _
  | sheet request answer ih => exact ⟨always request world, ih _ contexts _⟩
  | partner request answer ih => exact ih _ contexts _

theorem Along.imp {around : Surroundings σ}
    {holds follows : World σ → SheetRequest → Except Fault Value → World σ → Prop}
    {script : Script α} {contexts : Log.Contexts} {world : World σ}
    (along : script.Along around holds contexts world)
    (implied : ∀ before request,
      holds before request (before.answerSheet around request).1
          (before.answerSheet around request).2 →
        follows before request (before.answerSheet around request).1
          (before.answerSheet around request).2) :
    script.Along around follows contexts world := by
  induction script generalizing contexts world with
  | done result => trivial
  | note words rest ih => exact ih along
  | enter fields rest ih => exact ih along
  | leave rest ih => exact ih along
  | clock read ih => exact ih _ along
  | sheet request answer ih => exact ⟨implied world request along.1, ih _ along.2⟩
  | partner request answer ih => exact ih _ along

/-- A state that the terms are about is seen in a world; notes and the clock do not hide it. -/
structure Steady (sees : World σ → τ → Prop) : Prop where
  addNote : ∀ {world state} words contexts, sees world state →
    sees (World.addNote words contexts world) state
  tick : ∀ {world state}, sees world state → sees (World.tick world) state

section Worlds

variable {terms : Terms τ} {post : Except Fault α → τ → Prop} {sees : World σ → τ → Prop}
  {around : Surroundings σ} {script : Script α} {contexts : Log.Contexts} {world : World σ}
  {state : τ}

/-- A script that meets its terms ends as they say in every run whose answers keep to them. -/
theorem Meets.run (meets : script.Meets terms post state) (steady : Steady sees)
    (seen : sees world state) (still : ∀ state, terms.drift state state)
    (along : script.Along around
      (fun before request answer after => ∀ state, sees before state →
        terms.allowed request state →
          ∃ next, sees after next ∧ terms.answered request state answer next)
      contexts world) :
    ∃ final, sees (script.run around contexts world).2.2 final ∧
      post (script.run around contexts world).1 final := by
  induction script generalizing contexts world state with
  | done result => exact ⟨state, seen, meets⟩
  | note words rest ih => exact ih meets (steady.addNote words contexts seen) along
  | enter fields rest ih => exact ih meets seen along
  | leave rest ih => exact ih meets seen along
  | clock read ih => exact ih _ (meets _) (steady.tick seen) along
  | sheet request answer ih =>
    obtain ⟨allowed, goesOn⟩ := meets state (still state)
    obtain ⟨next, nextSeen, answered⟩ := along.1 state seen allowed
    exact ih _ (goesOn _ next answered) nextSeen along.2
  | partner request answer _ => exact meets.elim

/-- Going on up to the next request leaves the state alone and the terms met. -/
theorem Meets.advance (meets : script.Meets terms post state) (steady : Steady sees)
    (seen : sees world state) (around : Surroundings σ) (contexts : Log.Contexts) :
    sees (script.advance around contexts world).2.2 state ∧
      (script.advance around contexts world).1.Meets terms post state ∧
      (script.advance around contexts world).1.Waits := by
  induction script generalizing contexts world with
  | done result => exact ⟨seen, meets, trivial⟩
  | note words rest ih => exact ih meets (steady.addNote words contexts seen) _
  | enter fields rest ih => exact ih meets seen _
  | leave rest ih => exact ih meets seen _
  | clock read ih => exact ih _ (meets _) (steady.tick seen) _
  | sheet request answer _ => exact ⟨seen, meets, trivial⟩
  | partner request answer _ => exact meets.elim

theorem run_andThen (script : Script α) (next : Except Fault α → Script β)
    (contexts : Log.Contexts) (world : World σ) :
    (script.andThen next).run around contexts world
      = (next (script.run around contexts world).1).run around
          (script.run around contexts world).2.1 (script.run around contexts world).2.2 := by
  induction script generalizing contexts world with
  | done result => rfl
  | note words rest ih => exact ih contexts _
  | enter fields rest ih => exact ih _ world
  | leave rest ih => exact ih _ world
  | clock read ih => exact ih _ contexts _
  | sheet request answer ih => exact ih _ contexts _
  | partner request answer ih => exact ih _ contexts _

end Worlds

end Script

theorem Task.script_of_result? {α : Type} {task : Task α} {result : Except Fault α}
    (ended : task.result? = some result) : task.script = .done result := by
  unfold Task.result? at ended
  split at ended
  · next same =>
    cases ended
    exact same
  · cases ended

end LoanDispatch
