import LoanDispatch.Log.Context
import LoanDispatch.Script.Basic

/-!
Running scripts.  The surroundings answer requests and may change with every answer.  Several
scripts can run side by side: each goes on until its next request to the spreadsheet service, and a
schedule says whose request is answered next.
-/

set_option autoImplicit false

namespace LoanDispatch

/-- What answers the requests of scripts; `σ` is the state behind the answers. -/
structure Surroundings (σ : Type) where
  sheet : SheetRequest → σ → Except Fault Value × σ
  partner : PartnerRequest → σ → Except Fault PartnerReply × σ

/-- The state of a run and what it has left behind. -/
structure World (σ : Type) where
  state : σ
  time : Nat
  entries : List Log.Entry
  requests : List SheetRequest
  posts : List PartnerRequest

namespace World

variable {σ : Type}

/-- Every reading of the clock finds it a quarter of a second later. -/
def clockStep : Nat := 250

/-- A world in which nothing has been left behind yet. -/
def fresh (state : σ) (time : Nat) : World σ := ⟨state, time, [], [], []⟩

def tick (world : World σ) : World σ := { world with time := world.time + clockStep }

def addNote (note : Log.Note) (contexts : Log.Contexts) (world : World σ) : World σ :=
  { world with entries := world.entries ++ [⟨note, contexts.current⟩] }

def answerSheet (around : Surroundings σ) (request : SheetRequest) (world : World σ) :
    Except Fault Value × World σ :=
  let (answer, state) := around.sheet request world.state
  (answer, { world with state := state, requests := world.requests ++ [request] })

def answerPartner (around : Surroundings σ) (request : PartnerRequest) (world : World σ) :
    Except Fault PartnerReply × World σ :=
  let (answer, state) := around.partner request world.state
  (answer, { world with state := state, posts := world.posts ++ [request] })

end World

namespace Script

variable {α σ : Type}

def run (around : Surroundings σ) :
    Script α → Log.Contexts → World σ → Except Fault α × Log.Contexts × World σ
  | .done result, contexts, world => (result, contexts, world)
  | .note words rest, contexts, world => rest.run around contexts (world.addNote words contexts)
  | .enter fields rest, contexts, world => rest.run around (contexts.enter fields) world
  | .leave rest, contexts, world => rest.run around contexts.leave world
  | .clock next, contexts, world =>
    let world := world.tick
    (next world.time).run around contexts world
  | .sheet request next, contexts, world =>
    let (answer, world) := world.answerSheet around request
    (next answer).run around contexts world
  | .partner request next, contexts, world =>
    let (answer, world) := world.answerPartner around request
    (next answer).run around contexts world

/-- Runs a script up to its next request to the spreadsheet service. -/
def advance (around : Surroundings σ) :
    Script α → Log.Contexts → World σ → Script α × Log.Contexts × World σ
  | .done result, contexts, world => (.done result, contexts, world)
  | .note words rest, contexts, world => rest.advance around contexts (world.addNote words contexts)
  | .enter fields rest, contexts, world => rest.advance around (contexts.enter fields) world
  | .leave rest, contexts, world => rest.advance around contexts.leave world
  | .clock next, contexts, world =>
    let world := world.tick
    (next world.time).advance around contexts world
  | .sheet request next, contexts, world => (.sheet request next, contexts, world)
  | .partner request next, contexts, world =>
    let (answer, world) := world.answerPartner around request
    (next answer).advance around contexts world

end Script

/-- A script on its way, with the log contexts it has open. -/
structure Task (α : Type) where
  script : Script α
  contexts : Log.Contexts

namespace Task

variable {α σ : Type}

/-- Goes on up to the next request to the spreadsheet service. -/
def advance (around : Surroundings σ) (task : Task α) (world : World σ) : Task α × World σ :=
  let (script, contexts, world) := task.script.advance around task.contexts world
  (⟨script, contexts⟩, world)

/-- Answers the request that a task waits for and goes on up to the next one. -/
def step (around : Surroundings σ) (task : Task α) (world : World σ) : Task α × World σ :=
  match task.script with
  | .sheet request next =>
    let (answer, world) := world.answerSheet around request
    advance around ⟨next answer, task.contexts⟩ world
  | _ => (task, world)

def result? (task : Task α) : Option (Except Fault α) :=
  match task.script with
  | .done result => some result
  | _ => none

end Task

structure Team (α σ : Type) where
  tasks : List (Task α)
  world : World σ

namespace Team

variable {α σ : Type}

def startAll (around : Surroundings σ) : List (Task α) → World σ → List (Task α) × World σ
  | [], world => ([], world)
  | task :: rest, world =>
    let (task, world) := task.advance around world
    let (rest, world) := startAll around rest world
    (task :: rest, world)

def start (around : Surroundings σ) (scripts : List (Script α)) (world : World σ) : Team α σ :=
  let (tasks, world) := startAll around (scripts.map fun script => ⟨script, []⟩) world
  ⟨tasks, world⟩

/-- Lets one task take a step; an index outside the team changes nothing. -/
def step (around : Surroundings σ) (team : Team α σ) (index : Nat) : Team α σ :=
  match team.tasks[index]? with
  | some task =>
    let (task, world) := task.step around team.world
    ⟨team.tasks.set index task, world⟩
  | none => team

/-- Lets the tasks take steps in the order of a schedule. -/
def follow (around : Surroundings σ) (schedule : List Nat) (team : Team α σ) : Team α σ :=
  schedule.foldl (step around) team

def turns (count rounds : Nat) : List Nat := (List.replicate rounds (List.range count)).flatten

end Team

end LoanDispatch
