import LoanDispatch.Proofs.Script.Ending

/-!
Faults that pass through scripts.  A script hears a fault when the spreadsheet service answers one of
its requests with it.  A script that passes faults on ends at the first one it hears, with an image
of that fault.
-/

set_option autoImplicit false

namespace LoanDispatch.Script

variable {α β σ : Type} {around : Surroundings σ} {fault : Fault} {image : Fault → Fault}
  {script : Script α} {contexts : Log.Contexts} {world : World σ}

section Hearing

/-- In a run of the script, the spreadsheet service answers some request with the fault. -/
def Hears (around : Surroundings σ) (fault : Fault) : Script α → Log.Contexts → World σ → Prop
  | .done _, _, _ => False
  | .note words rest, contexts, world =>
    rest.Hears around fault contexts (world.addNote words contexts)
  | .enter fields rest, contexts, world => rest.Hears around fault (contexts.enter fields) world
  | .leave rest, contexts, world => rest.Hears around fault contexts.leave world
  | .clock next, contexts, world => (next world.tick.time).Hears around fault contexts world.tick
  | .sheet request next, contexts, world =>
    let (answer, after) := world.answerSheet around request
    answer = .error fault ∨ (next answer).Hears around fault contexts after
  | .partner request next, contexts, world =>
    let (answer, after) := world.answerPartner around request
    (next answer).Hears around fault contexts after

theorem hears_sheet {request : SheetRequest} {next : Except Fault Value → Script α} :
    (Script.sheet request next).Hears around fault contexts world ↔
      (world.answerSheet around request).1 = .error fault ∨
        (next (world.answerSheet around request).1).Hears around fault contexts
          (world.answerSheet around request).2 :=
  Iff.rfl

theorem hears_andThen {next : Except Fault α → Script β} :
    (script.andThen next).Hears around fault contexts world ↔
      script.Hears around fault contexts world ∨
        (next (script.run around contexts world).1).Hears around fault
          (script.run around contexts world).2.1 (script.run around contexts world).2.2 := by
  induction script generalizing contexts world with
  | done result => exact (iff_of_eq (false_or _)).symm
  | note words rest ih => exact ih
  | enter fields rest ih => exact ih
  | leave rest ih => exact ih
  | clock read ih => exact ih _
  | sheet request answer ih => exact (or_congr_right (ih _)).trans or_assoc.symm
  | partner request answer ih => exact ih _

theorem Quiet.not_hears {post : Except Fault α → Prop} (quiet : script.Quiet post) :
    ¬ script.Hears around fault contexts world := by
  induction script generalizing contexts world with
  | done result => exact id
  | note words rest ih => exact ih quiet
  | enter fields rest ih => exact ih quiet
  | leave rest ih => exact ih quiet
  | clock read ih => exact ih _ (quiet _)
  | sheet request answer _ => exact quiet.elim
  | partner request answer _ => exact quiet.elim

end Hearing

section Passing

/-- The script asks no partner, and at an answer that is a fault it ends with the fault's image. -/
def PassesOn (image : Fault → Fault) : Script α → Prop
  | .done _ => True
  | .note _ rest | .enter _ rest | .leave rest => rest.PassesOn image
  | .clock next => ∀ time, (next time).PassesOn image
  | .sheet _ next =>
    (∀ fault, next (.error fault) = .done (.error (image fault))) ∧
      ∀ value, (next (.ok value)).PassesOn image
  | .partner .. => False

theorem PassesOn.bind {next : α → Script β} (first : script.PassesOn image)
    (rest : ∀ value, (next value).PassesOn image) : (script >>= next).PassesOn image := by
  show (script.andThen _).PassesOn image
  induction script with
  | done result =>
    cases result with
    | ok value => exact rest value
    | error fault => trivial
  | note words goesOn ih => exact ih first
  | enter fields goesOn ih => exact ih first
  | leave goesOn ih => exact ih first
  | clock read ih => exact fun time => ih time (first time)
  | sheet request answer ih =>
    refine ⟨fun fault => ?_, fun value => ih _ (first.2 value)⟩
    show (answer (.error fault)).andThen _ = _
    rw [first.1]
    rfl
  | partner request answer _ => exact first.elim

theorem passesOn_ofFault (result : Except Fault α) : (ofFault result).PassesOn image := trivial

theorem passesOn_ofMisfit (result : Except Misfit α) : (ofMisfit result).PassesOn image := by
  cases result <;> trivial

theorem passesOn_askSheet (request : SheetRequest) : (askSheet request).PassesOn id :=
  ⟨fun _ => rfl, fun _ => trivial⟩

/-- A script that passes faults on ends with the image of the fault that it hears. -/
theorem PassesOn.run (passes : script.PassesOn image)
    (heard : script.Hears around fault contexts world) :
    (script.run around contexts world).1 = .error (image fault) := by
  induction script generalizing contexts world with
  | done result => exact heard.elim
  | note words rest ih => exact ih passes heard
  | enter fields rest ih => exact ih passes heard
  | leave rest ih => exact ih passes heard
  | clock read ih => exact ih _ (passes _) heard
  | sheet request next ih =>
    show ((next (world.answerSheet around request).1).run around contexts _).1 = _
    rw [hears_sheet] at heard
    cases answer : (world.answerSheet around request).1 with
    | error other =>
      -- The script ends at this answer, so there is no later one to hear.
      rw [answer, passes.1] at heard
      rw [passes.1]
      rcases heard with first | later
      · cases first
        rfl
      · exact later.elim
    | ok value =>
      rw [answer] at heard
      rcases heard with first | later
      · cases first
      · exact ih _ (passes.2 value) later
  | partner request answer _ => exact passes.elim

end Passing

end LoanDispatch.Script
