import LoanDispatch.Log.Binding

/-!
The bound log context is a stack.  Its content follows from the contexts that are open, and nothing
that is done with copies shows in it, because no mapping is both handed out and bound.
-/

set_option autoImplicit false

namespace LoanDispatch.Log

/-- The fields of the contexts that are open after a use, innermost first. -/
def Use.opened (scopes : List Fields) : Use → List Fields
  | .enter fields => fields :: scopes
  | .leave _ => scopes.tail
  | .hand | .change .. => scopes

def openedBy (uses : List Use) : List Fields := uses.foldl Use.opened []

/-- The given fields of each context, outermost first, on top of what was bound before. -/
def merged (ambient : Fields) (scopes : List Fields) : Fields :=
  scopes.foldr (fun fields context => Entries.merge context fields.given) ambient

/-- The contents of the open contexts and of what was bound before. -/
def levels (ambient : Fields) : List Fields → Contexts
  | [] => [ambient]
  | fields :: rest => (levels ambient rest).enter fields

theorem current_levels (ambient : Fields) (scopes : List Fields) :
    (levels ambient scopes).current = merged ambient scopes := by
  induction scopes with
  | nil => rfl
  | cons fields rest ih =>
    show Entries.merge (levels ambient rest).current fields.given = _
    rw [ih]
    rfl

/-- Uses that leave what they enter, in order. -/
inductive Balanced : List Use → Prop where
  | nil : Balanced []
  | hand {rest} : Balanced rest → Balanced (.hand :: rest)
  | change {which how rest} : Balanced rest → Balanced (.change which how :: rest)
  | scope {fields ending inner rest} :
      Balanced inner → Balanced rest → Balanced (.enter fields :: (inner ++ .leave ending :: rest))

theorem Balanced.opened {uses : List Use} (balanced : Balanced uses) (scopes : List Fields) :
    uses.foldl Use.opened scopes = scopes := by
  induction balanced generalizing scopes with
  | nil => rfl
  | hand _ ih => exact ih scopes
  | change _ ih => exact ih scopes
  | @scope fields ending inner rest _ _ innerIH restIH =>
    rw [List.foldl_cons, List.foldl_append, List.foldl_cons, innerIH]
    exact restIH scopes

namespace Binding

variable {binding : Binding} {contexts : Contexts}

theorem read_make_old {number : Nat} (old : number < binding.mappings.length) (fields : Fields) :
    (binding.make fields).2.read (some number) = binding.read (some number) := by
  show ((binding.mappings ++ [fields])[number]?).getD [] = (binding.mappings[number]?).getD []
  rw [List.getElem?_append_left old]

theorem read_make_new (fields : Fields) :
    (binding.make fields).2.read (some (binding.make fields).1) = fields := by
  show ((binding.mappings ++ [fields])[binding.mappings.length]?).getD [] = fields
  rw [List.getElem?_concat_length]
  rfl

/-- The mapping that is handed out holds the context. -/
theorem read_hand (binding : Binding) :
    binding.hand.2.read (some binding.hand.1) = binding.content := read_make_new binding.content

theorem read_change {mapping number : Nat} (other : mapping ≠ number) (how : Fields → Fields) :
    (binding.change mapping how).read (some number) = binding.read (some number) := by
  show ((binding.mappings.modify mapping how)[number]?).getD []
    = (binding.mappings[number]?).getD []
  simp [other]

theorem length_make (fields : Fields) :
    (binding.make fields).2.mappings.length = binding.mappings.length + 1 :=
  List.length_append

theorem length_change (mapping : Nat) (how : Fields → Fields) :
    (binding.change mapping how).mappings.length = binding.mappings.length :=
  List.length_modify ..

/-- What is bound now and would be bound again by leaving holds these contexts, and none of it has
been handed out. -/
structure Mirrors (binding : Binding) (contexts : Contexts) : Prop where
  contents : (binding.bound :: binding.tokens).map binding.read = contexts
  made : ∀ number, some number ∈ binding.bound :: binding.tokens →
    number < binding.mappings.length
  handed : ∀ number ∈ binding.copies, number < binding.mappings.length
  apart : ∀ number ∈ binding.copies, some number ∉ binding.bound :: binding.tokens

namespace Mirrors

theorem content (mirrors : Mirrors binding contexts) : binding.content = contexts.current := by
  rw [← mirrors.contents]
  rfl

theorem ambient (fields : Option Fields) : Mirrors (ambient fields) [fields.getD []] := by
  cases fields with
  | none =>
    refine ⟨rfl, fun number member => ?_, nofun, nofun⟩
    cases List.mem_singleton.mp member
  | some entries =>
    refine ⟨rfl, fun number member => ?_, nofun, nofun⟩
    cases List.mem_singleton.mp member
    exact Nat.zero_lt_one

theorem make (mirrors : Mirrors binding contexts) (fields : Fields) :
    Mirrors (binding.make fields).2 contexts where
  contents := by
    rw [← mirrors.contents]
    refine List.map_congr_left fun mapping member => ?_
    cases mapping with
    | none => rfl
    | some number => exact read_make_old (mirrors.made number member) fields
  made number member := by
    rw [length_make]
    exact Nat.lt_succ_of_lt (mirrors.made number member)
  handed number member := by
    rw [length_make]
    exact Nat.lt_succ_of_lt (mirrors.handed number member)
  apart := mirrors.apart

theorem hand (mirrors : Mirrors binding contexts) : Mirrors binding.hand.2 contexts := by
  have next := mirrors.make binding.content
  have fresh : some binding.mappings.length ∉ binding.bound :: binding.tokens :=
    fun member => Nat.lt_irrefl _ (mirrors.made _ member)
  refine ⟨next.contents, next.made, fun number member => ?_, fun number member => ?_⟩
  · rcases List.mem_cons.mp member with rfl | older
    · exact Nat.lt_of_lt_of_eq (Nat.lt_succ_self _) (length_make binding.content).symm
    · exact next.handed number older
  · rcases List.mem_cons.mp member with rfl | older
    · exact fresh
    · exact mirrors.apart number older

theorem change (mirrors : Mirrors binding contexts) {mapping : Nat}
    (copied : mapping ∈ binding.copies) (how : Fields → Fields) :
    Mirrors (binding.change mapping how) contexts where
  contents := by
    rw [← mirrors.contents]
    refine List.map_congr_left fun other member => ?_
    cases other with
    | none => rfl
    | some number =>
      refine read_change (fun same => ?_) how
      exact mirrors.apart mapping copied (same ▸ member)
  made number member := by
    rw [length_change]
    exact mirrors.made number member
  handed number member := by
    rw [length_change]
    exact mirrors.handed number member
  apart := mirrors.apart

theorem bind (mirrors : Mirrors binding contexts) {mapping : Nat}
    (made : mapping < binding.mappings.length) (fresh : mapping ∉ binding.copies) :
    Mirrors (binding.bind mapping) (binding.read (some mapping) :: contexts) where
  contents := congrArg (List.cons _) mirrors.contents
  made number member := by
    rcases List.mem_cons.mp member with same | older
    · cases same
      exact made
    · exact mirrors.made number older
  handed := mirrors.handed
  apart number member named := by
    rcases List.mem_cons.mp named with same | older
    · cases same
      exact fresh member
    · exact mirrors.apart number member older

theorem enter (mirrors : Mirrors binding contexts) (fields : Fields) :
    Mirrors (binding.enter fields).2 (contexts.enter fields) := by
  have copied : Mirrors binding.copy.2 contexts := mirrors.make binding.content
  have read : binding.copy.2.read (some binding.copy.1) = binding.content := read_make_new _
  let top := Entries.merge (binding.copy.2.read (some binding.copy.1)) fields.given
  have length : (binding.copy.2.make top).1 < (binding.copy.2.make top).2.mappings.length := by
    rw [length_make]
    exact Nat.lt_succ_self _
  -- Only mappings made before can have been handed out.
  have fresh : (binding.copy.2.make top).1 ∉ (binding.copy.2.make top).2.copies :=
    fun member => Nat.lt_irrefl _ (copied.handed _ member)
  have bound := (copied.make top).bind length fresh
  have opened : contexts.enter fields = top :: contexts := by
    rw [Contexts.enter, ← mirrors.content, ← read]
  rw [read_make_new] at bound
  exact opened ▸ bound

theorem leave {level outer : Fields} {rest : Contexts}
    (mirrors : Mirrors binding (level :: outer :: rest)) (ending : Except Fault Unit) :
    Mirrors (binding.leave ending).2 (outer :: rest) := by
  obtain ⟨mappings, bound, tokens, copies⟩ := binding
  cases tokens with
  | nil => cases (List.cons.inj mirrors.contents).2
  | cons before tokens =>
    refine ⟨(List.cons.inj mirrors.contents).2, fun number member => ?_, mirrors.handed,
      fun number member named => ?_⟩
    · exact mirrors.made number (List.mem_cons_of_mem _ member)
    · exact mirrors.apart number member (List.mem_cons_of_mem _ named)

theorem leave_ambient {level : Fields} (mirrors : Mirrors binding [level])
    (ending : Except Fault Unit) : Mirrors (binding.leave ending).2 [level] := by
  obtain ⟨mappings, bound, tokens, copies⟩ := binding
  cases tokens with
  | nil => exact mirrors
  | cons before tokens => cases (List.cons.inj mirrors.contents).2

theorem step {scopes : List Fields} {ambient : Fields}
    (mirrors : Mirrors binding (levels ambient scopes)) (use : Use) :
    Mirrors (binding.step use) (levels ambient (use.opened scopes)) := by
  cases use with
  | enter fields => exact mirrors.enter fields
  | leave ending =>
    match scopes with
    | [] => exact mirrors.leave_ambient ending
    | [_] => exact mirrors.leave ending
    | _ :: _ :: _ => exact mirrors.leave ending
  | hand => exact mirrors.hand
  | change which how =>
    cases found : binding.copies[which]? with
    | none =>
      simp only [Binding.step, found]
      exact mirrors
    | some mapping =>
      simp only [Binding.step, found]
      exact mirrors.change (List.mem_of_getElem? found) how

theorem follow {scopes : List Fields} {ambient : Fields}
    (mirrors : Mirrors binding (levels ambient scopes)) (uses : List Use) :
    Mirrors (binding.follow uses) (levels ambient (uses.foldl Use.opened scopes)) := by
  induction uses generalizing binding scopes with
  | nil => exact mirrors
  | cons use rest ih => exact ih (mirrors.step use)

end Mirrors

/-- After any uses the context holds what the open contexts give, whatever became of its copies. -/
theorem content_follow (fields : Option Fields) (uses : List Use) :
    ((ambient fields).follow uses).content = merged (fields.getD []) (openedBy uses) := by
  have mirrors : Mirrors (ambient fields) (levels (fields.getD []) []) := .ambient fields
  rw [(mirrors.follow uses).content, current_levels]
  rfl

theorem follow_balanced {uses : List Use} (balanced : Balanced uses) (binding : Binding) :
    (binding.follow uses).bound = binding.bound ∧
      (binding.follow uses).tokens = binding.tokens := by
  induction balanced generalizing binding with
  | nil => exact ⟨rfl, rfl⟩
  | hand _ ih => exact ih binding.hand.2
  | @change which how rest _ ih =>
    have still : (binding.step (.change which how)).bound = binding.bound ∧
        (binding.step (.change which how)).tokens = binding.tokens := by
      simp only [step]
      split <;> exact ⟨rfl, rfl⟩
    obtain ⟨bound, tokens⟩ := ih (binding.step (.change which how))
    exact ⟨bound.trans still.1, tokens.trans still.2⟩
  | @scope fields ending inner rest _ _ innerIH restIH =>
    let inside := (binding.step (.enter fields)).follow inner
    obtain ⟨_, kept⟩ := innerIH (binding.step (.enter fields))
    have left : (inside.step (.leave ending)).bound = binding.bound ∧
        (inside.step (.leave ending)).tokens = binding.tokens := by
      have tokens : inside.tokens = binding.bound :: binding.tokens := kept
      simp only [step, leave, tokens, and_self]
    have whole : binding.follow (.enter fields :: (inner ++ .leave ending :: rest))
        = (inside.step (.leave ending)).follow rest := by
      simp only [follow, List.foldl_cons, List.foldl_append]
      rfl
    obtain ⟨bound, tokens⟩ := restIH (inside.step (.leave ending))
    rw [whole]
    exact ⟨bound.trans left.1, tokens.trans left.2⟩

/-- Leaving a context brings back exactly the context before it was entered. -/
theorem follow_scope (fields : Option Fields) (before : List Use) {inner : List Use}
    (balanced : Balanced inner) (entered : Fields) (ending : Except Fault Unit) :
    let outside := (ambient fields).follow before
    let after := outside.follow (.enter entered :: (inner ++ [.leave ending]))
    after.bound = outside.bound ∧ after.tokens = outside.tokens ∧
      after.content = outside.content := by
  intro outside after
  have scope : Balanced (.enter entered :: (inner ++ [.leave ending])) := .scope balanced .nil
  obtain ⟨bound, tokens⟩ := follow_balanced scope outside
  have whole : after
      = (ambient fields).follow (before ++ .enter entered :: (inner ++ [.leave ending])) :=
    (List.foldl_append ..).symm
  refine ⟨bound, tokens, ?_⟩
  rw [whole, content_follow, content_follow, openedBy, List.foldl_append, scope.opened]
  rfl

end Binding

end LoanDispatch.Log
