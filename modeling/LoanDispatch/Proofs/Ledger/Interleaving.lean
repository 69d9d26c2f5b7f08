import LoanDispatch.Proofs.Ledger.Order
import Mathlib.Data.List.Induction

/-!
Interleaved submissions.  Several orders to one tab are carried out side by side, one request at a
time in the order of any schedule, and any request may fail.  `Orderly` is what holds between two
steps: each task goes on as its order's script may, in the tab as the others have left it.
-/

set_option autoImplicit false

namespace LoanDispatch.Ledger

open Spreadsheet

section Steps

variable {σ : Type} {around : Surroundings σ} {book : σ → Workbook} {map : ColumnMap} {tab : Tab}
  {others : List Value → Prop} {order : Order}

theorem HasRow.extend {title : String} {holds : List Value → Prop} {initial : Workbook}
    (stands : HasRow title holds initial) (rows : List (List Value)) :
    HasRow title holds (initial.extend title rows) := by
  obtain ⟨tab, found, row, member, marked⟩ := stands
  have filled : tab.rows ≠ [] := by
    intro empty
    simp [dataRows, empty] at member
  refine ⟨tab.extend rows, Workbook.tab?_extend found rows, row, ?_, marked⟩
  rw [dataRows_extend filled]
  exact List.mem_append_left rows member

/-- Rows that others append do no harm to a task, and none at all to one that has ended. -/
theorem Order.Keeps.drift {task : Task Outcome} {standing : Standing} {rows : List (List Value)}
    (keeps : order.Keeps map tab others task.script standing)
    (spared : task.result? = none → ∀ row ∈ rows, others row) :
    order.Keeps map tab others task.script
      ⟨standing.book.extend tab.title rows, standing.made⟩ := by
  have stable : ∀ (result : Except Fault Outcome) (now : Standing) (more : List (List Value)),
      Placed tab.title (Own map tab order.mark) (fun outcome => outcome.success = true) result now →
        Placed tab.title (Own map tab order.mark) (fun outcome => outcome.success = true) result
          ⟨now.book.extend tab.title more, now.made⟩ :=
    fun result now more placed outcome same succeeded =>
      (placed outcome same succeeded).extend more
  cases ended : task.result? with
  | some result =>
    rw [Order.Keeps, Task.script_of_result? ended] at keeps ⊢
    exact stable result standing rows keeps
  | none =>
    refine Script.Meets.drift keeps ?_ ?_ ⟨rows, spared ended, rfl⟩
    · intro first second third earlier later
      obtain ⟨some, kinds, rfl⟩ := earlier
      obtain ⟨more, moreKinds, rfl⟩ := later
      refine ⟨some ++ more, fun row member => ?_, by simp only [Workbook.extend_extend]⟩
      exact (List.mem_append.mp member).elim (kinds row) (moreKinds row)
    · intro result first second placed later
      obtain ⟨more, _, rfl⟩ := later
      exact stable result first more placed

theorem Order.Keeps.step (serves : Serves around book) {task : Task Outcome} {world : World σ}
    {made : Nat} (keeps : order.Keeps map tab others task.script ⟨book world.state, made⟩)
    (waits : task.script.Waits) :
    ∃ rows, Added map tab others order ⟨book world.state, made⟩ rows ∧
      (rows ≠ [] → task.result? = none) ∧
      book (task.step around world).2.state = (book world.state).extend tab.title rows ∧
      order.Keeps map tab others (task.step around world).1.script
        ⟨(book world.state).extend tab.title rows, made + 1⟩ ∧
      (task.step around world).1.script.Waits := by
  obtain ⟨script, contexts⟩ := task
  cases script with
  | done result =>
    exact ⟨[], .nil, fun given => absurd rfl given, (Workbook.extend_nil _ _).symm,
      by rw [Workbook.extend_nil]; exact keeps, trivial⟩
  | sheet request next =>
    obtain ⟨allowed, goesOn⟩ := keeps ⟨book world.state, made⟩
      ⟨[], fun _ member => absurd member List.not_mem_nil, by rw [Workbook.extend_nil]⟩
    have answers := serves request world.state
    obtain ⟨rows, added, grown⟩ := Added.of_allowed allowed answers
    have later := goesOn _ ⟨book (around.sheet request world.state).2, made + 1⟩ ⟨answers, rfl⟩
    rw [grown] at later
    have steady : Script.Steady fun (after : World σ) (_ : Standing) =>
        book after.state = (book world.state).extend tab.title rows :=
      ⟨fun _ _ seen => seen, fun seen => seen⟩
    have reached : book (world.answerSheet around request).2.state
        = (book world.state).extend tab.title rows := grown
    obtain ⟨seen, meets, waiting⟩ := later.advance steady reached around contexts
    exact ⟨rows, added, fun _ => rfl, seen, meets, waiting⟩
  | note words rest => exact waits.elim
  | enter fields rest => exact waits.elim
  | leave rest => exact waits.elim
  | clock next => exact waits.elim
  | partner request next => exact waits.elim

end Steps

/-- The task has taken a step and has not ended. -/
def UnderWay {σ : Type} (taken : List Nat) (team : Team Outcome σ) (index : Nat) : Prop :=
  index ∈ taken ∧ ∃ task, team.tasks[index]? = some task ∧ task.result? = none

section Teams

variable {σ : Type} {around : Surroundings σ} {book : σ → Workbook} {initial : Workbook}
  {registry : Registry} {map : ColumnMap} {tab : Tab} {orders : List Order}
  {others : Order → List Value → Prop} {taken : List Nat} {team : Team Outcome σ}

/-- Between two steps of a team: it has only added rows to the tab, a task that has taken no step can
start whatever rows are added, and every other one goes on as its order's script may, as long as
the others append only what the order can bear. -/
structure Orderly (book : σ → Workbook) (initial : Workbook) (map : ColumnMap) (tab : Tab)
    (orders : List Order) (others : Order → List Value → Prop) (taken : List Nat)
    (team : Team Outcome σ) : Prop where
  aligned : team.tasks.length = orders.length
  waits : ∀ task ∈ team.tasks, task.script.Waits
  grown : ∃ rows, book team.world.state = initial.extend tab.title rows
  fresh : ∀ {index order task}, orders[index]? = some order → team.tasks[index]? = some task →
    index ∉ taken → ∀ others rows,
      order.Keeps map tab others task.script ⟨initial.extend tab.title rows, 0⟩
  started : ∀ {index order task}, orders[index]? = some order → team.tasks[index]? = some task →
    index ∈ taken →
      order.Keeps map tab (others order) task.script
        ⟨book team.world.state, taken.count index⟩

theorem Orderly.keeps (orderly : Orderly book initial map tab orders others taken team)
    {index : Nat} {order : Order} {task : Task Outcome} (placed : orders[index]? = some order)
    (running : team.tasks[index]? = some task) :
    order.Keeps map tab (others order) task.script
      ⟨book team.world.state, taken.count index⟩ := by
  by_cases member : index ∈ taken
  · exact orderly.started placed running member
  · obtain ⟨rows, grown⟩ := orderly.grown
    rw [grown, List.count_eq_zero.mpr member]
    exact orderly.fresh placed running member (others order) rows

structure Turn (book : σ → Workbook) (map : ColumnMap) (tab : Tab) (orders : List Order)
    (others : Order → List Value → Prop) (taken : List Nat) (team after : Team Outcome σ)
    (index : Nat) (rows : List (List Value)) : Prop where
  grown : book after.world.state = (book team.world.state).extend tab.title rows
  kept : ∀ other, other ≠ index → after.tasks[other]? = team.tasks[other]?
  aligned : after.tasks.length = team.tasks.length
  added : rows ≠ [] → ∃ order task, orders[index]? = some order ∧
    team.tasks[index]? = some task ∧ task.result? = none ∧
    Added map tab (others order) order ⟨book team.world.state, taken.count index⟩ rows
  keeps : ∀ {order task}, orders[index]? = some order → after.tasks[index]? = some task →
    order.Keeps map tab (others order) task.script
      ⟨book after.world.state, (taken ++ [index]).count index⟩
  waits : ∀ task ∈ after.tasks, task.script.Waits

/-- Whoever's turn it is adds what its order may. -/
theorem Orderly.turn (orderly : Orderly book initial map tab orders others taken team)
    (serves : Serves around book) (index : Nat) :
    ∃ rows, Turn book map tab orders others taken team (team.step around index) index rows := by
  cases running : team.tasks[index]? with
  | none =>
    have same : team.step around index = team := by simp only [Team.step, running]
    rw [same]
    exact ⟨[], (Workbook.extend_nil _ _).symm, fun _ _ => rfl, rfl,
      fun filled => absurd rfl filled, fun _ there => absurd (running.symm.trans there) nofun,
      orderly.waits⟩
  | some task =>
    have inside : index < orders.length := by
      rw [← orderly.aligned]
      exact (List.getElem?_eq_some_iff.mp running).1
    have placed : orders[index]? = some orders[index] := List.getElem?_eq_getElem inside
    have waiting := orderly.waits task (List.mem_of_getElem? running)
    obtain ⟨rows, added, ongoing, grown, keeps, waits⟩ :=
      (orderly.keeps placed running).step serves waiting
    have shape : team.step around index
        = ⟨team.tasks.set index (task.step around team.world).1,
            (task.step around team.world).2⟩ := by simp only [Team.step, running]
    rw [shape]
    refine ⟨rows, grown, fun other different => List.getElem?_set_ne different.symm,
      List.length_set, fun given => ⟨_, task, placed, running, ongoing given, added⟩, ?_, ?_⟩
    · intro order next there stepped
      obtain rfl := Option.some.inj (placed.symm.trans there)
      have position : index < team.tasks.length := orderly.aligned ▸ inside
      obtain rfl : (task.step around team.world).1 = next := by
        simpa [List.getElem?_set_self position] using stepped
      rw [List.count_append, List.count_singleton_self]
      simpa only [grown] using keeps
    · intro other member
      rcases List.mem_or_eq_of_mem_set member with earlier | rfl
      · exact orderly.waits other earlier
      · exact waits

/-- A step keeps a team orderly when those that are under way can bear each other's rows. -/
theorem Orderly.step (orderly : Orderly book initial map tab orders others taken team)
    {after : Team Outcome σ} {index : Nat} {rows : List (List Value)}
    (turn : Turn book map tab orders others taken team after index rows)
    (spared : ∀ {first second one other}, first ≠ second → orders[first]? = some one →
      orders[second]? = some other → UnderWay taken team first → UnderWay taken team second →
        ∀ row, Own map tab one.mark row → others other row) :
    Orderly book initial map tab orders others (taken ++ [index]) after := by
  refine ⟨turn.aligned.trans orderly.aligned, turn.waits, ?_, ?_, ?_⟩
  · obtain ⟨earlier, grown⟩ := orderly.grown
    exact ⟨earlier ++ rows, by rw [turn.grown, grown, Workbook.extend_extend]⟩
  · intro other order task placed running absent
    have untouched : other ∉ taken ∧ other ≠ index := by simpa using absent
    rw [turn.kept other untouched.2] at running
    exact orderly.fresh placed running untouched.1
  · intro other order task placed running member
    by_cases same : other = index
    · subst same
      exact turn.keeps placed running
    · have before : other ∈ taken := by simpa [same] using member
      have count : (taken ++ [index]).count other = taken.count other := by
        have none : [index].count other = 0 := List.count_eq_zero.mpr (by simpa using same)
        rw [List.count_append, none, Nat.add_zero]
      rw [turn.kept other same] at running
      rw [turn.grown, count]
      refine (orderly.started placed running before).drift fun unended row rowMember => ?_
      obtain ⟨one, stepping, onePlaced, oneRunning, ongoing, added⟩ :=
        turn.added (List.ne_nil_of_mem rowMember)
      -- An append is a fourth request, so whoever makes it is under way.
      have fourth : taken.count index = 3 := added.fourth (List.ne_nil_of_mem rowMember)
      have begun : index ∈ taken := List.count_pos_iff.mp (by rw [fourth]; decide)
      exact spared (Ne.symm same) onePlaced placed ⟨begun, stepping, oneRunning, ongoing⟩
        ⟨before, task, running, unended⟩ row (added.marked row rowMember)

private theorem startAll_fresh (around : Surroundings σ) (book : σ → Workbook) (orders : List Order) (world : World σ)
    (each : ∀ order ∈ orders, ∀ others rows,
      order.Keeps map tab others (order.script registry) ⟨initial.extend tab.title rows, 0⟩) :
    book (Team.startAll around (orders.map fun order => ⟨order.script registry, []⟩) world).2.state
        = book world.state ∧
      List.Forall₂
        (fun order task => task.script.Waits ∧ ∀ others rows,
          order.Keeps map tab others task.script ⟨initial.extend tab.title rows, 0⟩)
        orders
        (Team.startAll around (orders.map fun order => ⟨order.script registry, []⟩) world).1 := by
  induction orders generalizing world with
  | nil => exact ⟨rfl, .nil⟩
  | cons order rest ih =>
    have steady : Script.Steady fun (after : World σ) (_ : Standing) =>
        book after.state = book world.state :=
      ⟨fun _ _ seen => seen, fun seen => seen⟩
    have first := fun others rows =>
      (each order List.mem_cons_self others rows).advance steady
        (rfl : book world.state = book world.state) around []
    obtain ⟨seen, fresh⟩ :=
      ih (Task.advance around ⟨order.script registry, []⟩ world).2 fun other member =>
        each other (List.mem_cons_of_mem order member)
    exact ⟨seen.trans (first (fun _ => True) []).1,
      .cons ⟨(first (fun _ => True) []).2.2, fun others rows => (first others rows).2.1⟩ fresh⟩

theorem orderly_start (around : Surroundings σ) (others : Order → List Value → Prop)
    (reachable : registry.Reachable) (filled : tab.rows ≠ []) {world : World σ}
    (suits : ∀ order ∈ orders, order.Suits registry map (book world.state) tab) :
    Orderly book (book world.state) map tab orders others []
        (Team.start around (orders.map (Order.script registry)) world) ∧
      book (Team.start around (orders.map (Order.script registry)) world).world.state
        = book world.state := by
  have each : ∀ order ∈ orders, ∀ others rows,
      order.Keeps map tab others (order.script registry)
        ⟨(book world.state).extend tab.title rows, 0⟩ :=
    fun order member others rows =>
      order.script_keeps reachable (suits order member) filled others rows
  obtain ⟨seen, fresh⟩ := startAll_fresh around book orders world each
  have shape : Team.start around (orders.map (Order.script registry)) world
      = ⟨(Team.startAll around (orders.map fun order => ⟨order.script registry, []⟩) world).1,
          (Team.startAll around (orders.map fun order => ⟨order.script registry, []⟩) world).2⟩ := by
    rw [Team.start, List.map_map]
    rfl
  rw [shape]
  refine ⟨⟨fresh.length_eq.symm, ?_, ⟨[], by rw [Workbook.extend_nil]; exact seen⟩, ?_, ?_⟩, seen⟩
  · intro task member
    obtain ⟨index, inside, rfl⟩ := List.mem_iff_getElem.mp member
    exact (fresh.get (fresh.length_eq ▸ inside) inside).1
  · intro index order task placed running _
    obtain ⟨inside, rfl⟩ := List.getElem?_eq_some_iff.mp placed
    obtain ⟨within, rfl⟩ := List.getElem?_eq_some_iff.mp running
    exact (fresh.get inside within).2
  · intro index order task _ _ member
    exact absurd member List.not_mem_nil

end Teams

def rowsOf (title : String) (book : Workbook) : List (List Value) :=
  ((book.tab? title).map Tab.rows).getD []

/-- Whose turn each step of a schedule is, with the rows that the step adds to the tab. -/
def additions {σ : Type} (around : Surroundings σ) (book : σ → Workbook) (title : String) :
    List Nat → Team Outcome σ → List (Nat × List (List Value))
  | [], _ => []
  | index :: rest, team =>
    let after := team.step around index
    (index, (rowsOf title (book after.world.state)).drop
        (rowsOf title (book team.world.state)).length)
      :: additions around book title rest after

/-- The rows that the steps of one task add. -/
def rowsBy (index : Nat) (added : List (Nat × List (List Value))) : List (List Value) :=
  (added.filter fun entry => entry.1 == index).flatMap Prod.snd

/-- No two orders with the same mark are ever under way together. -/
def SameApart {σ : Type} (around : Surroundings σ) (orders : List Order) (schedule : List Nat)
    (team : Team Outcome σ) : Prop :=
  ∀ taken, taken <+: schedule → ∀ first second one other, first ≠ second →
    orders[first]? = some one → orders[second]? = some other → one.mark = other.mark →
      ¬ (UnderWay taken (team.follow around taken) first ∧
        UnderWay taken (team.follow around taken) second)

section Runs

variable {σ : Type} {around : Surroundings σ} {book : σ → Workbook} {initial : Workbook}
  {map : ColumnMap} {tab : Tab} {orders : List Order} {team : Team Outcome σ}

theorem additions_append (title : String) (first second : List Nat) (team : Team Outcome σ) :
    additions around book title (first ++ second) team
      = additions around book title first team
        ++ additions around book title second (team.follow around first) := by
  induction first generalizing team with
  | nil => rfl
  | cons index rest ih =>
    simp only [List.cons_append, additions, ih, Team.follow, List.foldl_cons]

theorem rowsOf_extend {title : String} {here : Tab} (found : initial.tab? title = some here)
    (rows : List (List Value)) :
    rowsOf title (initial.extend title rows) = rowsOf title initial ++ rows := by
  simp [rowsOf, found, Workbook.tab?_extend found, Tab.extend]

theorem follow_concat (taken : List Nat) (index : Nat) (team : Team Outcome σ) :
    team.follow around (taken ++ [index]) = (team.follow around taken).step around index := by
  simp [Team.follow]

theorem Turn.additions_concat {others : Order → List Value → Prop} {taken : List Nat}
    {index : Nat} {rows : List (List Value)}
    (turn : Turn book map tab orders others taken (team.follow around taken)
      (team.follow around (taken ++ [index])) index rows)
    {here : Tab} (found : (book (team.follow around taken).world.state).tab? tab.title = some here) :
    additions around book tab.title (taken ++ [index]) team
      = additions around book tab.title taken team ++ [(index, rows)] := by
  have dropped : (rowsOf tab.title
        (book (team.follow around (taken ++ [index])).world.state)).drop
        (rowsOf tab.title (book (team.follow around taken).world.state)).length = rows := by
    rw [turn.grown, rowsOf_extend found, List.drop_left]
  rw [additions_append, additions, additions, ← follow_concat, dropped]

/-- A task's rows are none up to its third step and one at most afterwards. -/
theorem Turn.rowsBy_le {others : Order → List Value → Prop} {taken : List Nat}
    {after : Team Outcome σ} {index : Nat} {rows : List (List Value)}
    (turn : Turn book map tab orders others taken team after index rows)
    {added : List (Nat × List (List Value))} (other : Nat)
    (few : (rowsBy other added).length ≤ if taken.count other ≤ 3 then 0 else 1) :
    (rowsBy other (added ++ [(index, rows)])).length
      ≤ if (taken ++ [index]).count other ≤ 3 then 0 else 1 := by
  by_cases same : index = other
  · subst same
    have total : rowsBy index (added ++ [(index, rows)]) = rowsBy index added ++ rows := by
      simp [rowsBy]
    rw [total, List.length_append, List.count_append, List.count_singleton_self]
    by_cases empty : rows = []
    · rw [empty, List.length_nil]
      split <;> split at few <;> omega
    · obtain ⟨order, task, _, _, _, appended⟩ := turn.added empty
      have fourth : taken.count index = 3 := appended.fourth empty
      have single := appended.single
      rw [fourth, if_pos (Nat.le_refl 3)] at few
      rw [fourth, if_neg (by omega)]
      omega
  · have total : rowsBy other (added ++ [(index, rows)]) = rowsBy other added := by
      simp [rowsBy, same]
    have none : [index].count other = 0 :=
      List.count_eq_zero.mpr (by simpa using fun equal => same equal.symm)
    rw [total, List.count_append, none]
    exact few

/-- Over a run a team adds what its steps add, and each task adds one row at most. -/
theorem follow_adds (serves : Serves around book) (found : initial.tab? tab.title = some tab)
    (began : book team.world.state = initial)
    (orderly : Orderly book initial map tab orders (fun _ _ => True) [] team)
    (schedule : List Nat) :
    Orderly book initial map tab orders (fun _ _ => True) schedule
        (team.follow around schedule) ∧
      book (team.follow around schedule).world.state
        = initial.extend tab.title
            ((additions around book tab.title schedule team).flatMap Prod.snd) ∧
      ∀ index, (rowsBy index (additions around book tab.title schedule team)).length
        ≤ if schedule.count index ≤ 3 then 0 else 1 := by
  induction schedule using List.reverseRecOn with
  | nil => exact ⟨orderly, by simp [additions, Team.follow, began], fun index => Nat.zero_le _⟩
  | append_singleton taken index ih =>
    obtain ⟨orderly, grown, few⟩ := ih
    obtain ⟨rows, turn⟩ := orderly.turn serves index
    rw [← follow_concat] at turn
    have there := Workbook.tab?_extend found
      ((additions around book tab.title taken team).flatMap Prod.snd)
    rw [← grown] at there
    rw [turn.additions_concat there]
    refine ⟨orderly.step turn fun _ _ _ _ _ _ _ => trivial, ?_,
      fun other => turn.rowsBy_le other (few other)⟩
    rw [turn.grown, grown, Workbook.extend_extend]
    simp

/-- While orders with the same mark keep apart, no mark gets a second copy. -/
theorem follow_apart (serves : Serves around book) (found : initial.tab? tab.title = some tab)
    (filled : tab.rows ≠ []) (began : book team.world.state = initial)
    (orderly : Orderly book initial map tab orders
      (fun order row => ¬ Own map tab order.mark row) [] team)
    {schedule : List Nat} (apart : SameApart around orders schedule team) (taken : List Nat)
    (reached : taken <+: schedule) :
    Orderly book initial map tab orders (fun order row => ¬ Own map tab order.mark row) taken
        (team.follow around taken) ∧
      ∀ mark, copies tab.title (identifierIndex map (headerTexts tab)) mark
          (book (team.follow around taken).world.state)
        ≤ max 1 (copies tab.title (identifierIndex map (headerTexts tab)) mark initial) := by
  induction taken using List.reverseRecOn with
  | nil => exact ⟨orderly, fun mark => began ▸ Nat.le_max_right _ _⟩
  | append_singleton taken index ih =>
    have before : taken <+: schedule := (List.prefix_append taken [index]).trans reached
    obtain ⟨orderly, few⟩ := ih before
    obtain ⟨rows, turn⟩ := orderly.turn serves index
    rw [← follow_concat] at turn
    refine ⟨orderly.step turn ?_, fun mark => ?_⟩
    · intro first second one other different onePlaced otherPlaced oneGoes otherGoes row mine theirs
      exact apart taken before first second one other different onePlaced otherPlaced
        (carries_unique mine theirs) ⟨oneGoes, otherGoes⟩
    · obtain ⟨earlier, grown⟩ := orderly.grown
      have there := Workbook.tab?_extend found earlier
      rw [← grown] at there
      have further : copies tab.title (identifierIndex map (headerTexts tab)) mark
          ((book (team.follow around taken).world.state).extend tab.title rows)
          ≤ max 1 (copies tab.title (identifierIndex map (headerTexts tab)) mark
            (book (team.follow around taken).world.state)) := by
        by_cases empty : rows = []
        · rw [empty, Workbook.extend_nil]
          exact Nat.le_max_right _ _
        · obtain ⟨order, task, _, _, _, added⟩ := turn.added empty
          exact (added.appends fun _ => id).copies_le there (Tab.extend_filled filled _) mark
      have bound := few mark
      rw [turn.grown]
      omega

/-- Submissions that interleave in any way: each appends one row at most and no stored row changes;
each that has succeeded has a row in the tab; and while those with the same mark keep apart, no mark
gets a second row. -/
theorem submissions_interleave {registry : Registry} {world : World σ}
    (reachable : registry.Reachable) (serves : Serves around book)
    (fits : Fits map (headerTexts tab))
    (suits : ∀ order ∈ orders, order.Suits registry map (book world.state) tab)
    (found : (book world.state).tab? tab.title = some tab) (schedule : List Nat) :
    let team := Team.start around (orders.map (Order.script registry)) world
    let after := team.follow around schedule
    (book after.world.state
        = (book world.state).extend tab.title
            ((additions around book tab.title schedule team).flatMap Prod.snd) ∧
      ∀ index, (rowsBy index (additions around book tab.title schedule team)).length ≤ 1) ∧
    (∀ (index : Nat) (order : Order) (task : Task Outcome) (outcome : Outcome),
      orders[index]? = some order → after.tasks[index]? = some task →
        task.result? = some (.ok outcome) → outcome.success = true →
        HasRow tab.title (Own map tab order.mark) (book after.world.state)) ∧
    (SameApart around orders schedule team → ∀ taken, taken <+: schedule → ∀ mark,
      copies tab.title (identifierIndex map (headerTexts tab)) mark (book world.state) ≤ 1 →
        copies tab.title (identifierIndex map (headerTexts tab)) mark
          (book (team.follow around taken).world.state) ≤ 1) := by
  intro team after
  have filled := rows_ne_nil_of_fits fits
  obtain ⟨start, began⟩ :=
    orderly_start around (fun _ _ => True) reachable filled suits
  obtain ⟨orderly, grown, few⟩ := follow_adds serves found began start schedule
  refine ⟨⟨grown, fun index => Nat.le_trans (few index) (by split <;> omega)⟩, ?_, ?_⟩
  · intro index order task outcome placed running ended succeeded
    have keeps := orderly.keeps placed running
    rw [Order.Keeps, Task.script_of_result? ended] at keeps
    exact keeps outcome rfl succeeded
  · intro apart taken reached mark once
    obtain ⟨apartStart, _⟩ :=
      orderly_start around (fun order row => ¬ Own map tab order.mark row) reachable filled suits
    exact Nat.le_trans
      ((follow_apart serves found filled began apartStart apart taken reached).2 mark)
      (Nat.max_le.mpr ⟨Nat.le_refl 1, once⟩)

/-- Two applications that take turns at the smallest ledger. -/
theorem pair_takes_turns :
    let around := smallSurroundings .plain
    let team := Team.start around ([smallOrder "A-1", smallOrder "A-2"].map
      (Order.script smallRegistry)) (World.fresh (smallBook []) 0)
    (∀ index, (rowsBy index
      (additions around id (smallTab []).title (Team.turns 2 4) team)).length ≤ 1) ∧
    ∀ mark, copies (smallTab []).title 0 mark
      (id (team.follow around (Team.turns 2 4)).world.state) ≤ 1 := by
  have serves : Serves (smallSurroundings .plain) id := Service.serves rfl rfl _
  have suits : ∀ order ∈ [smallOrder "A-1", smallOrder "A-2"],
      order.Suits smallRegistry smallMap (smallBook []) (smallTab []) := by
    intro order member
    rcases List.mem_cons.mp member with rfl | later
    · exact smallOrder_suits "A-1" []
    · exact List.mem_singleton.mp later ▸ smallOrder_suits "A-2" []
  obtain ⟨⟨_, few⟩, _, once⟩ :=
    @submissions_interleave _ _ _ _ _ _ _ (World.fresh (smallBook []) 0) smallRegistry_reachable
      serves (smallTab_fits []) suits (smallTab_found []) (Team.turns 2 4)
  have marks : ([smallOrder "A-1", smallOrder "A-2"].map Order.mark).Nodup := by decide +kernel
  have empty : ∀ mark, copies (smallTab []).title 0 mark (smallBook []) = 0 := by
    intro mark
    simp only [copies, smallTab_found, Option.map_some, Option.getD_some]
    rfl
  refine ⟨few, fun mark => ?_⟩
  rw [smallTab_column] at once
  refine once ?_ (Team.turns 2 4) List.prefix_rfl mark
    (Nat.le_trans (Nat.le_of_eq (empty mark)) (Nat.zero_le 1))
  intro taken _ first second one other different here there same
  have inside : first < ([smallOrder "A-1", smallOrder "A-2"].map Order.mark).length := by
    rw [List.length_map]
    exact (List.getElem?_eq_some_iff.mp here).1
  have equal : ([smallOrder "A-1", smallOrder "A-2"].map Order.mark)[first]?
      = ([smallOrder "A-1", smallOrder "A-2"].map Order.mark)[second]? := by
    rw [List.getElem?_map, List.getElem?_map, here, there, Option.map_some, Option.map_some, same]
  exact absurd ((List.getElem?_inj inside marks).mp equal) different

end Runs

end LoanDispatch.Ledger
