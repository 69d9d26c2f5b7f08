import LoanDispatch.Proofs.Ledger.Finding
import LoanDispatch.Proofs.Ledger.Order

/-!
Submissions one after another.  Any request of any of them may fail, and a failed append may have
stored its row.  Still no mark ever gets a second row, and an application that stands in a row is
found there by every later submission that is not disturbed.
-/

set_option autoImplicit false

namespace LoanDispatch.Ledger

open Spreadsheet

/-- Carries out orders one after another. -/
def carryOut {σ : Type} (around : Surroundings σ) (registry : Registry) (contexts : Log.Contexts)
    (orders : List Order) (world : World σ) : World σ :=
  orders.foldl (fun world order => ((order.script registry).run around contexts world).2.2) world

/-- While an order is carried out, seen from the workbook that it began with: it has appended
nothing until its fourth request, and what it may since. -/
def Progress {σ : Type} (book : σ → Workbook) (map : ColumnMap) (tab : Tab) (mark : String)
    (began : Workbook) (world : World σ) (now : Standing) : Prop :=
  now.book = book world.state ∧ ∃ rows, book world.state = began.extend tab.title rows ∧
    Appends tab.title (identifierIndex map (headerTexts tab)) mark began rows ∧
    (rows ≠ [] → 3 < now.made)

section Runs

variable {σ : Type} {around : Surroundings σ} {book : σ → Workbook} {registry : Registry}
  {map : ColumnMap} {tab : Tab} {order : Order} {contexts : Log.Contexts} {world : World σ}

theorem run_appends (reachable : registry.Reachable) (serves : Serves around book)
    (suits : order.Suits registry map (book world.state) tab) (filled : tab.rows ≠ []) :
    ∃ rows,
      book ((order.script registry).run around contexts world).2.2.state
        = (book world.state).extend tab.title rows ∧
      Appends tab.title (identifierIndex map (headerTexts tab)) order.mark (book world.state)
        rows := by
  have keeps := order.script_keeps reachable suits filled (fun _ => False) []
  rw [Workbook.extend_nil] at keeps
  have still : ∀ now : Standing,
      (sharedTerms tab.title (fun _ => False) (Own map tab order.mark)).drift now now :=
    fun now => ⟨[], fun _ member => absurd member List.not_mem_nil, by rw [Workbook.extend_nil]⟩
  have steady : Script.Steady (Progress book map tab order.mark (book world.state)) :=
    ⟨fun _ _ seen => seen, fun seen => seen⟩
  have along : (order.script registry).Along around
      (fun before request answer after => ∀ now : Standing,
        Progress book map tab order.mark (book world.state) before now →
        (sharedTerms tab.title (fun _ => False) (Own map tab order.mark)).allowed request now →
          ∃ next, Progress book map tab order.mark (book world.state) after next ∧
            (sharedTerms tab.title (fun _ => False) (Own map tab order.mark)).answered request now
              answer next) contexts world := by
    refine Script.along_of_always (fun request before => ?_) _ _ _
    intro now progress allowed
    obtain ⟨_, made⟩ := now
    obtain ⟨rfl, rows, grown, appends, late⟩ := progress
    have answers := serves request before.state
    refine ⟨⟨_, made + 1⟩, ⟨rfl, ?_⟩, answers, rfl⟩
    obtain ⟨more, added, stored⟩ := Added.of_allowed allowed answers
    by_cases empty : more = []
    · rw [empty, Workbook.extend_nil] at stored
      exact ⟨rows, stored.trans grown, appends, fun given => Nat.lt_succ_of_lt (late given)⟩
    · -- Nothing was appended before the fourth request, so the workbook is still as it was.
      have fourth : made = 3 := added.fourth empty
      have none : rows = [] := by
        by_contra given
        exact absurd (late given) (by rw [fourth]; exact Nat.lt_irrefl 3)
      subst none
      rw [Workbook.extend_nil] at grown
      have begun := added.appends fun _ impossible => impossible.elim
      rw [grown] at stored begun
      exact ⟨more, stored, begun, fun _ => Nat.lt_succ_of_le (Nat.le_of_eq fourth.symm)⟩
  obtain ⟨final, ⟨_, rows, grown, appends, _⟩, _⟩ := keeps.run steady
    ⟨rfl, [], (Workbook.extend_nil _ _).symm, .nil, fun given => absurd rfl given⟩ still along
  exact ⟨rows, grown, appends⟩

theorem run_marked (reachable : registry.Reachable) (serves : Serves around book)
    (suits : order.Suits registry map (book world.state) tab) (fits : Fits map (headerTexts tab))
    (legible : Legible map tab order.payload.application.id) {number : Nat}
    (first : FirstMarked tab (identifierIndex map (headerTexts tab)) order.mark number)
    (answered : (order.script registry).Along around
      (fun _ _ answer _ => ∃ value, answer = .ok value) contexts world) :
    ((order.script registry).run around contexts world).1
        = .ok (.succeeded .duplicate (.text "Application already exists in sheet.")
            (.text (toString number))) ∧
      book ((order.script registry).run around contexts world).2.2.state = book world.state ∧
      ((order.script registry).run around contexts world).2.2.requests
        = world.requests ++ reads order.config map tab := by
  have told : (order.script registry).Along around
      (fun _ request answer _ => AnsweredWith (fun _ => True) request answer) contexts world := by
    refine answered.imp fun before request given => ?_
    obtain ⟨value, same⟩ := given
    exact ⟨value, same, fun _ => trivial⟩
  obtain ⟨placement, calls, finds, requests, result⟩ :=
    submit_found reachable suits.aims.map_found serves told
  obtain ⟨rfl, still, rfl⟩ := finds.of_marked suits.aims.tab_found fits legible first
  exact ⟨result, still, requests⟩

/-- Carrying out orders only adds rows to the tab, and no mark gets a second copy. -/
theorem carryOut_grows (contexts : Log.Contexts) (reachable : registry.Reachable) (serves : Serves around book)
    (found : (book world.state).tab? tab.title = some tab) (filled : tab.rows ≠ [])
    (orders : List Order)
    (suits : ∀ order ∈ orders, order.Suits registry map (book world.state) tab) :
    ∃ rows,
      book (carryOut around registry contexts orders world).state
        = (book world.state).extend tab.title rows ∧
      ∀ mark, copies tab.title (identifierIndex map (headerTexts tab)) mark
          (book (carryOut around registry contexts orders world).state)
        ≤ max 1 (copies tab.title (identifierIndex map (headerTexts tab)) mark
          (book world.state)) := by
  induction orders generalizing world tab with
  | nil => exact ⟨[], (Workbook.extend_nil _ _).symm, fun mark => Nat.le_max_right _ _⟩
  | cons order rest ih =>
    obtain ⟨rows, grown, appends⟩ :=
      run_appends reachable serves (suits order List.mem_cons_self) filled
    have there := Workbook.tab?_extend found rows
    rw [← grown] at there
    have suited : ∀ other ∈ rest, other.Suits registry map
        (book ((order.script registry).run around contexts world).2.2.state)
        (tab.extend rows) :=
      fun other member => (suits other (List.mem_cons_of_mem order member)).grow grown
    obtain ⟨more, further, few⟩ := ih there (Tab.extend_filled filled _) suited
    refine ⟨rows ++ more, ?_, fun mark => ?_⟩
    · rw [← Workbook.extend_extend, ← grown]
      exact further
    · have step := appends.copies_le found filled mark
      have later := few mark
      rw [headerTexts_extend filled, grown] at later
      exact Nat.le_trans later (Nat.max_le.mpr ⟨Nat.le_max_left _ _, step⟩)

theorem carryOut_append (first second : List Order) :
    carryOut around registry contexts (first ++ second) world
      = carryOut around registry contexts second
          (carryOut around registry contexts first world) :=
  List.foldl_append

/-- Submissions one after another, whatever fails: no mark gets a second row, no stored row changes,
and once an application stands in a row, every submission of it that is not disturbed is told that
row and appends nothing, provided that one of the headers is not blank and that the headers and the
identifiers down to that row print. -/
theorem submissions_in_sequence (reachable : registry.Reachable) (registered : map ∈ registry.maps)
    (serves : Serves around book) (found : (book world.state).tab? tab.title = some tab)
    (present : ∀ header ∈ map.headers, header ∈ headerTexts tab) (earlier later : List Order)
    (suits : ∀ order ∈ earlier ++ later, order.Suits registry map (book world.state) tab) :
    let midway := carryOut around registry contexts earlier world
    let after := carryOut around registry contexts later midway
    (∀ mark, copies tab.title (identifierIndex map (headerTexts tab)) mark (book after.state)
      ≤ max 1 (copies tab.title (identifierIndex map (headerTexts tab)) mark
        (book world.state))) ∧
    (∃ rows, book after.state = (book midway.state).extend tab.title rows) ∧
    ∀ (here : Tab) (number : Nat) (last : Order),
      (book midway.state).tab? tab.title = some here →
      FirstMarked here (identifierIndex map (headerTexts tab)) last.mark number →
      last.Suits registry map (book world.state) tab →
      (∃ header ∈ headerTexts tab, header ≠ "") →
      Legible map here last.payload.application.id →
      (last.script registry).Along around (fun _ _ answer _ => ∃ value, answer = .ok value)
        contexts after →
      let run := (last.script registry).run around contexts after
      run.1 = .ok (.succeeded .duplicate (.text "Application already exists in sheet.")
          (.text (toString number))) ∧
        book run.2.2.state = book after.state ∧
        run.2.2.requests = after.requests ++ reads last.config map tab := by
  intro midway after
  have filled : tab.rows ≠ [] := by
    obtain ⟨header, mapped, _⟩ := (reachable.sound registered).identifierHeader
    intro empty
    simpa [headerTexts, empty] using present header mapped
  obtain ⟨rows, grown, _⟩ := carryOut_grows contexts reachable serves found filled earlier
    fun order member => suits order (List.mem_append_left later member)
  have there := Workbook.tab?_extend found rows
  rw [← grown] at there
  have suited : ∀ order ∈ later, order.Suits registry map (book midway.state) (tab.extend rows) :=
    fun order member => (suits order (List.mem_append_right earlier member)).grow grown
  obtain ⟨more, further, _⟩ := carryOut_grows contexts reachable serves there (Tab.extend_filled filled _)
    later suited
  obtain ⟨_, _, few⟩ :=
    carryOut_grows contexts reachable serves found filled (earlier ++ later) suits
  rw [carryOut_append] at few
  refine ⟨few, ⟨more, further⟩, fun here number last stands first lastSuits given legible answered => ?_⟩
  obtain rfl := Option.some.inj (there.symm.trans stands)
  have headers : headerTexts ((tab.extend rows).extend more) = headerTexts tab := by
    rw [headerTexts_extend (Tab.extend_filled filled _), headerTexts_extend filled]
  have now : last.Suits registry map (book after.state) ((tab.extend rows).extend more) :=
    (lastSuits.grow grown).grow further
  have found := first.extend more
  have readable : Legible map ((tab.extend rows).extend more) last.payload.application.id := by
    rw [← headerTexts_extend filled rows] at first
    exact legible.extend_of_found first more
  rw [← headers] at found given present
  obtain ⟨result, still, requests⟩ :=
    run_marked reachable serves now ⟨given, present⟩ readable found answered
  refine ⟨result, still, ?_⟩
  rwa [reads, headers] at requests

/-- An application that stands in the smallest ledger is told its row after another one was added. -/
theorem resubmission_is_told :
    let around := smallSurroundings .plain
    let after := carryOut around smallRegistry [] [smallOrder "A-2"]
      (World.fresh (smallBook ["A-1"]) 0)
    (((smallOrder "A-1").script smallRegistry).run around [] after).1
      = .ok (.succeeded .duplicate (.text "Application already exists in sheet.")
          (.text (toString 2))) := by
  have serves : Serves (smallSurroundings .plain) id := Service.serves rfl rfl _
  have suits : ∀ order ∈ [] ++ [smallOrder "A-2"],
      order.Suits smallRegistry smallMap (smallBook ["A-1"]) (smallTab ["A-1"]) :=
    fun order member => List.mem_singleton.mp member ▸ smallOrder_suits "A-2" ["A-1"]
  have registered : smallMap ∈ smallRegistry.maps := Registry.mem_of_get? smallMap_found
  have first : FirstMarked (smallTab ["A-1"])
      (identifierIndex smallMap (headerTexts (smallTab ["A-1"]))) (smallOrder "A-1").mark 2 :=
    markedRow?_eq_some_iff.mp (by decide +kernel)
  obtain ⟨_, _, told⟩ :=
    @submissions_in_sequence _ _ _ _ _ _ [] (World.fresh (smallBook ["A-1"]) 0)
      smallRegistry_reachable registered serves (smallTab_found ["A-1"])
      (smallTab_fits ["A-1"]).present [] [smallOrder "A-2"] suits
  have answers : ∀ request world, ∃ value,
      (World.answerSheet (smallSurroundings .plain) request world).1 = .ok value :=
    fun request _ => ⟨_, rfl⟩
  exact (told (smallTab ["A-1"]) 2 (smallOrder "A-1") (smallTab_found ["A-1"]) first
    (smallOrder_suits "A-1" ["A-1"]) (smallTab_fits ["A-1"]).given (smallTab_legible "A-1" ["A-1"])
    (Script.along_of_always answers _ _ _)).1

end Runs

def blankMap : ColumnMap := ⟨"blank", [⟨"", identifierPath⟩]⟩

def blankTab : Tab := ⟨"Ledger", [[.text ""], [.text "A-1"]]⟩

/-- Without a header that is not blank the application is refused, although it stands in row 2 below
every header of its map. -/
theorem blank_headers_refused :
    (Registry.builtin.put blankMap).Reachable ∧
    (∀ header ∈ blankMap.headers, header ∈ headerTexts blankTab) ∧
    FirstMarked blankTab (identifierIndex blankMap (headerTexts blankTab))
      (smallOrder "A-1").mark 2 ∧
    ∃ outcome,
      ((submit (.ok .plain) (Registry.builtin.put blankMap) ⟨"sheet-1", "blank", none⟩
          (smallOrder "A-1").payload).run (smallSurroundings .plain) []
        (World.fresh ⟨[blankTab]⟩ 0)).1 = .ok outcome ∧
      outcome.success = false ∧ outcome.status = .error :=
  ⟨.put .builtin ((ColumnMap.problem?_eq_none_iff blankMap).mp (by decide +kernel)), by decide,
    markedRow?_eq_some_iff.mp (by decide +kernel), _, rfl, rfl, rfl⟩

end LoanDispatch.Ledger
