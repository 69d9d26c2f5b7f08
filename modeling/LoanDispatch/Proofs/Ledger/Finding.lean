import LoanDispatch.Proofs.Ledger.Placement

/-!
Undisturbed submissions.  When every request is answered truly and nobody else appends, a submission
ends in one of six ways, which depend on the workbook alone: no tab, cells that do not print, headers
that do not fit, a row that cannot be built, a row that stands already, or a row that is appended.
-/

set_option autoImplicit false

namespace LoanDispatch.Ledger

open Spreadsheet

def reads (config : SheetConfig) (map : ColumnMap) (tab : Tab) : List SheetRequest :=
  [.titles config.spreadsheetId, .values config.spreadsheetId (address tab.title "1:1"),
   .values config.spreadsheetId
     (address tab.title (columnCells (identifierIndex map (headerTexts tab))))]

def appendOf (config : SheetConfig) (tab : Tab) (row : List Value) : SheetRequest :=
  .append config.spreadsheetId (address tab.title (appendCells (headerTexts tab))) row

/-- What a submission finds in a workbook, with the requests it makes and the workbook it leaves.
`reports` are the ranges that appends may report. -/
inductive Finds (reports : Value → Prop) (map : ColumnMap) (config : SheetConfig)
    (payload : Payload) (book : Workbook) :
    Except Fault Placement → List SheetRequest → Workbook → Prop where
  | noTab (problem : LayoutProblem) :
      config.tab? book = none →
        Finds reports map config payload book (.error (.layout problem))
          [.titles config.spreadsheetId] book
  | misfit {tab : Tab} (problem : LayoutProblem) :
      config.tab? book = some tab → ¬ Fits map (headerTexts tab) →
        Finds reports map config payload book (.error (.layout problem))
          ((reads config map tab).take 2) book
  | illegible {tab : Tab} {calls : List SheetRequest} (cause : Misfit) :
      config.tab? book = some tab → ¬ Legible map tab payload.application.id →
      (calls = (reads config map tab).take 2 ∨ calls = reads config map tab) →
        Finds reports map config payload book (.error (.misfit cause)) calls book
  | existing {tab : Tab} {number : Nat} :
      config.tab? book = some tab → Fits map (headerTexts tab) →
      Legible map tab payload.application.id →
      FirstMarked tab (identifierIndex map (headerTexts tab)) (cellWords payload.application.id)
        number →
        Finds reports map config payload book (.ok (.existing number)) (reads config map tab) book
  | unbuilt {tab : Tab} {cause : Misfit} :
      config.tab? book = some tab → Fits map (headerTexts tab) →
      Legible map tab payload.application.id →
      (∀ row ∈ dataRows tab, ¬ Own map tab (cellWords payload.application.id) row) →
      buildRow payload map (headerTexts tab) = .error cause →
        Finds reports map config payload book (.error (.misfit cause)) (reads config map tab) book
  | appended {tab : Tab} {row : List Value} {reported : Value} :
      config.tab? book = some tab → Fits map (headerTexts tab) →
      Legible map tab payload.application.id →
      (∀ row ∈ dataRows tab, ¬ Own map tab (cellWords payload.application.id) row) →
      buildRow payload map (headerTexts tab) = .ok row → reports reported →
        Finds reports map config payload book
          (match referenceOf reported with
            | .ok reference => .ok (.appended (.text tab.title) reported reference)
            | .error cause => .error (.misfit cause))
          (reads config map tab ++ [appendOf config tab row]) (book.extend tab.title [row])

section Inversion

variable {reports : Value → Prop} {map : ColumnMap} {config : SheetConfig} {payload : Payload}
  {book after : Workbook} {tab : Tab} {placement : Except Fault Placement}
  {calls : List SheetRequest}

/-- An application that stands in a row is found in the first such row, and nothing changes. -/
theorem Finds.of_marked (finds : Finds reports map config payload book placement calls after)
    (picked : config.tab? book = some tab) (fits : Fits map (headerTexts tab))
    (legible : Legible map tab payload.application.id) {number : Nat}
    (first : FirstMarked tab (identifierIndex map (headerTexts tab))
      (cellWords payload.application.id) number) :
    placement = .ok (.existing number) ∧ after = book ∧ calls = reads config map tab := by
  obtain ⟨row, member, marked⟩ := first.exists_row
  cases finds with
  | noTab _ absent => cases absent.symm.trans picked
  | misfit _ other unfit =>
    cases other.symm.trans picked
    exact absurd fits unfit
  | illegible _ other smudged _ =>
    cases other.symm.trans picked
    exact absurd legible smudged
  | existing other _ _ marked =>
    cases other.symm.trans picked
    exact ⟨by rw [marked.unique first], rfl, rfl⟩
  | unbuilt other _ _ absent _ =>
    cases other.symm.trans picked
    exact absurd marked (absent row member)
  | appended other _ _ absent _ _ =>
    cases other.symm.trans picked
    exact absurd marked (absent row member)

/-- A new application whose row can be built is appended, whatever the append reports. -/
theorem Finds.of_new (finds : Finds reports map config payload book placement calls after)
    (picked : config.tab? book = some tab) (fits : Fits map (headerTexts tab))
    (legible : Legible map tab payload.application.id)
    (absent : ∀ row ∈ dataRows tab, ¬ Own map tab (cellWords payload.application.id) row)
    {row : List Value} (built : buildRow payload map (headerTexts tab) = .ok row) :
    ∃ reported, reports reported ∧ after = book.extend tab.title [row] ∧
      placement = match referenceOf reported with
        | .ok reference => .ok (.appended (.text tab.title) reported reference)
        | .error cause => .error (.misfit cause) := by
  cases finds with
  | noTab _ none => cases none.symm.trans picked
  | misfit _ other unfit =>
    cases other.symm.trans picked
    exact absurd fits unfit
  | illegible _ other smudged _ =>
    cases other.symm.trans picked
    exact absurd legible smudged
  | existing other _ _ first =>
    cases other.symm.trans picked
    obtain ⟨old, member, marked⟩ := first.exists_row
    exact absurd marked (absent old member)
  | unbuilt other _ _ _ failed =>
    cases other.symm.trans picked
    cases failed.symm.trans built
  | appended other _ _ _ same allowed =>
    cases other.symm.trans picked
    cases same.symm.trans built
    exact ⟨_, allowed, rfl, rfl⟩

end Inversion

structure Record where
  book : Workbook
  requests : List SheetRequest

/-- Nobody else appends, every request is answered truly, and appends report what they may. -/
def undisturbed (reports : Value → Prop) : Terms Record where
  drift before after := after = before
  allowed _ _ := True
  answered request before answer after :=
    Workbook.Answers request before.book answer after.book ∧
      after.requests = before.requests ++ [request] ∧
      ∃ value, answer = .ok value ∧ (request.name = "append" → reports value)

section Stages

variable {reports : Value → Prop} {α : Type} {post : Except Fault α → Record → Prop}
  {book : Workbook} {requests : List SheetRequest}

private theorem meets_told {request : SheetRequest} {value : Value} {next : Value → Script α}
    (told : book.read? request = some value)
    (goesOn : (next value).Meets (undisturbed reports) post ⟨book, requests ++ [request]⟩) :
    (Script.sheet request (Script.onAnswer next)).Meets (undisturbed reports) post
      ⟨book, requests⟩ := by
  intro current still
  cases still
  refine ⟨trivial, fun answer now answered => ?_⟩
  obtain ⟨after, made⟩ := now
  obtain ⟨truth, rfl, given, rfl, _⟩ := answered
  obtain ⟨still, same | ⟨fault, failed⟩⟩ := truth.of_read told
  · obtain rfl : after = book := still
    cases same
    exact goesOn
  · cases failed

private theorem meets_appended {spreadsheetId range : String} {row : List Value}
    {next : Value → Script α}
    (goesOn : ∀ reported, reports reported →
      (next reported).Meets (undisturbed reports) post
        ⟨book.append range row, requests ++ [.append spreadsheetId range row]⟩) :
    (Script.sheet (.append spreadsheetId range row) (Script.onAnswer next)).Meets
      (undisturbed reports) post ⟨book, requests⟩ := by
  intro current still
  cases still
  refine ⟨trivial, fun answer now answered => ?_⟩
  obtain ⟨after, made⟩ := now
  obtain ⟨truth, rfl, given, rfl, allowed⟩ := answered
  rcases truth.of_append with ⟨reported, same, rfl⟩ | ⟨fault, failed, _⟩
  · cases same
    exact goesOn given (allowed rfl)
  · cases failed

end Stages

section Submission

variable {reports : Value → Prop} {registry : Registry} {config : SheetConfig} {payload : Payload}
  {map : ColumnMap} {book : Workbook} {tab : Tab}

/-- What the record says about a submission that began with a workbook after some requests. -/
def Found (reports : Value → Prop) (map : ColumnMap) (config : SheetConfig) (payload : Payload)
    (began : Record) (result : Except Fault Placement) (now : Record) : Prop :=
  ∃ calls, now.requests = began.requests ++ calls ∧
    Finds reports map config payload began.book result calls now.book

private theorem settle_found (picked : config.tab? book = some tab)
    (fits : Fits map (headerTexts tab)) (legible : Legible map tab payload.application.id)
    (began : List SheetRequest) :
    (settle map config payload (.text tab.title) (headerTexts tab)
        (markedRow? tab (identifierIndex map (headerTexts tab))
          (cellWords payload.application.id))).Meets
      (undisturbed reports) (Found reports map config payload ⟨book, began⟩)
      ⟨book, began ++ reads config map tab⟩ := by
  cases scan : markedRow? tab (identifierIndex map (headerTexts tab))
      (cellWords payload.application.id) with
  | some number =>
    exact ⟨reads config map tab, rfl, .existing picked fits legible (markedRow?_eq_some_iff.mp scan)⟩
  | none =>
    have absent : ∀ row ∈ dataRows tab, ¬ Own map tab (cellWords payload.application.id) row :=
      fun row member => by simpa [Own] using markedRow?_eq_none_iff.mp scan row member
    cases built : buildRow payload map (headerTexts tab) with
    | error cause =>
      have fails : appendRow .plain map config payload (.text tab.title) (headerTexts tab)
          = .done (.error (.misfit cause)) := by
        simp only [appendRow, built, Script.ofMisfit_error_bind]
      rw [settle, fails]
      exact ⟨reads config map tab, rfl, .unbuilt picked fits legible absent built⟩
    | ok row =>
      rw [settle, appendRow_eq fits built]
      refine meets_appended fun reported allowed => ?_
      rw [Workbook.append_address (bang_notMem_appendCells _), List.append_assoc]
      have found := Finds.appended picked fits legible absent built allowed
      cases reference : referenceOf reported with
      | error cause =>
        rw [reference] at found
        exact ⟨_, rfl, found⟩
      | ok value =>
        rw [reference] at found
        exact ⟨_, rfl, found⟩

private theorem search_found (picked : config.tab? book = some tab)
    (fits : Fits map (headerTexts tab))
    (prints : ∀ cell ∈ tab.rows.headD [], cell.holdsLong = false) (began : List SheetRequest) :
    (Script.ofMisfit (existingRow (.list ((tab.column
          (identifierIndex map (headerTexts tab))).map .list)) payload.application.id)
        >>= settle map config payload (.text tab.title) (headerTexts tab)).Meets
      (undisturbed reports) (Found reports map config payload ⟨book, began⟩)
      ⟨book, began ++ reads config map tab⟩ := by
  by_cases legible : Legible map tab payload.application.id
  · rw [existingRow_column legible.sought legible.column, Script.ofMisfit_ok_bind]
    exact settle_found picked fits legible began
  · obtain ⟨cause, smudged⟩ := existingRow_smudged
      fun legibly => legible ⟨prints, legibly.1, legibly.2⟩
    rw [smudged, Script.ofMisfit_error_bind]
    exact ⟨reads config map tab, rfl, .illegible cause picked legible (.inr rfl)⟩

/-- A submission that is not disturbed finds what there is. -/
theorem place_found (reachable : registry.Reachable)
    (known : registry.get? config.columnMapVersion = some map) (began : List SheetRequest) :
    (place (.ok .plain) registry config payload).Meets (undisturbed reports)
      (Found reports map config payload ⟨book, began⟩) ⟨book, began⟩ := by
  rw [place_eq known]
  refine meets_told rfl ?_
  cases picked : config.tab? book with
  | none =>
    obtain ⟨problem, refused⟩ := pickTitle_of_no_tab picked
    simp only [refused, Script.ofFault_error_bind]
    exact ⟨_, rfl, .noTab problem picked⟩
  | some tab =>
    have there := SheetConfig.found_of_tab? picked
    simp only [pickTitle_of_tab? picked, Script.ofFault_ok_bind, addressIn, Value.text?,
      Script.ofMisfit_ok_bind]
    refine meets_told rfl ?_
    simp only [Workbook.valuesAt_firstRow there]
    by_cases prints : ∀ cell ∈ tab.rows.headD [], cell.holdsLong = false
    · simp only [headersOf_firstRow prints, Script.ofMisfit_ok_bind]
      by_cases fits : Fits map (headerTexts tab)
      · obtain ⟨identifier, checked, column⟩ :=
          checkHeaders_of_fits (reachable.sound (Registry.mem_of_get? known)) fits (.text tab.title)
        simp only [checked, Except.mapError, Script.ofFault_ok_bind, column]
        refine meets_told rfl ?_
        simp only [Workbook.valuesAt_column there, List.append_assoc]
        exact search_found picked fits prints began
      · obtain ⟨problem, refused⟩ := checkHeaders_of_not_fits fits (.text tab.title)
        simp only [refused, Except.mapError, Script.ofFault_error_bind, List.append_assoc]
        exact ⟨_, rfl, .misfit problem picked fits⟩
    · obtain ⟨cause, smudged⟩ := headersOf_smudged prints
      simp only [smudged, Script.ofMisfit_error_bind, List.append_assoc]
      exact ⟨_, rfl, .illegible cause picked (fun legible => prints legible.headers) (.inl rfl)⟩

end Submission

section Run

variable {σ : Type} {around : Surroundings σ} {book : σ → Workbook} {registry : Registry}
  {map : ColumnMap} {config : SheetConfig} {payload : Payload} {contexts : Log.Contexts}
  {world : World σ} {reports : Value → Prop}

/-- A request is answered, and an append reports what it may. -/
def AnsweredWith (reports : Value → Prop) (request : SheetRequest)
    (answer : Except Fault Value) : Prop :=
  ∃ value, answer = .ok value ∧ (request.name = "append" → reports value)

theorem submit_found (reachable : registry.Reachable)
    (known : registry.get? config.columnMapVersion = some map) (serves : Serves around book)
    (answered : (submit (.ok .plain) registry config payload).Along around
      (fun _ request answer _ => AnsweredWith reports request answer) contexts world) :
    ∃ placement calls,
      Finds reports map config payload (book world.state) placement calls
        (book ((submit (.ok .plain) registry config payload).run around contexts
          world).2.2.state) ∧
      ((submit (.ok .plain) registry config payload).run around contexts world).2.2.requests
        = world.requests ++ calls ∧
      ((submit (.ok .plain) registry config payload).run around contexts world).1
        = outcomeOf placement := by
  have meets : (submit (.ok .plain) registry config payload).Meets (undisturbed reports)
      (fun result now => ∃ placement, result = outcomeOf placement ∧
        Found reports map config payload ⟨book world.state, world.requests⟩ placement now)
      ⟨book world.state, world.requests⟩ := by
    rw [submit_eq]
    intro start
    refine (Script.meets_andThen ..).mpr ?_
    exact (place_found reachable known world.requests).weaken fun placement now found =>
      conclude_meets ⟨placement, rfl, found⟩
  have steady : Script.Steady fun (after : World σ) (now : Record) =>
      now = ⟨book after.state, after.requests⟩ :=
    ⟨fun _ _ seen => seen, fun seen => seen⟩
  have along : (submit (.ok .plain) registry config payload).Along around
      (fun before request answer after => ∀ now : Record,
        now = ⟨book before.state, before.requests⟩ → (undisturbed reports).allowed request now →
          ∃ next, next = (⟨book after.state, after.requests⟩ : Record) ∧
            (undisturbed reports).answered request now answer next) contexts world := by
    refine answered.imp fun before request told now seen _ => ?_
    cases seen
    exact ⟨_, rfl, serves request before.state, rfl, told⟩
  obtain ⟨final, rfl, placement, result, calls, requests, finds⟩ :=
    meets.run steady rfl (fun _ => rfl) along
  exact ⟨placement, calls, finds, requests, result⟩

end Run

end LoanDispatch.Ledger
