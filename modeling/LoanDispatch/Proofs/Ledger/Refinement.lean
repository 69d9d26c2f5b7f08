import LoanDispatch.Proofs.Fault.Status
import LoanDispatch.Proofs.Ledger.Finding
import LoanDispatch.Proofs.Ledger.Order
import LoanDispatch.Proofs.Spreadsheet.RowReference

/-!
A submission refines its specification.  `Expected` says what the workbook alone asks for: a refusal
when no tab fits or what is read of it does not print, the first row of the application when it
stands already, and else one new row.
-/

set_option autoImplicit false

namespace LoanDispatch.Ledger

open Spreadsheet

/-- What appends may report: nothing, or a range whose row, if it names one, has not too many digits.
-/
def Reportable (reported : Value) : Prop :=
  reported = .null ∨ ∃ words : String, reported = .text words ∧
    ∀ digits, rowDigits? words.toList = some digits → digits.length ≤ Number.maxIntegerDigits

section Range

theorem exists_referenceOf {reported : Value} (reportable : Reportable reported) :
    ∃ reference, referenceOf reported = .ok reference := by
  have read : ∃ row, reportedRow? reported = .ok row := by
    rcases reportable with rfl | ⟨words, rfl, few⟩
    · exact ⟨none, rfl⟩
    · rw [reportedRow?]
      split
      · exact ⟨none, rfl⟩
      · simp only [Value.text?]
        cases digits : rowDigits? words.toList with
        | none => exact ⟨none, rfl⟩
        | some found =>
          obtain ⟨filled, decimals⟩ := (rowDigits?_eq_some_iff.mp digits).decimals
          obtain ⟨number, parsed⟩ := @Number.exists_readInteger (String.ofList found)
            (by simpa using decimals) (by simpa using filled) (by simpa using few found digits)
          exact ⟨some number, by simp only [parsed]; rfl⟩
  obtain ⟨row, same⟩ := read
  cases row with
  | none => exact ⟨reported, by rw [referenceOf, same]; rfl⟩
  | some number => exact ⟨.text (toString number), by rw [referenceOf, same]; rfl⟩

theorem exists_referenceOf_misfit {words : String} {digits : List Char}
    (found : rowDigits? words.toList = some digits)
    (many : Number.maxIntegerDigits < digits.length) :
    ∃ cause, referenceOf (.text words) = .error cause := by
  obtain ⟨filled, decimals⟩ := (rowDigits?_eq_some_iff.mp found).decimals
  have unreadable : Number.Unreadable (String.ofList digits) :=
    ⟨by simpa using Number.allNumerals_of_decimals filled decimals, .inr (by simpa using many)⟩
  refine ⟨Number.integerMisfit (String.ofList digits), ?_⟩
  rw [referenceOf, reportedRow?_text found, Number.readInteger_of_unreadable unreadable]
  rfl

end Range

/-- What the workbook asks a submission for: its outcome, its requests, and the workbook it leaves.
-/
inductive Expected (map : ColumnMap) (config : SheetConfig) (payload : Payload) (book : Workbook) :
    Outcome → List SheetRequest → Workbook → Prop where
  /-- No tab that prints has headers that fit: a final failure, found by reading. -/
  | refused {detail : Value} {calls : List SheetRequest} :
      (∀ tab, config.tab? book = some tab →
        ¬ (Fits map (headerTexts tab) ∧ Legible map tab payload.application.id)) →
      (calls = [.titles config.spreadsheetId] ∨
        ∃ tab, config.tab? book = some tab ∧
          (calls = (reads config map tab).take 2 ∨ calls = reads config map tab)) →
        Expected map config payload book (.failed .error .sheetError false detail) calls book
  /-- The application stands already: its first row is the reference. -/
  | duplicate {tab : Tab} {number : Nat} :
      config.tab? book = some tab → Fits map (headerTexts tab) →
      Legible map tab payload.application.id →
      FirstMarked tab (identifierIndex map (headerTexts tab)) (cellWords payload.application.id)
        number →
        Expected map config payload book
          (.succeeded .duplicate (.text "Application already exists in sheet.")
            (.text (toString number))) (reads config map tab) book
  /-- The application is new: one row is added, with the cell that each header asks for. -/
  | appended {tab : Tab} {row : List Value} {reported reference : Value} :
      config.tab? book = some tab → Fits map (headerTexts tab) →
      Legible map tab payload.application.id →
      (∀ row ∈ dataRows tab, ¬ Own map tab (cellWords payload.application.id) row) →
      List.Forall₂ (CellOf payload map) (headerTexts tab) row → Reportable reported →
      referenceOf reported = .ok reference →
        Expected map config payload book
          (.succeeded .appended (.text "Application appended to Google Sheet.") reference)
          (reads config map tab ++ [appendOf config tab row]) (book.extend tab.title [row])

theorem outcomeOf_layout (problem : LayoutProblem) :
    outcomeOf (.error (.layout problem))
      = .ok (.failed .error .sheetError false (failureDetail (.layout problem))) := by
  simp only [outcomeOf, Fault.isRetryable_of_layout]

theorem outcomeOf_misfit (cause : Misfit) :
    outcomeOf (.error (.misfit cause))
      = .ok (.failed .error .sheetError false (failureDetail (.misfit cause))) := by
  simp only [outcomeOf, Fault.isRetryable_of_misfit]

section Spec

variable {map : ColumnMap} {config : SheetConfig} {payload : Payload} {book after : Workbook}
  {outcome : Outcome} {placement : Except Fault Placement} {calls : List SheetRequest}

theorem Finds.expected (finds : Finds Reportable map config payload book placement calls after)
    (resolves : ∀ header ∈ map.headers, ∃ cell, CellOf payload map header cell) :
    ∃ outcome, outcomeOf placement = .ok outcome ∧
      Expected map config payload book outcome calls after := by
  cases finds with
  | noTab problem absent =>
    refine ⟨_, outcomeOf_layout problem, .refused (fun tab picked => ?_) (.inl rfl)⟩
    cases absent.symm.trans picked
  | misfit problem picked unfit =>
    refine ⟨_, outcomeOf_layout problem, .refused (fun other placed usable => ?_)
      (.inr ⟨_, picked, .inl rfl⟩)⟩
    cases picked.symm.trans placed
    exact unfit usable.1
  | illegible cause picked smudged read =>
    refine ⟨_, outcomeOf_misfit cause, .refused (fun other placed usable => ?_)
      (.inr ⟨_, picked, read⟩)⟩
    cases picked.symm.trans placed
    exact smudged usable.2
  | existing picked fits legible first => exact ⟨_, rfl, .duplicate picked fits legible first⟩
  | unbuilt picked fits legible absent failed =>
    obtain ⟨row, built⟩ := exists_buildRow resolves _
    cases failed.symm.trans built
  | appended picked fits legible absent built reportable =>
    obtain ⟨reference, read⟩ := exists_referenceOf reportable
    rw [read]
    exact ⟨_, rfl,
      .appended picked fits legible absent (buildRow_eq_ok_iff.mp built) reportable read⟩

theorem Expected.status_iff (expected : Expected map config payload book outcome calls after) :
    (outcome.status = .error ↔
      ∀ tab, config.tab? book = some tab →
        ¬ (Fits map (headerTexts tab) ∧ Legible map tab payload.application.id)) ∧
    (outcome.status = .duplicate ↔
      ∃ tab number, config.tab? book = some tab ∧ Fits map (headerTexts tab) ∧
        Legible map tab payload.application.id ∧
        FirstMarked tab (identifierIndex map (headerTexts tab))
          (cellWords payload.application.id) number) ∧
    (outcome.status = .appended ↔
      ∃ tab, config.tab? book = some tab ∧ Fits map (headerTexts tab) ∧
        Legible map tab payload.application.id ∧
        ∀ row ∈ dataRows tab, ¬ Own map tab (cellWords payload.application.id) row) := by
  cases expected with
  | refused unfit _ =>
    refine ⟨⟨fun _ => unfit, fun _ => rfl⟩, ⟨nofun, ?_⟩, ⟨nofun, ?_⟩⟩
    · intro stands
      obtain ⟨tab, number, picked, fits, legible, _⟩ := stands
      exact absurd ⟨fits, legible⟩ (unfit tab picked)
    · intro new
      obtain ⟨tab, picked, fits, legible, _⟩ := new
      exact absurd ⟨fits, legible⟩ (unfit tab picked)
  | duplicate picked fits legible first =>
    refine ⟨⟨nofun, fun unfit => absurd ⟨fits, legible⟩ (unfit _ picked)⟩,
      ⟨fun _ => ⟨_, _, picked, fits, legible, first⟩, fun _ => rfl⟩, ⟨nofun, ?_⟩⟩
    intro new
    obtain ⟨tab, other, _, _, absent⟩ := new
    cases picked.symm.trans other
    obtain ⟨row, member, marked⟩ := first.exists_row
    exact absurd marked (absent row member)
  | appended picked fits legible absent _ _ _ =>
    refine ⟨⟨nofun, fun unfit => absurd ⟨fits, legible⟩ (unfit _ picked)⟩, ⟨nofun, ?_⟩,
      ⟨fun _ => ⟨_, picked, fits, legible, absent⟩, fun _ => rfl⟩⟩
    intro stands
    obtain ⟨tab, number, other, _, _, first⟩ := stands
    cases picked.symm.trans other
    obtain ⟨row, member, marked⟩ := first.exists_row
    exact absurd marked (absent row member)

theorem Expected.calls_prefix (expected : Expected map config payload book outcome calls after) :
    calls.map SheetRequest.name <+: ["titles", "values", "values", "append"] := by
  cases expected with
  | refused _ shape =>
    rcases shape with rfl | ⟨tab, _, rfl | rfl⟩
    · exact ⟨["values", "values", "append"], rfl⟩
    · exact ⟨["values", "append"], rfl⟩
    · exact ⟨["append"], rfl⟩
  | duplicate => exact ⟨["append"], rfl⟩
  | appended => exact ⟨[], rfl⟩

end Spec

section Run

variable {σ : Type} {around : Surroundings σ} {book : σ → Workbook} {registry : Registry}
  {map : ColumnMap} {config : SheetConfig} {payload : Payload} {contexts : Log.Contexts}
  {world : World σ}

/-- A submission whose requests are all answered does what the workbook asks for, and touches nothing
else. -/
theorem submit_refines (reachable : registry.Reachable)
    (known : registry.get? config.columnMapVersion = some map)
    (resolves : ∀ header ∈ map.headers, ∃ cell, CellOf payload map header cell)
    (serves : Serves around book)
    (answered : (submit (.ok .plain) registry config payload).Along around
      (fun _ request answer _ => AnsweredWith Reportable request answer) contexts world) :
    let run := (submit (.ok .plain) registry config payload).run around contexts world
    ∃ outcome calls,
      run.1 = .ok outcome ∧ run.2.2.requests = world.requests ++ calls ∧
      calls.map SheetRequest.name <+: ["titles", "values", "values", "append"] ∧
      Expected map config payload (book world.state) outcome calls (book run.2.2.state) ∧
      (outcome.status = .error ↔
        ∀ tab, config.tab? (book world.state) = some tab →
          ¬ (Fits map (headerTexts tab) ∧ Legible map tab payload.application.id)) ∧
      (outcome.status = .duplicate ↔
        ∃ tab number, config.tab? (book world.state) = some tab ∧ Fits map (headerTexts tab) ∧
          Legible map tab payload.application.id ∧
          FirstMarked tab (identifierIndex map (headerTexts tab))
            (cellWords payload.application.id) number) ∧
      (outcome.status = .appended ↔
        ∃ tab, config.tab? (book world.state) = some tab ∧ Fits map (headerTexts tab) ∧
          Legible map tab payload.application.id ∧
          ∀ row ∈ dataRows tab, ¬ Own map tab (cellWords payload.application.id) row) := by
  intro run
  obtain ⟨placement, calls, finds, requests, result⟩ :=
    submit_found reachable known serves answered
  obtain ⟨outcome, reached, expected⟩ := finds.expected resolves
  exact ⟨outcome, calls, result.trans reached, requests, expected.calls_prefix, expected,
    expected.status_iff⟩

theorem answered_reporting {reported : Value} (script : Script Outcome) (contexts : Log.Contexts)
    (world : World Workbook) :
    script.Along (smallSurroundings ⟨false, [], some reported, []⟩)
      (fun _ request answer _ => AnsweredWith (· = reported) request answer) contexts world := by
  refine Script.along_of_always (fun request world => ?_) script contexts world
  cases request with
  | titles spreadsheetId => exact ⟨_, rfl, fun named => absurd named (by simp [SheetRequest.name])⟩
  | values spreadsheetId range =>
    exact ⟨_, rfl, fun named => absurd named (by simp [SheetRequest.name])⟩
  | append spreadsheetId range row => exact ⟨_, rfl, fun _ => rfl⟩

/-- The smallest ledger gets the row that is asked for. -/
theorem small_submission_refines :
    let run := ((smallOrder "A-1").script smallRegistry).run
      (smallSurroundings ⟨false, [], some (.text "'Ledger'!A2"), []⟩) []
      (World.fresh (smallBook []) 0)
    ∃ outcome calls, run.1 = .ok outcome ∧
      Expected smallMap (smallOrder "A-1").config (smallOrder "A-1").payload (smallBook []) outcome
        calls run.2.2.state := by
  intro run
  have serves : Serves (smallSurroundings ⟨false, [], some (.text "'Ledger'!A2"), []⟩) id :=
    Service.serves rfl rfl _
  have resolves : ∀ header ∈ smallMap.headers,
      ∃ cell, CellOf (smallOrder "A-1").payload smallMap header cell := by
    intro header member
    obtain rfl := List.mem_singleton.mp member
    exact ⟨.text "A-1", rfl⟩
  have reportable : Reportable (.text "'Ledger'!A2") := by
    refine .inr ⟨_, rfl, fun digits found => ?_⟩
    have two : rowDigits? "'Ledger'!A2".toList = some ['2'] := by decide +kernel
    cases two.symm.trans found
    decide
  have answered : ((smallOrder "A-1").script smallRegistry).Along
      (smallSurroundings ⟨false, [], some (.text "'Ledger'!A2"), []⟩)
      (fun _ request answer _ => AnsweredWith Reportable request answer) []
      (World.fresh (smallBook []) 0) := by
    refine (answered_reporting _ _ _).imp fun before request told => ?_
    obtain ⟨value, same, allowed⟩ := told
    exact ⟨value, same, fun named => allowed named ▸ reportable⟩
  obtain ⟨outcome, calls, result, _, _, expected, _⟩ :=
    @submit_refines _ _ _ _ _ (smallOrder "A-1").config (smallOrder "A-1").payload []
      (World.fresh (smallBook []) 0) smallRegistry_reachable
      (smallOrder_suits "A-1" []).aims.map_found resolves serves answered
  exact ⟨outcome, calls, result, expected⟩

end Run

def longRange (spare : Nat) : String :=
  "'Ledger'!A" ++ String.ofList (List.replicate (spare + 1) '1')

theorem rowDigits?_longRange (spare : Nat) :
    rowDigits? (longRange spare).toList = some (List.replicate (spare + 1) '1') := by
  have shape : longRange spare
      = address "Ledger" ("A" ++ String.ofList (List.replicate (spare + 1) '1')) := by
    simp only [longRange, address, String.append_assoc]
    rfl
  have decimals : ∀ c ∈ List.replicate (spare + 1) '1', Text.isDecimal c = true := by
    intro c member
    obtain rfl := List.eq_of_mem_replicate member
    decide
  have reference : BeginsReference (List.replicate (spare + 1) '1')
      ('!' :: 'A' :: (List.replicate (spare + 1) '1' ++ [])) :=
    .mk false false (List.cons_ne_nil 'A' []) (List.all_eq_true.mp (by decide)) (by simp) decimals
      (by simp)
  have plain : rowDigits? "Ledger".toList = none := by decide
  rw [shape, rowDigits?_address, plain, Option.none_or, String.toList_append, String.toList_ofList]
  simpa using rowDigits?_eq_some_iff.mpr (.here reference)

private theorem run_longRange {spare : Nat} (long : Number.maxIntegerDigits ≤ spare) :
    let run := ((smallOrder "A-1").script smallRegistry).run
      (smallSurroundings ⟨false, [], some (.text (longRange spare)), []⟩) []
      (World.fresh (smallBook []) 0)
    run.2.2.state = (smallBook []).extend "Ledger" [[.text "A-1"]] ∧
    ∃ outcome, run.1 = .ok outcome ∧ outcome.success = false ∧ outcome.status = .error := by
  intro run
  have serves : Serves (smallSurroundings ⟨false, [], some (.text (longRange spare)), []⟩) id :=
    Service.serves rfl rfl _
  obtain ⟨placement, calls, finds, _, result⟩ :=
    @submit_found _ _ _ _ _ (smallOrder "A-1").config (smallOrder "A-1").payload []
      (World.fresh (smallBook []) 0) _ smallRegistry_reachable
      (smallOrder_suits "A-1" []).aims.map_found serves (answered_reporting _ _ _)
  have built : buildRow (smallOrder "A-1").payload smallMap (headerTexts (smallTab []))
      = .ok [.text "A-1"] := rfl
  obtain ⟨reported, rfl, stored, placed⟩ :=
    finds.of_new (smallOrder_suits "A-1" []).aims.tab_found (smallTab_fits [])
      (smallTab_legible "A-1" []) (fun row member => absurd member List.not_mem_nil) built
  obtain ⟨cause, unread⟩ := exists_referenceOf_misfit (rowDigits?_longRange spare)
    (by rw [List.length_replicate]; exact Nat.lt_succ_of_le long)
  rw [unread] at placed
  subst placed
  exact ⟨stored, _, result.trans (outcomeOf_misfit cause), rfl, rfl⟩

/-- The smallest ledger has room for the application, its row is stored, and still the outcome is an
error. -/
theorem long_row_refused :
    let run := ((smallOrder "A-1").script smallRegistry).run
      (smallSurroundings ⟨false, [], some (.text (longRange 4300)), []⟩) []
      (World.fresh (smallBook []) 0)
    Fits smallMap (headerTexts (smallTab [])) ∧ dataRows (smallTab []) = [] ∧
    run.2.2.state = (smallBook []).extend "Ledger" [[.text "A-1"]] ∧
    ∃ outcome, run.1 = .ok outcome ∧ outcome.success = false ∧ outcome.status = .error :=
  ⟨smallTab_fits [], rfl, run_longRange (Nat.le_refl Number.maxIntegerDigits)⟩

end LoanDispatch.Ledger
