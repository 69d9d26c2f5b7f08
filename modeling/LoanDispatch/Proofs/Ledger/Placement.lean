import LoanDispatch.Ledger.Submission
import LoanDispatch.Proofs.Ledger.Row
import LoanDispatch.Proofs.Script.Conduct

/-!
A submission beside others.  Others may append rows to its tab between any two of its requests, and
any of its requests may fail.  Whatever happens, only its fourth request is an append, of a row that
carries its own identifier; it only succeeds when such a row stands in the tab; and when nobody else
appends such rows, it appends one only where there is none.
-/

set_option autoImplicit false

namespace LoanDispatch.Ledger

open Spreadsheet

/-- A submission goes to a tab of a workbook and uses a map there. -/
structure Aims (registry : Registry) (config : SheetConfig) (map : ColumnMap) (book : Workbook)
    (tab : Tab) : Prop where
  map_found : registry.get? config.columnMapVersion = some map
  tab_found : config.tab? book = some tab

/-- Some row below the headers of the tab with a title satisfies a predicate. -/
def HasRow (title : String) (holds : List Value → Prop) (book : Workbook) : Prop :=
  ∃ tab, book.tab? title = some tab ∧ ∃ row ∈ dataRows tab, holds row

/-- A workbook together with the number of requests that a submission has made. -/
structure Standing where
  book : Workbook
  made : Nat

/-- The terms of a submission to the tab with a title: others append rows of one kind, and after
three reads it may append a row of its own kind.  If others do not append that kind, then it appends
only where there is no such row yet. -/
def sharedTerms (title : String) (others own : List Value → Prop) : Terms Standing where
  drift before after :=
    ∃ rows, (∀ row ∈ rows, others row) ∧ after = ⟨before.book.extend title rows, before.made⟩
  allowed request now :=
    ∀ spreadsheetId range row, request = .append spreadsheetId range row →
      (∃ cells : String, '!' ∉ cells.toList ∧ range = address title cells) ∧ own row ∧
        now.made = 3 ∧ ((∀ row, others row → ¬ own row) → ¬ HasRow title own now.book)
  answered request before answer after :=
    Workbook.Answers request before.book answer after.book ∧ after.made = before.made + 1

/-- A success leaves a row of the submission's own kind in the tab. -/
def Placed {α : Type} (title : String) (own : List Value → Prop) (succeeds : α → Prop)
    (result : Except Fault α) (now : Standing) : Prop :=
  ∀ value, result = .ok value → succeeds value → HasRow title own now.book

section Stages

variable {title : String} {others own : List Value → Prop} {α : Type}
  {post : Except Fault α → Standing → Prop}

theorem meets_read {request : SheetRequest} {reading : Workbook → Value}
    {next : Value → Script α} {now : Standing}
    (reads : ∀ book : Workbook, book.read? request = some (reading book))
    (fails : ∀ fault after, post (.error fault) after)
    (goesOn : ∀ rows, (∀ row ∈ rows, others row) →
      (next (reading (now.book.extend title rows))).Meets (sharedTerms title others own) post
        ⟨now.book.extend title rows, now.made + 1⟩) :
    (Script.sheet request (Script.onAnswer next)).Meets (sharedTerms title others own) post now := by
  intro current drifted
  obtain ⟨rows, kinds, rfl⟩ := drifted
  constructor
  · intro spreadsheetId range row same
    cases same
    exact nomatch reads now.book
  · intro answer next answered
    obtain ⟨after, made⟩ := next
    obtain ⟨truth, rfl⟩ := answered
    obtain ⟨rfl, rfl | ⟨fault, rfl⟩⟩ := truth.of_read (reads _)
    · exact goesOn rows kinds
    · exact fails fault _

end Stages

section Submission

variable {registry : Registry} {config : SheetConfig} {payload : Payload} {map : ColumnMap}
  {book : Workbook} {tab : Tab} {id : String} {others own : List Value → Prop}

theorem Aims.found (aims : Aims registry config map book tab) : book.tab? tab.title = some tab :=
  SheetConfig.found_of_tab? aims.tab_found

theorem Aims.extend (aims : Aims registry config map book tab) (rows : List (List Value)) :
    Aims registry config map (book.extend tab.title rows) (tab.extend rows) :=
  ⟨aims.map_found, SheetConfig.tab?_extend aims.tab_found rows⟩

/-- What a submission does once the identifier column is searched. -/
def settle (map : ColumnMap) (config : SheetConfig) (payload : Payload) (title : Value)
    (headers : List String) : Option Nat → Script Placement
  | some row => do
    notice .info config payload
      ("Application " ++ payload.application.id.display ++ " already in " ++ title.display
        ++ " row " ++ toString row ++ ", skipping append")
      [("sheet_title", title)]
    return .existing row
  | none => appendRow .plain map config payload title headers

/-- A submission to a registered map, request by request. -/
theorem place_eq (found : registry.get? config.columnMapVersion = some map) :
    place (.ok .plain) registry config payload
      = .sheet (.titles config.spreadsheetId) (Script.onAnswer fun titles =>
          Script.ofFault (pickTitle titles config.sheetName) >>= fun title =>
          Script.ofMisfit (addressIn title "1:1") >>= fun headerRange =>
          .sheet (.values config.spreadsheetId headerRange) (Script.onAnswer fun rows =>
            Script.ofMisfit (headersOf rows) >>= fun headers =>
            Script.ofFault ((checkHeaders map title headers).mapError .layout) >>= fun identifier =>
            Script.ofMisfit (addressIn title (columnCells (headers.idxOf identifier)))
              >>= fun columnRange =>
            .sheet (.values config.spreadsheetId columnRange) (Script.onAnswer fun cells =>
              Script.ofMisfit (existingRow cells payload.application.id)
                >>= settle map config payload title headers))) := by
  simp only [place, Registry.find_text, found, Script.ofFault_ok_bind, Client.plain,
    Script.askSheet_bind, columnCells]
  rfl

def conclude (config : SheetConfig) (payload : Payload) (start : Nat) :
    Except Fault Placement → Script Outcome
  | .error fault => failure config payload fault
  | .ok (.existing row) =>
    return .succeeded .duplicate (.text "Application already exists in sheet.")
      (.text (toString row))
  | .ok (.appended title range reference) => do
    let duration := Script.duration start (← Script.readClock)
    notice .info config payload
      ("Appended application " ++ payload.application.id.display ++ " to " ++ title.display ++ " ("
        ++ range.display ++ ") in " ++ duration.amountText Script.durationFormat ++ " ms")
      [("sheet_title", title), ("duration_ms", .float duration)]
    return .succeeded .appended (.text "Application appended to Google Sheet.") reference

/-- The outcome that a placement comes to; a fault whose status cannot be read has none. -/
def outcomeOf : Except Fault Placement → Except Fault Outcome
  | .error fault =>
    match fault.isRetryable with
    | .ok retryable => .ok (.failed .error .sheetError retryable (failureDetail fault))
    | .error cause => .error (.misfit cause)
  | .ok (.existing row) =>
    .ok (.succeeded .duplicate (.text "Application already exists in sheet.")
      (.text (toString row)))
  | .ok (.appended _ _ reference) =>
    .ok (.succeeded .appended (.text "Application appended to Google Sheet.") reference)

theorem conclude_meets {τ : Type} {terms : Terms τ} {post : Except Fault Outcome → τ → Prop}
    {state : τ} {start : Nat} {placement : Except Fault Placement}
    (reached : post (outcomeOf placement) state) :
    (conclude config payload start placement).Meets terms post state := by
  rcases placement with fault | row | ⟨title, range, reference⟩
  · cases retry : fault.isRetryable with
    | error misfit =>
      simp only [outcomeOf, retry] at reached
      simp only [conclude, failure, retry, Script.ofMisfit_error_bind]
      exact reached
    | ok retryable =>
      simp only [outcomeOf, retry] at reached
      simp only [conclude, failure, retry, Script.ofMisfit_ok_bind]
      exact reached
  · exact reached
  · exact fun _ => reached

def opening (config : SheetConfig) (payload : Payload) : Log.Note :=
  ⟨.info, logger, "[SHEET] " ++ ("Submitting application " ++ payload.application.id.display
    ++ " to spreadsheet " ++ config.spreadsheetId ++ " (map " ++ config.columnMapVersion ++ ")"),
    noteFields config payload ++ [], none⟩

theorem submit_eq (access : Except Fault Client) :
    submit access registry config payload
      = .clock fun start => .note (opening config payload)
          ((place access registry config payload).andThen (conclude config payload start)) := by
  simp only [submit, notice, Script.readClock_bind, Script.write_bind, Script.attempt_bind]
  rfl

/-- The cells that a row is appended to: all columns that have a header. -/
def appendCells (headers : List String) : String := "A:" ++ letters (headers.length - 1)

theorem bang_notMem_appendCells (headers : List String) : '!' ∉ (appendCells headers).toList := by
  intro member
  rw [appendCells, String.toList_append] at member
  rcases List.mem_append.mp member with first | last
  · exact absurd first (by decide)
  · exact absurd (capital_of_mem_letters last).1 (by decide)

theorem appendRow_eq (fits : Fits map (headerTexts tab)) {row : List Value}
    (built : buildRow payload map (headerTexts tab) = .ok row) :
    appendRow .plain map config payload (.text tab.title) (headerTexts tab)
      = .sheet (.append config.spreadsheetId
            (address tab.title (appendCells (headerTexts tab))) row)
          (Script.onAnswer fun reported =>
            Script.ofMisfit (referenceOf reported) >>= fun reference =>
              pure (.appended (.text tab.title) reported reference)) := by
  have wide : ¬ ((headerTexts tab).length : Int) - 1 < 0 := by
    obtain ⟨header, member, _⟩ := fits.given
    have filled := List.length_pos_of_mem member
    omega
  have last : columnLetters (((headerTexts tab).length : Int) - 1)
      = .ok (letters ((headerTexts tab).length - 1)) := by
    rw [columnLetters, if_neg wide]
    congr 2
    omega
  simp only [appendRow, built, last, Script.ofMisfit_ok_bind, addressIn, Value.text?]
  exact Script.askSheet_bind _ _

theorem hasRow_extend_iff (found : book.tab? tab.title = some tab) (filled : tab.rows ≠ [])
    {rows : List (List Value)} :
    HasRow tab.title own (book.extend tab.title rows) ↔ ∃ row ∈ dataRows tab ++ rows, own row := by
  rw [← dataRows_extend filled rows]
  constructor
  · intro stands
    obtain ⟨grown, there, marked⟩ := stands
    obtain rfl := Option.some.inj ((Workbook.tab?_extend found rows).symm.trans there)
    exact marked
  · exact fun marked => ⟨tab.extend rows, Workbook.tab?_extend found rows, marked⟩

/-- The row carries a mark in the identifier column. -/
def Own (map : ColumnMap) (tab : Tab) (mark : String) (row : List Value) : Prop :=
  carries (identifierIndex map (headerTexts tab)) mark row = true

private theorem appendRow_meets (sound : map.Sound) (fits : Fits map (headerTexts tab))
    (found : book.tab? tab.title = some tab) (named : payload.application.id = .text id)
    (rows : List (List Value))
    (absent : (∀ row, others row → ¬ Own map tab (Text.trim id) row) →
      ∀ row ∈ dataRows tab ++ rows, ¬ Own map tab (Text.trim id) row) :
    (appendRow .plain map config payload (.text tab.title) (headerTexts tab)).Meets
      (sharedTerms tab.title others (Own map tab (Text.trim id)))
      (Placed tab.title (Own map tab (Text.trim id)) fun _ => True)
      ⟨book.extend tab.title rows, 3⟩ := by
  have filled := rows_ne_nil_of_fits fits
  cases built : buildRow payload map (headerTexts tab) with
  | error misfit =>
    have fails : appendRow .plain map config payload (.text tab.title) (headerTexts tab)
        = .done (.error (.misfit misfit)) := by
      simp only [appendRow, built, Script.ofMisfit_error_bind]
    rw [fails]
    exact fun value same => nomatch same
  | ok row =>
    have mine : Own map tab (Text.trim id) row := by simp [Own, carries_buildRow sound fits named built]
    rw [appendRow_eq fits built]
    intro current drifted
    obtain ⟨more, kinds, rfl⟩ := drifted
    simp only [Workbook.extend_extend]
    have stored : (book.extend tab.title (rows ++ more)).append
          (address tab.title (appendCells (headerTexts tab))) row
        = book.extend tab.title (rows ++ more ++ [row]) := by
      rw [Workbook.append_address (bang_notMem_appendCells _), Workbook.extend_extend]
    constructor
    · intro spreadsheetId range appended same
      cases same
      refine ⟨⟨_, bang_notMem_appendCells _, rfl⟩, mine, rfl, fun apart marked => ?_⟩
      obtain ⟨other, member, hit⟩ := (hasRow_extend_iff found filled).mp marked
      rcases List.mem_append.mp (List.append_assoc .. ▸ member) with known | later
      · exact absent apart other known hit
      · exact apart other (kinds other later) hit
    · intro answer now answered
      obtain ⟨after, made⟩ := now
      obtain ⟨truth, _⟩ := answered
      rcases truth.of_append with ⟨reported, rfl, rfl⟩ | ⟨fault, rfl, -⟩
      · have placed : HasRow tab.title (Own map tab (Text.trim id))
            (book.extend tab.title (rows ++ more ++ [row])) :=
          (hasRow_extend_iff found filled).mpr ⟨row, by simp, mine⟩
        rw [stored]
        show Script.Meets _ _ (Script.ofMisfit (referenceOf reported) >>= _) _
        cases referenceOf reported with
        | error misfit => exact fun value same => nomatch same
        | ok reference => exact fun _ _ _ => placed
      · exact fun value same => nomatch same

private theorem settle_meets (sound : map.Sound) (fits : Fits map (headerTexts tab))
    (found : book.tab? tab.title = some tab) (named : payload.application.id = .text id)
    (rows : List (List Value)) :
    (settle map config payload (.text tab.title) (headerTexts tab)
        (markedRow? (tab.extend rows) (identifierIndex map (headerTexts tab)) (Text.trim id))).Meets
      (sharedTerms tab.title others (Own map tab (Text.trim id)))
      (Placed tab.title (Own map tab (Text.trim id)) fun _ => True)
      ⟨book.extend tab.title rows, 3⟩ := by
  have filled := rows_ne_nil_of_fits fits
  cases scan : markedRow? (tab.extend rows) (identifierIndex map (headerTexts tab))
      (Text.trim id) with
  | some number =>
    obtain ⟨row, member, marked⟩ := (markedRow?_eq_some_iff.mp scan).exists_row
    exact fun _ _ _ => ⟨tab.extend rows, Workbook.tab?_extend found rows, row, member, marked⟩
  | none =>
    refine appendRow_meets sound fits found named rows fun _ row member => ?_
    rw [← dataRows_extend filled rows] at member
    simpa [Own] using markedRow?_eq_none_iff.mp scan row member

private theorem search_meets (sound : map.Sound) (fits : Fits map (headerTexts tab))
    (found : book.tab? tab.title = some tab) (named : payload.application.id = .text id)
    (rows : List (List Value)) :
    (Script.ofMisfit (existingRow (.list (((tab.extend rows).column
          (identifierIndex map (headerTexts tab))).map .list)) (.text id))
        >>= settle map config payload (.text tab.title) (headerTexts tab)).Meets
      (sharedTerms tab.title others (Own map tab (Text.trim id)))
      (Placed tab.title (Own map tab (Text.trim id)) fun _ => True)
      ⟨book.extend tab.title rows, 3⟩ := by
  by_cases prints : PrintsTo (identifierIndex map (headerTexts tab)) (cellWords (.text id))
      (dataRows (tab.extend rows))
  · rw [existingRow_column rfl prints, Script.ofMisfit_ok_bind]
    exact settle_meets sound fits found named rows
  · obtain ⟨cause, smudged⟩ := existingRow_smudged fun legible => prints legible.2
    rw [smudged, Script.ofMisfit_error_bind]
    exact fun value same => nomatch same

theorem place_meets (sound : map.Sound) (aims : Aims registry config map book tab)
    (filled : tab.rows ≠ []) (named : payload.application.id = .text id)
    (rows : List (List Value)) :
    (place (.ok .plain) registry config payload).Meets
      (sharedTerms tab.title others (Own map tab (Text.trim id)))
      (Placed tab.title (Own map tab (Text.trim id)) fun _ => True)
      ⟨book.extend tab.title rows, 0⟩ := by
  rw [place_eq aims.map_found]
  have fails : ∀ fault after,
      Placed tab.title (Own map tab (Text.trim id)) (fun _ => True) (.error fault : Except Fault Placement) after :=
    fun fault after value same => nomatch same
  -- Every read finds the tab with whatever rows others have appended until then.
  refine meets_read (fun _ => rfl) fails fun more _ => ?_
  simp only [Workbook.extend_extend,
    pickTitle_of_tab? (aims.extend (rows ++ more)).tab_found, Script.ofFault_ok_bind,
    Tab.extend_title, addressIn, Value.text?, Script.ofMisfit_ok_bind]
  refine meets_read (fun _ => rfl) fails fun later _ => ?_
  simp only [Workbook.extend_extend,
    Workbook.valuesAt_firstRow (Workbook.tab?_extend aims.found (rows ++ more ++ later))]
  by_cases prints : ∀ cell ∈ (tab.extend (rows ++ more ++ later)).rows.headD [],
      cell.holdsLong = false
  · simp only [headersOf_firstRow prints, headerTexts_extend filled, Script.ofMisfit_ok_bind]
    by_cases fits : Fits map (headerTexts tab)
    · obtain ⟨identifier, checked, column⟩ := checkHeaders_of_fits sound fits (.text tab.title)
      simp only [checked, Except.mapError, Script.ofFault_ok_bind, column]
      refine meets_read (fun _ => rfl) fails fun last _ => ?_
      simp only [Workbook.extend_extend,
        Workbook.valuesAt_column (Workbook.tab?_extend aims.found (rows ++ more ++ later ++ last)),
        named]
      exact search_meets sound fits aims.found named (rows ++ more ++ later ++ last)
    · obtain ⟨problem, checked⟩ := checkHeaders_of_not_fits fits (.text tab.title)
      simp only [checked, Except.mapError, Script.ofFault_error_bind]
      exact fails _ _
  · obtain ⟨cause, smudged⟩ := headersOf_smudged prints
    simp only [smudged, Script.ofMisfit_error_bind]
    exact fails _ _

/-- A submission keeps to the shared terms, and one that succeeds leaves a row with its identifier in
the tab. -/
theorem submit_meets (sound : map.Sound) (aims : Aims registry config map book tab)
    (filled : tab.rows ≠ []) (named : payload.application.id = .text id)
    (rows : List (List Value)) :
    (submit (.ok .plain) registry config payload).Meets
      (sharedTerms tab.title others (Own map tab (Text.trim id)))
      (Placed tab.title (Own map tab (Text.trim id)) fun outcome => outcome.success = true)
      ⟨book.extend tab.title rows, 0⟩ := by
  rw [submit_eq]
  intro start
  refine (Script.meets_andThen ..).mpr ?_
  refine (place_meets sound aims filled named rows).weaken fun result now placed =>
    conclude_meets ?_
  intro outcome same succeeded
  rcases result with fault | placement
  · cases retry : fault.isRetryable <;> simp only [outcomeOf, retry] at same <;> cases same
    cases succeeded
  · exact placed placement rfl trivial

end Submission

end LoanDispatch.Ledger
