import LoanDispatch.Proofs.ColumnMap.Registrations
import LoanDispatch.Proofs.Ledger.Refinement
import LoanDispatch.Proofs.Text.Blank

/-!
Tabs that are laid out by a map.  The first row is the headers of the map and nothing stands below.
A registered map is not always accepted there: the texts of a sheet are trimmed before they are
compared, so a header with blanks around it is never found, and a blank header alone is no header row.
-/

set_option autoImplicit false

namespace LoanDispatch.Ledger

open Spreadsheet

/-- A tab whose first row is the headers of a map, in order, with no rows below. -/
def layOut (title : String) (map : ColumnMap) : Tab := ⟨title, [map.headers.map .text]⟩

/-- What a tab that is laid out by a map needs in order to take a payload. -/
structure Ready (map : ColumnMap) (payload : Payload) : Prop where
  identified : payload.application.id.holdsLong = false
  trimmed : ∀ header ∈ map.headers, Text.trim header = header
  titled : map.headers ≠ [""]
  resolves : ∀ header ∈ map.headers, ∃ cell, CellOf payload map header cell

/-- What a submission to a tab that is laid out by its map comes to. -/
inductive Settles (map : ColumnMap) (payload : Payload) (title : String) (book : Workbook) :
    Outcome → Workbook → Prop where
  | stored {row : List Value} {reference : Value} :
      Ready map payload → List.Forall₂ (CellOf payload map) map.headers row →
        Settles map payload title book
          (.succeeded .appended (.text "Application appended to Google Sheet.") reference)
          (book.extend title [row])
  | refused {detail : Value} :
      ¬ Ready map payload →
        Settles map payload title book (.failed .error .sheetError false detail) book

section Layout

variable {map : ColumnMap} {title : String} {payload : Payload}

theorem headerTexts_layOut (title : String) (map : ColumnMap) :
    headerTexts (layOut title map) = map.headers.map Text.trim := by
  simp only [headerTexts, layOut, List.headD_cons, List.map_map]
  rfl

theorem dataRows_layOut (title : String) (map : ColumnMap) : dataRows (layOut title map) = [] := rfl

/-- Headers are texts, so a tab that is laid out prints. -/
theorem legible_layOut (title : String) (map : ColumnMap) {id : Value}
    (prints : id.holdsLong = false) : Legible map (layOut title map) id where
  headers cell member := by
    obtain ⟨header, _, rfl⟩ := List.mem_map.mp member
    rfl
  sought := prints
  column := printsTo_nil

theorem map_trim_eq_self (trimmed : ∀ header ∈ map.headers, Text.trim header = header) :
    map.headers.map Text.trim = map.headers := by
  rw [List.map_congr_left trimmed, List.map_id']

/-- A sound map has a header that is not blank, unless a blank one is all it has. -/
theorem exists_header_ne_blank (sound : map.Sound) (titled : map.headers ≠ [""]) :
    ∃ header ∈ map.headers, header ≠ "" := by
  -- Two blank headers would be the same header twice.
  by_contra none
  push Not at none
  cases shape : map.headers with
  | nil => exact sound.columns_given (List.map_eq_nil_iff.mp shape)
  | cons first rest =>
    have distinct := sound.headers_distinct
    rw [shape] at none titled distinct
    obtain rfl := none first List.mem_cons_self
    cases rest with
    | nil => exact titled rfl
    | cons second others =>
      obtain rfl := none second (by simp)
      simp at distinct

/-- The headers of a map fit the map itself, as the sheet shows them, exactly when none has blanks
around it and they are not one blank header alone. -/
theorem fits_trimmed_iff (sound : map.Sound) :
    Fits map (map.headers.map Text.trim) ↔
      (∀ header ∈ map.headers, Text.trim header = header) ∧ map.headers ≠ [""] := by
  constructor
  · intro fits
    refine ⟨fun header member => ?_, fun blank => ?_⟩
    -- The header is found among trimmed texts, so it is one itself.
    · obtain ⟨source, _, rfl⟩ := List.mem_map.mp (fits.present header member)
      exact Text.trim_trim source
    · obtain ⟨header, member, filled⟩ := fits.given
      rw [blank] at member
      obtain rfl := List.mem_singleton.mp member
      exact filled (by decide)
  · intro ready
    obtain ⟨trimmed, titled⟩ := ready
    rw [map_trim_eq_self trimmed]
    exact ⟨exists_header_ne_blank sound titled, fun _ member => member⟩

theorem Finds.settles {config : SheetConfig} {book after : Workbook}
    {placement : Except Fault Placement} {calls : List SheetRequest} (sound : map.Sound)
    (picked : config.tab? book = some (layOut title map))
    (finds : Finds Reportable map config payload book placement calls after) :
    ∃ outcome, outcomeOf placement = .ok outcome ∧
      Settles map payload title book outcome after := by
  cases finds with
  | noTab _ absent => cases absent.symm.trans picked
  | misfit problem other unfit =>
    cases other.symm.trans picked
    rw [headerTexts_layOut, fits_trimmed_iff sound] at unfit
    exact ⟨_, outcomeOf_layout problem,
      .refused fun ready => unfit ⟨ready.trimmed, ready.titled⟩⟩
  | illegible cause other smudged _ =>
    cases other.symm.trans picked
    exact ⟨_, outcomeOf_misfit cause,
      .refused fun ready => smudged (legible_layOut title map ready.identified)⟩
  | existing other _ _ first =>
    cases other.symm.trans picked
    obtain ⟨row, member, _⟩ := first.exists_row
    rw [dataRows_layOut] at member
    exact absurd member List.not_mem_nil
  | unbuilt other _ _ _ failed =>
    refine ⟨_, outcomeOf_misfit _, .refused fun ready => ?_⟩
    obtain ⟨row, built⟩ := exists_buildRow ready.resolves _
    cases failed.symm.trans built
  | appended other fits legible _ built reportable =>
    cases other.symm.trans picked
    rw [headerTexts_layOut] at fits built
    obtain ⟨trimmed, titled⟩ := (fits_trimmed_iff sound).mp fits
    rw [map_trim_eq_self trimmed] at built
    have cells := buildRow_eq_ok_iff.mp built
    have resolves := ((List.forall₂_and_left ..).mp
      (cells.imp fun _ cell shown => ⟨Exists.intro cell shown, shown⟩)).1
    obtain ⟨reference, read⟩ := exists_referenceOf reportable
    rw [read]
    exact ⟨_, rfl, .stored ⟨legible.sought, trimmed, titled, resolves⟩ cells⟩

theorem Settles.status_iff {book after : Workbook} {outcome : Outcome}
    (settles : Settles map payload title book outcome after) :
    outcome.status = .appended ↔ Ready map payload := by
  cases settles with
  | stored ready _ => exact iff_of_true rfl ready
  | refused unready => exact iff_of_false nofun unready

theorem Settles.exists_row {book after : Workbook} {outcome : Outcome}
    (settles : Settles map payload title book outcome after)
    (appended : outcome.status = .appended) :
    ∃ row, List.Forall₂ (CellOf payload map) map.headers row ∧ after = book.extend title [row] := by
  cases settles with
  | stored _ cells => exact ⟨_, cells, rfl⟩
  | refused => cases appended

end Layout

section Run

variable {σ : Type} {around : Surroundings σ} {book : σ → Workbook} {registry larger : Registry}
  {map : ColumnMap} {config : SheetConfig} {payload : Payload} {contexts : Log.Contexts}
  {world : World σ}

/-- A submission to a tab that is laid out by a registered map comes to an outcome: the row is stored
when the tab is ready for the payload, and otherwise the submission is refused and nothing changes. -/
theorem own_layout_settles (reachable : registry.Reachable)
    (accepted : registry.register map = .ok larger)
    (tidy : Text.trim map.version = map.version)
    (asked : Text.trim config.columnMapVersion = map.version) {title : String}
    (picked : config.tab? (book world.state) = some (layOut title map))
    (serves : Serves around book)
    (answered : (submit (.ok .plain) larger config payload).Along around
      (fun _ request answer _ => AnsweredWith Reportable request answer) contexts world) :
    let run := (submit (.ok .plain) larger config payload).run around contexts world
    ∃ outcome, run.1 = .ok outcome ∧
      (outcome.status = .appended ↔ Ready map payload) ∧
      Settles map payload title (book world.state) outcome (book run.2.2.state) := by
  intro run
  obtain ⟨placement, calls, finds, _, result⟩ :=
    submit_found (.register reachable accepted) (Registry.get?_registered accepted tidy asked)
      serves answered
  obtain ⟨outcome, reached, settles⟩ :=
    finds.settles (Registry.register_eq_ok_iff.mp accepted).1 picked
  exact ⟨outcome, result.trans reached, settles.status_iff, settles⟩

/-- The smallest map is ready for the smallest order, and the order is stored in a tab of its own. -/
theorem small_layout_settles :
    let run := ((smallOrder "A-1").script smallRegistry).run
      (smallSurroundings ⟨false, [], some .null, []⟩) [] (World.fresh (smallBook []) 0)
    ∃ outcome, run.1 = .ok outcome ∧ outcome.status = .appended ∧
      run.2.2.state = (smallBook []).extend "Ledger" [[.text "A-1"]] := by
  intro run
  have ready : Ready smallMap (smallOrder "A-1").payload := by
    refine ⟨rfl, by decide, by decide, fun header member => ?_⟩
    obtain rfl := List.mem_singleton.mp member
    exact ⟨.text "A-1", rfl⟩
  have answered : ((smallOrder "A-1").script smallRegistry).Along
      (smallSurroundings ⟨false, [], some .null, []⟩)
      (fun _ request answer _ => AnsweredWith Reportable request answer) []
      (World.fresh (smallBook []) 0) := by
    refine (answered_reporting _ _ _).imp fun before request told => ?_
    obtain ⟨value, same, reported⟩ := told
    exact ⟨value, same, fun named => .inl (reported named)⟩
  obtain ⟨outcome, reached, appended, settles⟩ :=
    @own_layout_settles _ _ _ _ _ _ (smallOrder "A-1").config _ _ _ .builtin
      (Registry.register_eq_ok_iff.mpr ⟨smallMap_sound, rfl⟩) (by decide) (by decide) "Ledger" rfl
      (Service.serves rfl rfl _) answered
  have status := appended.mpr ready
  obtain ⟨row, cells, stored⟩ := settles.exists_row status
  have built : row = [.text "A-1"] :=
    Except.ok.inj ((buildRow_eq_ok_iff.mpr cells).symm.trans rfl)
  exact ⟨outcome, reached, status, built ▸ stored⟩

def paddedHeaderMap : ColumnMap := ⟨"v9", [⟨" ID ", identifierPath⟩]⟩

/-- A header with blanks around it is accepted when its map is registered, and then refused in the very
tab that the map lays out. -/
theorem padded_header_refused :
    let larger := Registry.builtin.put paddedHeaderMap
    let book : Workbook := ⟨[layOut "Ledger" paddedHeaderMap]⟩
    let run := (submit (.ok .plain) larger ⟨"sheet-1", "v9", none⟩ (smallOrder "A-1").payload).run
      (smallSurroundings .plain) [] (World.fresh book 0)
    Registry.builtin.register paddedHeaderMap = .ok larger ∧ Text.trim "v9" = "v9" ∧
      run.2.2.state = book ∧
      ∃ outcome, run.1 = .ok outcome ∧ outcome.success = false ∧ outcome.status = .error := by
  have sound : paddedHeaderMap.Sound := ⟨by decide, by decide, by decide, by decide⟩
  exact ⟨Registry.register_eq_ok_iff.mpr ⟨sound, rfl⟩, by decide, rfl, _, rfl, rfl, rfl⟩

end Run

end LoanDispatch.Ledger
