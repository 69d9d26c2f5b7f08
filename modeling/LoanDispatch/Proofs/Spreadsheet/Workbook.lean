import LoanDispatch.Proofs.Spreadsheet.Address
import LoanDispatch.Spreadsheet.Service

/-!
Workbooks that are shared.  `Workbook.extend` adds rows at the end of one tab and changes nothing
else; it is all that appends do.  `Workbook.Answers` says what a service over a workbook may do with
a request: answer truly, or fail, where a failed append may have stored its row.
-/

set_option autoImplicit false

namespace LoanDispatch.Spreadsheet

namespace Tab

def extend (tab : Tab) (rows : List (List Value)) : Tab := { tab with rows := tab.rows ++ rows }

@[simp] theorem extend_title (tab : Tab) (rows : List (List Value)) :
    (tab.extend rows).title = tab.title := rfl

theorem extend_filled {tab : Tab} (filled : tab.rows ≠ []) (rows : List (List Value)) :
    (tab.extend rows).rows ≠ [] := List.append_ne_nil_of_left_ne_nil filled rows

@[simp] theorem extend_nil (tab : Tab) : tab.extend [] = tab := by simp [extend]

theorem extend_extend (tab : Tab) (rows more : List (List Value)) :
    (tab.extend rows).extend more = tab.extend (rows ++ more) := by simp [extend]

end Tab

def extendTabs (title : String) (rows : List (List Value)) : List Tab → List Tab
  | [] => []
  | tab :: rest =>
    if tab.title = title then tab.extend rows :: rest else tab :: extendTabs title rows rest

namespace Workbook

variable {title : String} {book : Workbook} {tab : Tab}

/-- A workbook with more rows at the end of its first tab with a title. -/
def extend (title : String) (rows : List (List Value)) (book : Workbook) : Workbook :=
  ⟨extendTabs title rows book.tabs⟩

@[simp] theorem extend_nil (title : String) (book : Workbook) : book.extend title [] = book := by
  have same : ∀ tabs : List Tab, extendTabs title [] tabs = tabs := by
    intro tabs
    induction tabs with
    | nil => rfl
    | cons tab rest ih => simp [extendTabs, ih]
  simp [extend, same]

theorem extend_extend (title : String) (rows more : List (List Value)) (book : Workbook) :
    (book.extend title rows).extend title more = book.extend title (rows ++ more) := by
  have chained : ∀ tabs : List Tab, extendTabs title more (extendTabs title rows tabs)
      = extendTabs title (rows ++ more) tabs := by
    intro tabs
    induction tabs with
    | nil => rfl
    | cons tab rest ih =>
      by_cases here : tab.title = title <;> simp [extendTabs, here, ih, Tab.extend_extend]
  simp [extend, chained]

theorem title_of_tab? (found : book.tab? title = some tab) : tab.title = title := by
  simpa using List.find?_some found

theorem tab?_extend (found : book.tab? title = some tab) (rows : List (List Value)) :
    (book.extend title rows).tab? title = some (tab.extend rows) := by
  have grown : ∀ tabs : List Tab, tabs.find? (fun tab => tab.title == title) = some tab →
      (extendTabs title rows tabs).find? (fun tab => tab.title == title)
        = some (tab.extend rows) := by
    intro tabs
    induction tabs with
    | nil => simp
    | cons first rest ih =>
      by_cases here : first.title = title
      · simp [extendTabs, here]
        intro same
        subst same
        rfl
      · simpa [extendTabs, here] using ih
  exact grown book.tabs found

/-- An append adds its row at the end of the tab and does nothing else. -/
theorem append_address {cells : String} (plain : '!' ∉ cells.toList) (title : String)
    (row : List Value) (book : Workbook) :
    book.append (address title cells) row = book.extend title [row] := by
  have same : ∀ tabs : List Tab, appendTo title row tabs = extendTabs title [row] tabs := by
    intro tabs
    induction tabs with
    | nil => rfl
    | cons tab rest ih => rw [appendTo, extendTabs, ih]; rfl
  simp only [append, splitAddress_address title plain, extend, same]

theorem valuesAt_firstRow (found : book.tab? title = some tab) :
    book.valuesAt (address title "1:1") = tab.firstRow := by
  have plain : '!' ∉ "1:1".toList := by decide
  simp [valuesAt, splitAddress_address title plain, found, Tab.range]

theorem valuesAt_column (found : book.tab? title = some tab) (index : Nat) :
    book.valuesAt (address title (columnCells index)) = tab.column index := by
  simp only [valuesAt, splitAddress_address title (bang_notMem_columnCells index), found,
    Option.map_some, Option.getD_some, Tab.range, columnCells_ne_firstRow index, if_false,
    columnIndex_columnCells index]

/-- The true answer to a request that only reads. -/
def read? (book : Workbook) : SheetRequest → Option Value
  | .titles _ => some (.list (book.titles.map .text))
  | .values _ range => some (.list ((book.valuesAt range).map .list))
  | .append .. => none

/-- What a service that stores rows as they are sent may do with a request over a workbook. -/
inductive Answers : SheetRequest → Workbook → Except Fault Value → Workbook → Prop where
  | told {request : SheetRequest} {book : Workbook} {answer : Value} :
      book.read? request = some answer → Answers request book (.ok answer) book
  | appended {spreadsheetId range : String} {row : List Value} {book : Workbook}
      (reported : Value) :
      Answers (.append spreadsheetId range row) book (.ok reported) (book.append range row)
  /-- The request fails and nothing is stored. -/
  | refused {request : SheetRequest} {book : Workbook} (fault : Fault) :
      Answers request book (.error fault) book
  /-- The row is stored, but the answer is lost. -/
  | lost {spreadsheetId range : String} {row : List Value} {book : Workbook} (fault : Fault) :
      Answers (.append spreadsheetId range row) book (.error fault) (book.append range row)

theorem Answers.of_read {request : SheetRequest} {book after : Workbook}
    {answer : Except Fault Value} {value : Value} (answers : Answers request book answer after)
    (reads : book.read? request = some value) :
    after = book ∧ (answer = .ok value ∨ ∃ fault, answer = .error fault) := by
  cases answers with
  | told told => exact ⟨rfl, .inl (congrArg Except.ok (Option.some.inj (told.symm.trans reads)))⟩
  | appended reported => cases reads
  | refused fault => exact ⟨rfl, .inr ⟨fault, rfl⟩⟩
  | lost fault => cases reads

theorem Answers.of_append {spreadsheetId range : String} {row : List Value}
    {book after : Workbook} {answer : Except Fault Value}
    (answers : Answers (.append spreadsheetId range row) book answer after) :
    (∃ reported, answer = .ok reported ∧ after = book.append range row) ∨
      ∃ fault, answer = .error fault ∧ (after = book ∨ after = book.append range row) := by
  cases answers with
  | told told => cases told
  | appended reported => exact .inl ⟨reported, rfl, rfl⟩
  | refused fault => exact .inr ⟨fault, rfl, .inl rfl⟩
  | lost fault => exact .inr ⟨fault, rfl, .inr rfl⟩

theorem Answers.book_after {request : SheetRequest} {book after : Workbook}
    {answer : Except Fault Value} (answers : Answers request book answer after) :
    after = book ∨ ∃ spreadsheetId range row,
      request = .append spreadsheetId range row ∧ after = book.append range row := by
  cases answers with
  | told told => exact .inl rfl
  | appended reported => exact .inr ⟨_, _, _, rfl, rfl⟩
  | refused fault => exact .inl rfl
  | lost fault => exact .inr ⟨_, _, _, rfl, rfl⟩

end Workbook

/-- The surroundings answer requests over the workbook that is seen in their state. -/
def Serves {σ : Type} (around : Surroundings σ) (book : σ → Workbook) : Prop :=
  ∀ request state,
    Workbook.Answers request (book state) (around.sheet request state).1
      (book (around.sheet request state).2)

/-- The plain service in memory serves its workbook, whatever faults and ranges it is told to give.
-/
theorem Service.serves {service : Service} (plainly : service.documents = false)
    (own : service.replies = [])
    (partner : PartnerRequest → Workbook → Except Fault PartnerReply × Workbook) :
    Serves ⟨service.answer, partner⟩ id := by
  intro request book
  simp only [Service.answer, own, Entries.lookup]
  cases Entries.lookup request.name service.faults with
  | some fault => exact .refused fault
  | none =>
    cases request with
    | titles spreadsheetId =>
      simp only [Service.perform, Service.titlesAnswer, plainly]
      exact .told rfl
    | values spreadsheetId range =>
      simp only [Service.perform, Service.valuesAnswer, plainly]
      exact .told rfl
    | append spreadsheetId range row => exact .appended _

end LoanDispatch.Spreadsheet
