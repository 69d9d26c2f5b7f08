import LoanDispatch.Spreadsheet.Address

/-!
Workbooks.  A workbook holds tabs of rows; it is read by address, a whole first row or a whole
column, and grows by rows at the end of a tab.
-/

set_option autoImplicit false

namespace LoanDispatch.Spreadsheet

/-- The value of a column letter, from 1 to 26. -/
def letterValue (c : Char) : Nat := c.toNat - 'A'.toNat + 1

def columnIndex (cs : List Char) : Nat :=
  cs.foldl (fun number c => 26 * number + letterValue c) 0 - 1

/-- The title and the cells of an address: the cells follow the last exclamation mark, and the title
stands before it between quotes. -/
def splitAddress (range : String) : String × String :=
  let cells := Text.afterLast '!' range.toList
  let before := range.toList.take (range.length - cells.length - 1)
  let quoted := (before.drop 1).dropLast
  (String.ofList (Text.replacePair Text.singleQuote Text.singleQuote Text.singleQuote quoted),
    String.ofList cells)

structure Tab where
  title : String
  rows : List (List Value)

structure Workbook where
  tabs : List Tab

namespace Tab

/-- The first row, as the rows of a range; an empty tab has none. -/
def firstRow (tab : Tab) : List (List Value) := tab.rows.take 1

/-- The cells of a column, row by row; a row that is too short has no cell there. -/
def column (tab : Tab) (index : Nat) : List (List Value) :=
  tab.rows.map fun row => (row[index]?).toList

/-- The rows of a range: the first row, or a column. -/
def range (tab : Tab) (cells : String) : List (List Value) :=
  if cells = "1:1" then tab.firstRow
  else tab.column (columnIndex (cells.toList.takeWhile (· ≠ ':')))

def append (tab : Tab) (row : List Value) : Tab := { tab with rows := tab.rows ++ [row] }

def lastRange (tab : Tab) : String :=
  let row := toString tab.rows.length
  let width := (tab.rows.getLast?.getD []).length
  address tab.title ("A" ++ row ++ ":" ++ letters (width - 1) ++ row)

end Tab

namespace Workbook

def titles (book : Workbook) : List String := book.tabs.map Tab.title

def tab? (book : Workbook) (title : String) : Option Tab :=
  book.tabs.find? fun tab => tab.title == title

/-- The rows at an address; there are none outside the tabs. -/
def valuesAt (book : Workbook) (range : String) : List (List Value) :=
  let (title, cells) := splitAddress range
  ((book.tab? title).map fun tab => tab.range cells).getD []

/-- Puts a row at the end of the first tab with a title. -/
def appendTo (title : String) (row : List Value) : List Tab → List Tab
  | [] => []
  | tab :: rest =>
    if tab.title = title then tab.append row :: rest else tab :: appendTo title row rest

def append (book : Workbook) (range : String) (row : List Value) : Workbook :=
  ⟨appendTo (splitAddress range).1 row book.tabs⟩

/-- The range of the last row of the tab of an address, or null outside the tabs. -/
def reportedRange (book : Workbook) (range : String) : Value :=
  ((book.tab? (splitAddress range).1).map fun tab => Value.text tab.lastRange).getD .null

end Workbook

end LoanDispatch.Spreadsheet
