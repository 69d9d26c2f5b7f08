import LoanDispatch.Script.Run
import LoanDispatch.Spreadsheet.Client
import LoanDispatch.Spreadsheet.Workbook

/-!
A spreadsheet service in memory.  It answers from a workbook, either plainly or with the reply
documents of the programming interface, and its answers can be disturbed: by faults, by another
reported range, and by whole replies that replace its own.
-/

set_option autoImplicit false

namespace LoanDispatch.Spreadsheet

structure Service where
  documents : Bool
  faults : List (String × Fault)
  /-- The range that appends report in place of the true one. -/
  reported : Option Value
  /-- Replies by the kind of request; an append that is answered so stores nothing. -/
  replies : List (String × Value)

namespace Service

def plain : Service := ⟨false, [], none, []⟩

def tabDocument (title : String) : Value := .map [("properties", .map [("title", .text title)])]

def titlesAnswer (service : Service) (book : Workbook) : Value :=
  if service.documents then .map [("sheets", .list (book.titles.map tabDocument))]
  else .list (book.titles.map .text)

def valuesAnswer (service : Service) (book : Workbook) (range : String) : Value :=
  let rows : Value := .list ((book.valuesAt range).map .list)
  if service.documents then .map [("values", rows)] else rows

def appendAnswer (service : Service) (book : Workbook) (range : String) : Value :=
  let reported := service.reported.getD (book.reportedRange range)
  if service.documents then .map [("updates", .map [("updatedRange", reported)])] else reported

/-- The undisturbed answer to a request, and the workbook after it. -/
def perform (service : Service) (request : SheetRequest) (book : Workbook) : Value × Workbook :=
  match request with
  | .titles _ => (service.titlesAnswer book, book)
  | .values _ range => (service.valuesAnswer book range, book)
  | .append _ range row =>
    let book := book.append range row
    (service.appendAnswer book range, book)

/-- The answer to a request, and the workbook after it. -/
def answer (service : Service) (request : SheetRequest) (book : Workbook) :
    Except Fault Value × Workbook :=
  match Entries.lookup request.name service.faults with
  | some fault => (.error fault, book)
  | none =>
    match Entries.lookup request.name service.replies with
    | some reply => (.ok reply, book)
    | none =>
      let (value, book) := service.perform request book
      (.ok value, book)

end Service

end LoanDispatch.Spreadsheet
