import LoanDispatch.Number.Fixed
import LoanDispatch.Payload.Basic
import LoanDispatch.Value.Printed

/-!
The message to a lender: a subject and a plain body with one line for each part of the summary and
one for each document.  What the subject shows, the body shows as well, so a value that cannot be
printed is found when the body is made.
-/

set_option autoImplicit false

namespace LoanDispatch.Email

def subject (payload : Payload) : String :=
  let name := payload.application.name.orElse (.text "Untitled application")
  "Loan application submission: " ++ name.display ++ " (" ++ payload.application.id.display ++ ")"

def shown (value : Value) : Except Misfit String := (value.orElse (.text "n/a")).printed

/-- An amount: numbers have the amount format, and a missing one is shown as such. -/
def amountText : Value → Except Misfit String
  | .null => .ok "n/a"
  | .bool flag => wholeText (if flag then 1 else 0)
  | .int number => wholeText number
  | .float number => .ok (number.amountText Number.amountFormat)
  | value => value.printed
where
  /-- An integer is shown as the floating point number next to it. -/
  wholeText (number : Int) : Except Misfit String :=
    match Number.Binary64.ofInt? number with
    | some number => .ok (number.amountText Number.amountFormat)
    | none => .error .tooLarge

def documentLine (document : Document) : Except Misfit String := do
  let title ← document.title.printed
  let documentType ← document.documentType.printed
  let version ← document.version.printed
  return "  - " ++ title ++ " (" ++ documentType ++ ", v" ++ version ++ ")"

def documentLines (documents : List Document) : Except Misfit (List String) :=
  if documents.isEmpty then .ok ["  (none)"] else documents.mapM documentLine

def summaryLines (name id product amount submittedAt : String) : List String :=
  ["Application: " ++ name,
   "Application ID: " ++ id,
   "Product: " ++ product,
   "Requested Amount: " ++ amount,
   "Submitted At: " ++ submittedAt]

def bodyLines (payload : Payload) : Except Misfit (List String) := do
  let application := payload.application
  let name ← shown application.name
  let id ← application.id.printed
  let product ← shown application.productType
  let amount ← amountText application.requestedAmount
  let submittedAt ← payload.submittedAt.isoText
  let documents ← documentLines payload.documents
  return summaryLines name id product amount submittedAt ++ ["", "Documents:"] ++ documents

/-- Every line of the body ends with a line break. -/
def body (payload : Payload) : Except Misfit String := do
  return Text.join "\n" (← bodyLines payload) ++ "\n"

end LoanDispatch.Email
