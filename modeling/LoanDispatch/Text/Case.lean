import LoanDispatch.Text.CaseTable
import LoanDispatch.Text.Range

/-!
Lowering and raising of letters.  `lower` maps every capital to its small form; a capital sigma
becomes the final form at the end of a word.  `raise` gives the capitals of the letters whose
capital is plain ASCII, which is what a comparison with ASCII names needs.
-/

set_option autoImplicit false

namespace LoanDispatch.Text

/-- The small form of a capital with a single small letter. -/
def lowerChar (c : Char) : Char :=
  match loweringRuns.find? fun run =>
      run.1 ≤ c.toNat && c.toNat ≤ run.2.1 && (c.toNat - run.1) % run.2.2.1 == 0 with
  | some run => Char.ofNat (run.2.2.2 + (c.toNat - run.1))
  | none => c

/-- The first character that is not skipped is a letter with case. -/
def meetsCased (cs : List Char) : Bool :=
  match cs.dropWhile (memRanges caseIgnorableRanges) with
  | [] => false
  | c :: _ => memRanges casedRanges c

/-- Lowers the rest of a text; `before` holds the characters already passed, nearest first. -/
def lowerFrom (before : List Char) : List Char → List Char
  | [] => []
  | c :: rest =>
    let image :=
      if c = 'Σ' then [if meetsCased before && !meetsCased rest then 'ς' else 'σ']
      else if c = 'İ' then ['i', Char.ofNat 0x307]
      else [lowerChar c]
    image ++ lowerFrom (c :: before) rest

def lower (s : String) : String :=
  String.ofList (lowerFrom [] s.toList)

/-- The capital form of a letter whose capital form is plain ASCII; any other character is kept. -/
def raiseChar (c : Char) : List Char :=
  match c.toNat with
  | 0xDF => ['S', 'S']
  | 0x131 => ['I']
  | 0x17F => ['S']
  | 0xFB00 => ['F', 'F']
  | 0xFB01 => ['F', 'I']
  | 0xFB02 => ['F', 'L']
  | 0xFB03 => ['F', 'F', 'I']
  | 0xFB04 => ['F', 'F', 'L']
  | 0xFB05 => ['S', 'T']
  | 0xFB06 => ['S', 'T']
  | _ => [c.toUpper]

def raise (s : String) : String :=
  String.ofList (s.toList.flatMap raiseChar)

end LoanDispatch.Text
