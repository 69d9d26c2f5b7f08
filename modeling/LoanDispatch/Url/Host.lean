import LoanDispatch.Number.Reading
import LoanDispatch.Text.Case
import LoanDispatch.Url.Basic
import LoanDispatch.Url.Escape
import LoanDispatch.Url.Punycode

/-!
The normal form of a host.  A host is four byte numbers between points, groups of hexadecimal digits
in brackets, or a name.  A name is written small, and a name with letters beyond ASCII is written
label by label in ASCII letters.
-/

set_option autoImplicit false

namespace LoanDispatch.Url

/-- A decimal number of a byte, without zeros in front. -/
def isByte (part : List Char) : Bool :=
  1 ≤ part.length && part.length ≤ 3 && part.all Char.isDigit
    && (part.length == 1 || part.head? != some '0')
    && Number.ofDigits 10 (part.filterMap Text.asciiDigit?) ≤ 255

def isByteHost (host : List Char) : Bool :=
  let parts := Text.splitChars '.' host
  parts.length == 4 && parts.all isByte

def isGroup (part : List Char) : Bool :=
  1 ≤ part.length && part.length ≤ 4 && part.all isHexDigit

/-- The groups on one side of a gap; a side that touches the end of the host is empty. -/
def besideGap (side : List (List Char)) : List (List Char) := if side = [[]] then [] else side

/-- Eight groups between colons, or fewer around a gap, which stands for groups of zeros. -/
def areGroups (parts : List (List Char)) : Bool :=
  match ((parts.drop 1).dropLast).findIdx? List.isEmpty with
  | none => parts.length == 8 && parts.all isGroup
  | some gap =>
    let written := besideGap (parts.take (gap + 1)) ++ besideGap (parts.drop (gap + 2))
    written.length ≤ 7 && written.all isGroup

/-- Groups between colons; four bytes between points may stand for the last two.  Behind a percent
sign there may be the name of a zone. -/
def isGroupHost (host : List Char) : Bool :=
  let address := host.takeWhile (· ≠ '%')
  let zone := host.drop address.length
  let parts := Text.splitChars ':' address
  let last := parts.getLastD []
  let parts := if isByteHost last then parts.dropLast ++ [['0'], ['0']] else parts
  areGroups parts && (zone.isEmpty || (2 ≤ zone.length && !(zone.drop 1).contains '%'))

/-- A character of a label: a small letter, a digit, a hyphen, or a printed character that is not
ASCII. -/
def isLabelChar (c : Char) : Bool :=
  if Punycode.isAscii c then c.isLower || c.isDigit || c == '-' else Text.isPrintable c

/-- A label neither starts nor ends with a hyphen, and two hyphens in the third and fourth place are
kept for labels that are written in ASCII letters already. -/
def isLabel (label : List Char) : Bool :=
  !label.isEmpty && label.all isLabelChar && label.head? != some '-'
    && label.getLast? != some '-'
    && ((label.drop 2).take 2 != ['-', '-'] || label.take 2 == ['x', 'n'])

def asciiLabel (label : List Char) : List Char :=
  if label.all Punycode.isAscii then label else ['x', 'n', '-', '-'] ++ Punycode.encode label

def isPoint (c : Char) : Bool :=
  c == '.' || [0x3002, 0xFF0E, 0xFF61].contains c.toNat

/-- The ASCII form of a name, if it has labels only and is short enough. -/
def asciiName? (name : List Char) : Option (List Char) :=
  let labels := Text.splitChars '.' (name.map fun c => if isPoint c then '.' else c)
  let isClosed := labels.getLast? == some []
  let labels := if isClosed then labels.dropLast else labels
  let written := labels.map asciiLabel
  let joined := ['.'].intercalate written
  if labels.all isLabel ∧ (written.all fun label => label.length ≤ 63) ∧ joined.length ≤ 253 then
    some (joined ++ if isClosed then ['.'] else [])
  else none

def looksLikeBytes (host : List Char) : Bool :=
  let parts := Text.splitChars '.' host
  parts.length == 4 && parts.all fun part => !part.isEmpty && part.all Char.isDigit

def normalHost (host : List Char) : Except UrlProblem String :=
  let text := String.ofList host
  if looksLikeBytes host then
    if isByteHost host then .ok text else .error (.hostNumbers text)
  else if host.head? = some '[' ∧ host.getLast? = some ']' ∧ 2 ≤ host.length then
    let inside := (host.drop 1).dropLast
    if isGroupHost inside then .ok (String.ofList inside) else .error (.hostGroups text)
  else if host.all Punycode.isAscii then .ok (quote isHostChar (Text.lower text))
  else
    match asciiName? (Text.lower text).toList with
    | some name => .ok (String.ofList name)
    | none => .error (.hostName text)

end LoanDispatch.Url
