import LoanDispatch.Number.Reading
import LoanDispatch.Url.Basic
import LoanDispatch.Url.Host

/-!
Reading an address into its normal parts.  Scheme and host are written small, the usual number of
the scheme is left out, dot segments are resolved, and characters that a part does not admit are
escaped.  An address without a scheme or host is a path.
-/

set_option autoImplicit false

namespace LoanDispatch.Url

/-- The parts before and after the first occurrence of a character, if there is any. -/
def cut (separator : Char) (cs : List Char) : List Char × Option (List Char) :=
  let before := cs.takeWhile (· ≠ separator)
  (before, (cs.drop before.length).tail?)

def isSchemeChar (c : Char) : Bool := c.isAlphanum || ['+', '.', '-'].contains c

/-- The scheme in front of the first colon, and the rest. -/
def cutScheme (cs : List Char) : List Char × List Char :=
  let scheme := cs.takeWhile isSchemeChar
  let startsWell := (scheme.head?.map Char.isAlpha).getD true
  match cs.drop scheme.length with
  | ':' :: rest => if startsWell then (scheme, rest) else ([], cs)
  | _ => ([], cs)

/-- The part behind two slashes up to the path, and the rest. -/
def cutAuthority : List Char → List Char × List Char
  | '/' :: '/' :: rest =>
    let ends (c : Char) : Bool := c = '/' || c = '?' || c = '#'
    (rest.takeWhile fun c => !ends c, rest.dropWhile fun c => !ends c)
  | cs => ([], cs)

/-- The user information in front of the last at sign, and the rest. -/
def cutUserInfo (cs : List Char) : List Char × List Char :=
  let rest := Text.afterLast '@' cs
  (cs.take (cs.length - rest.length - 1), rest)

/-- The host, which may stand in brackets, and the number after a colon. -/
def cutHost (cs : List Char) : List Char × List Char :=
  let bracketed := cs.length - (Text.afterLast ']' cs).length
  let length :=
    if cs.head? = some '[' ∧ ']' ∈ cs then bracketed else (cs.takeWhile (· ≠ ':')).length
  let rest := cs.drop length
  (cs.take length, if rest.head? = some ':' then rest.drop 1 else rest)

/-- The usual numbers of schemes, which need not be written. -/
def usualNumbers : List (String × Int) :=
  [("ftp", 21), ("http", 80), ("https", 443), ("ws", 80), ("wss", 443)]

/-- The number after a host, unless it is the usual one. -/
def normalNumber (scheme digits : String) : Except UrlProblem (Option Int) :=
  if digits = "" then .ok none
  else
    match Number.readInteger? digits with
    | none => .error (.hostNumber digits)
    | some number => .ok (if usualNumbers.contains (scheme, number) then none else some number)

/-- Resolves dot segments; a double dot takes away the segment before it. -/
def resolveDots (segments : List (List Char)) : List (List Char) :=
  segments.foldl
    (fun kept segment =>
      if segment = ['.'] then kept
      else if segment = ['.', '.'] then (if kept = [] ∨ kept = [[]] then kept else kept.dropLast)
      else kept ++ [segment])
    []

def normalPath (path : List Char) : String :=
  String.ofList (['/'].intercalate (resolveDots (Text.splitChars '/' path)))

def control? (cs : List Char) : Option (Char × Nat) :=
  (cs.zipIdx).find? fun place => place.1.toNat < 0x20 || place.1.toNat == 0x7F

def read (s : String) : Except UrlProblem Url := do
  if 65536 < s.length then throw .tooLong
  if let some (c, position) := control? s.toList then throw (.control c position)
  let (beforeFragment, fragment) := cut '#' s.toList
  let (beforeQuery, query) := cut '?' beforeFragment
  let (scheme, afterScheme) := cutScheme beforeQuery
  let (authority, path) := cutAuthority afterScheme
  let (userInfo, hostAndNumber) := cutUserInfo authority
  let (host, digits) := cutHost hostAndNumber
  let schemeText := String.ofList scheme
  let host ← normalHost host
  let number ← normalNumber schemeText (String.ofList digits)
  let hasAuthority := userInfo ≠ [] ∨ host ≠ "" ∨ number.isSome
  if hasAuthority ∧ path ≠ [] ∧ path.head? ≠ some '/' then throw .pathStart
  if ¬ hasAuthority ∧ scheme = [] ∧ path.take 2 = ['/', '/'] then throw .doubleSlash
  if ¬ hasAuthority ∧ scheme = [] ∧ path.head? = some ':' then throw .colonStart
  let path := if hasAuthority ∨ scheme ≠ [] then normalPath path else String.ofList path
  return {
    scheme := Text.lower schemeText
    userInfo := quote isUserInfoChar (String.ofList userInfo)
    host := host
    number := number
    path := quote isPathChar path
    query := query.map fun cs => quote isQueryChar (String.ofList cs)
    fragment := fragment.map fun cs => quote isFragmentChar (String.ofList cs) }

end LoanDispatch.Url
