import LoanDispatch.Entries
import LoanDispatch.Text.Blank
import LoanDispatch.Text.Quoted

/-!
Environment files.  Every line binds a name to a value, which may stand between quotes; a line that
does not is skipped.  A value can refer to other variables, which stand for what was bound before or
for what the environment holds.
-/

set_option autoImplicit false

namespace LoanDispatch.EnvFile

open Text

/-- A name and its value; a name alone has no value, and a blank line has neither. -/
structure Binding where
  name : Option String
  value : Option String

/-- A reading of the front of a text: what was read and the rest, or the rest at which it failed. -/
abbrev Reading (α : Type) := Except (List Char) (α × List Char)

def isLineEnd (c : Char) : Bool := c = '\n' || c = '\r'

def isInlineBlank (c : Char) : Bool := isBlank c && !isLineEnd c

def unifyLines : List Char → List Char
  | '\r' :: '\n' :: rest => '\n' :: unifyLines rest
  | '\r' :: rest => '\n' :: unifyLines rest
  | c :: rest => c :: unifyLines rest
  | [] => []

def skipExport (cs : List Char) : List Char :=
  let word := ['e', 'x', 'p', 'o', 'r', 't']
  let after := cs.drop word.length
  if word.isPrefixOf cs ∧ (after.head?.map isInlineBlank).getD false then
    after.dropWhile isInlineBlank
  else cs

/-- The name of a binding; a comment has none. -/
def readName (cs : List Char) : Reading (Option String) :=
  match cs with
  | '#' :: _ => .ok (none, cs)
  | c :: rest =>
    if c = singleQuote then
      let name := rest.takeWhile (· ≠ singleQuote)
      match rest.drop name.length with
      | _ :: after => if name = [] then .error cs else .ok (some (String.ofList name), after)
      | [] => .error cs
    else
      let name := cs.takeWhile fun c => !(c = '=' || c = '#' || isBlank c)
      if name = [] then .error cs else .ok (some (String.ofList name), cs.drop name.length)
  | [] => .error cs

/-- The count of characters in front of the closing quote; a quote behind a backslash closes only
when no other quote does, and then the last one. -/
def quotedLength? (quote : Char) : List Char → Option Nat
  | [] => none
  | [c] => if c = quote then some 0 else none
  | c :: d :: rest =>
    if c = quote then some 0
    else if c = '\\' ∧ d = quote then
      match quotedLength? quote rest with
      | some length => some (length + 2)
      | none => some 1
    else (quotedLength? quote (d :: rest)).map (· + 1)

def escapeImage (c : Char) : Option Char :=
  match c with
  | '\\' => some '\\'
  | 'a' => some (Char.ofNat 7)
  | 'b' => some (Char.ofNat 8)
  | 'f' => some (Char.ofNat 12)
  | 'n' => some '\n'
  | 'r' => some '\r'
  | 't' => some '\t'
  | 'v' => some (Char.ofNat 11)
  | _ => if c = singleQuote ∨ c = doubleQuote then some c else none

/-- Replaces the escapes of a quoted value; single quotes know only the backslash and their own
quote. -/
def unescape (quote : Char) : List Char → List Char
  | '\\' :: c :: rest =>
    let known := quote = doubleQuote ∨ c = '\\' ∨ c = singleQuote
    match escapeImage c with
    | some image =>
      if known then image :: unescape quote rest else '\\' :: unescape quote (c :: rest)
    | none => '\\' :: unescape quote (c :: rest)
  | c :: rest => c :: unescape quote rest
  | [] => []

def readQuoted (quote : Char) (cs : List Char) : Reading String :=
  let body := cs.drop 1
  match quotedLength? quote body with
  | some length =>
    .ok (String.ofList (unescape quote (body.take length)), body.drop (length + 1))
  | none => .error cs

/-- Cuts off a comment, which begins with a number sign behind a blank. -/
def cutComment : List Char → List Char
  | [] => []
  | c :: rest =>
    if isBlank c ∧ (rest.dropWhile isBlank).head? = some '#' then [] else c :: cutComment rest

/-- A value without quotes: the rest of the line without its comment and the blanks before it. -/
def readPlain (cs : List Char) : String × List Char :=
  let line := cs.takeWhile fun c => !isLineEnd c
  (String.ofList (trimEnd (cutComment line)), cs.drop line.length)

def readValue (cs : List Char) : Reading String :=
  match cs with
  | [] => .ok ("", [])
  | c :: _ =>
    if c = singleQuote ∨ c = doubleQuote then readQuoted c cs
    else if isLineEnd c then .ok ("", cs)
    else .ok (readPlain cs)

def readLineEnd (cs : List Char) : Except (List Char) (List Char) :=
  let after := cs.dropWhile isInlineBlank
  let rest := match after with
    | '#' :: _ => after.dropWhile fun c => !isLineEnd c
    | _ => after
  match rest with
  | [] => .ok []
  | c :: more => if isLineEnd c then .ok more else .error rest

/-- The binding at the front of a text that begins with no blank. -/
def readBinding (cs : List Char) : Except (List Char) (Binding × List Char) := do
  let (name, afterName) ← readName (skipExport cs)
  match afterName.dropWhile isInlineBlank with
  | '=' :: rest =>
    let (value, afterValue) ← readValue (rest.dropWhile isInlineBlank)
    return (⟨name, some value⟩, ← readLineEnd afterValue)
  | rest => return (⟨name, none⟩, ← readLineEnd rest)

def skipLine (cs : List Char) : List Char := (cs.dropWhile fun c => !isLineEnd c).drop 1

/-- The bindings of a text, in order; `fuel` bounds their number. -/
def readBindings : Nat → List Char → List Binding
  | 0, _ => []
  | fuel + 1, cs =>
    match cs.dropWhile isBlank with
    | [] => []
    | start =>
      match readBinding start with
      | .ok (binding, rest) => binding :: readBindings fuel rest
      | .error rest => readBindings fuel (skipLine rest)

def bindings (content : String) : List (String × Option String) :=
  let cs := unifyLines content.toList
  (readBindings (cs.length + 1) cs).filterMap fun binding =>
    binding.name.map fun name => (name, binding.value)

/-- A reference to a variable at the front of a text, after its dollar sign and brace: the name, the
text to use when there is no such variable, and the rest. -/
def readReference? (cs : List Char) : Option (String × String × List Char) :=
  let close := Char.ofNat 0x7D
  let name := cs.takeWhile fun c => !(c = close || c = ':')
  match cs.drop name.length with
  | ':' :: '-' :: rest =>
    let default := rest.takeWhile (· ≠ close)
    match rest.drop default.length with
    | _ :: after => some (String.ofList name, String.ofList default, after)
    | [] => none
  | c :: after => if c = close then some (String.ofList name, "", after) else none
  | [] => none

/-- The text of a variable; one that is bound without a value is empty. -/
def variableText (known : List (String × Option String)) (name default : String) : String :=
  match Entries.lookup name known with
  | some value => value.getD ""
  | none => default

/-- Replaces the references in a value; `fuel` bounds the length of the text. -/
def expand (known : List (String × Option String)) : Nat → List Char → List Char
  | 0, cs => cs
  | _, [] => []
  | fuel + 1, c :: rest =>
    let reference :=
      if c = '$' ∧ rest.head? = some (Char.ofNat 0x7B) then readReference? (rest.drop 1) else none
    match reference with
    | some (name, default, after) =>
      (variableText known name default).toList ++ expand known fuel after
    | none => c :: expand known fuel rest

/-- Expands the values in order; a value sees those before it on top of the environment. -/
def expandAll (known : List (String × Option String)) :
    List (String × Option String) → List (String × Option String)
  | [] => []
  | (name, value) :: rest =>
    let value := value.map fun words =>
      let cs := words.toList
      String.ofList (expand known cs.length cs)
    (name, value) :: expandAll (Entries.insert name value known) rest

/-- The variables of a file in an environment; of equal names the last counts, and one without a
value is not set. -/
def read (environment : List (String × String)) (content : String) : List (String × String) :=
  let known := environment.map fun entry => (entry.1, some entry.2)
  (Entries.merge [] (expandAll known (bindings content))).filterMap fun entry =>
    entry.2.map fun value => (entry.1, value)

end LoanDispatch.EnvFile
