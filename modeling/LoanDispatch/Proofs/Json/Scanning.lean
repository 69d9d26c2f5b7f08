import LoanDispatch.Proofs.Json.Reading

/-!
The characters of written documents.  A scanner over a text is outside its string literals, inside
one, or right after a backslash inside one; what it passes outside holds no blank when the separators
hold none.  With all other characters escaped, a document is printed in ASCII.
-/

set_option autoImplicit false

namespace LoanDispatch.Json

open Number Text

inductive Place where
  | outside
  | inside
  | escaped
  deriving DecidableEq

def Place.next : Place → Char → Place
  | .outside, c => if c = doubleQuote then .inside else .outside
  | .inside, c => if c = doubleQuote then .outside else if c = '\\' then .escaped else .inside
  | .escaped, _ => .inside

/-- The characters that are passed outside of string literals, from some place on. -/
def unquotedFrom : Place → List Char → List Char
  | _, [] => []
  | place, c :: rest =>
    if place = .outside then c :: unquotedFrom (place.next c) rest
    else unquotedFrom (place.next c) rest

def unquoted (cs : List Char) : List Char := unquotedFrom .outside cs

def IsPrintableAscii (c : Char) : Prop := 32 ≤ c.toNat ∧ c.toNat ≤ 126

/-- A character of written documents: none for control, and ASCII if the others are escaped. -/
def IsWritten (asciiOnly : Bool) (c : Char) : Prop :=
  32 ≤ c.toNat ∧ (asciiOnly = true → c.toNat ≤ 126)

theorem IsPrintableAscii.isWritten {c : Char} (printed : IsPrintableAscii c) (asciiOnly : Bool) :
    IsWritten asciiOnly c :=
  ⟨printed.1, fun _ => printed.2⟩

/-- A character that numbers, words and brackets are written with. -/
def IsToken (c : Char) : Prop := (33 ≤ c.toNat ∧ c.toNat ≤ 126) ∧ c ≠ doubleQuote

instance (c : Char) : Decidable (IsPrintableAscii c) := inferInstanceAs (Decidable (_ ∧ _))

instance (c : Char) : Decidable (IsToken c) := inferInstanceAs (Decidable (_ ∧ _))

section Tokens

theorem isToken_of_all {cs : List Char} (all : cs.all (fun c => decide (IsToken c)) = true) :
    ∀ c ∈ cs, IsToken c := by
  simpa using all

theorem isToken_digit {c : Char} (digit : c.isDigit = true) : IsToken c := by
  have low : '0'.toNat ≤ c.toNat := (Char.isDigit_iff_toNat.mp digit).1
  have high : c.toNat ≤ '9'.toNat := (Char.isDigit_iff_toNat.mp digit).2
  simp only [Char.reduceToNat] at low high
  exact ⟨by omega, Calendar.ne_of_isDigit digit rfl⟩

theorem Numeral.Sound.isToken_of_mem {numeral : Numeral} (sound : numeral.Sound) {c : Char}
    (member : c ∈ numeral.chars) : IsToken c := by
  simp only [Numeral.chars, List.mem_append] at member
  rcases member with sign | whole | fraction | exponent
  · split at sign
    · obtain rfl := List.mem_singleton.mp sign
      decide
    · cases sign
  · exact isToken_digit (sound.whole_digits c whole)
  · unfold Numeral.fractionChars at fraction
    split at fraction
    · cases fraction
    · rcases List.mem_cons.mp fraction with rfl | digit
      · decide
      · exact isToken_digit (sound.fraction_digits c digit)
  · unfold Numeral.exponentChars at exponent
    split at exponent
    · cases exponent
    · next negative digits shape =>
      rcases List.mem_cons.mp exponent with rfl | later
      · decide
      · rcases List.mem_cons.mp later with rfl | digit
        · cases negative <;> decide
        · exact isToken_digit ((sound.exponent_digits _ shape).2 c digit)

theorem isToken_of_mem_float (style : Style) (number : Binary64) {c : Char}
    (member : c ∈ (Json.float number).render style) : IsToken c := by
  cases number with
  | nan => exact isToken_of_all rfl c member
  | infinite negative => cases negative <;> exact isToken_of_all rfl c member
  | finite negative size =>
    rw [render_finite] at member
    exact (Numeral.sound_ofDecimal numberLayout negative _).isToken_of_mem member

end Tokens

section Induction

/-- The property holds of tokens, quoted texts and separators, and is kept by appending. -/
structure HoldsOfParts (style : Style) (motive : List Char → Prop) : Prop where
  append : ∀ front back, motive front → motive back → motive (front ++ back)
  tokens : ∀ cs, (∀ c ∈ cs, IsToken c) → motive cs
  quoted : ∀ cs, motive (quoteChars style.asciiOnly cs)
  item : motive style.itemSeparator
  key : motive style.keySeparator

variable {style : Style} {motive : List Char → Prop}

theorem HoldsOfParts.bracketed (parts : HoldsOfParts style motive) {first last : Char}
    {body : List Char} (opening : IsToken first) (closing : IsToken last) (held : motive body) :
    motive (first :: body ++ [last]) :=
  parts.append _ _
    (parts.append [first] body (parts.tokens _ (List.forall_mem_singleton.mpr opening)) held)
    (parts.tokens _ (List.forall_mem_singleton.mpr closing))

mutual

theorem HoldsOfParts.render (parts : HoldsOfParts style motive) :
    (document : Json) → motive (document.render style)
  | .null => parts.tokens ['n', 'u', 'l', 'l'] (isToken_of_all rfl)
  | .bool true => parts.tokens ['t', 'r', 'u', 'e'] (isToken_of_all rfl)
  | .bool false => parts.tokens ['f', 'a', 'l', 's', 'e'] (isToken_of_all rfl)
  | .int number => by
    refine parts.tokens _ fun c member => ?_
    rw [Json.render, ← Numeral.chars_ofInt] at member
    exact (Numeral.sound_ofInt number).isToken_of_mem member
  | .float number => parts.tokens _ fun _ => isToken_of_mem_float style number
  | .text words => parts.quoted words.toList
  | .array items => parts.bracketed (by decide) (by decide) (parts.renderItems items)
  | .object entries => parts.bracketed (by decide) (by decide) (parts.renderEntries entries)

theorem HoldsOfParts.renderItems (parts : HoldsOfParts style motive) :
    (items : List Json) → motive (Json.renderItems style items)
  | [] => parts.tokens [] nofun
  | item :: rest => by
    by_cases last : rest = []
    · subst last
      exact parts.render item
    · rw [renderItems_cons style item last]
      exact parts.append _ _ (parts.render item)
        (parts.append _ _ parts.item (parts.renderItems rest))

theorem HoldsOfParts.renderEntries (parts : HoldsOfParts style motive) :
    (entries : List (String × Json)) → motive (Json.renderEntries style entries)
  | [] => parts.tokens [] nofun
  | (name, value) :: rest => by
    have named := parts.quoted name.toList
    by_cases last : rest = []
    · subst last
      exact parts.append _ _ (parts.append _ _ named parts.key) (parts.render value)
    · rw [renderEntries_cons style name value last]
      exact parts.append _ _ named (parts.append _ _ parts.key
        (parts.append _ _ (parts.render value)
          (parts.append _ _ parts.item (parts.renderEntries rest))))

end

end Induction

section Scan

variable {cs : List Char}

theorem unquotedFrom_append (place : Place) (front back : List Char) :
    unquotedFrom place (front ++ back)
      = unquotedFrom place front ++ unquotedFrom (front.foldl Place.next place) back := by
  induction front generalizing place with
  | nil => rfl
  | cons c front ih =>
    rw [List.cons_append, unquotedFrom, unquotedFrom, ih, List.foldl_cons]
    split <;> rfl

/-- The text closes its string literals and holds no blank outside of them. -/
structure Tight (cs : List Char) : Prop where
  filled : ∀ c ∈ unquoted cs, isBlank c = false
  closed : cs.foldl Place.next .outside = .outside

theorem Tight.append {front back : List Char} (first : Tight front) (second : Tight back) :
    Tight (front ++ back) where
  filled c member := by
    rw [unquoted, unquotedFrom_append, first.closed, List.mem_append] at member
    exact member.elim (first.filled c) (second.filled c)
  closed := by rw [List.foldl_append, first.closed, second.closed]

theorem IsToken.isPrintableAscii {c : Char} (token : IsToken c) : IsPrintableAscii c :=
  ⟨Nat.le_of_succ_le token.1.1, token.1.2⟩

theorem IsToken.isBlank {c : Char} (token : IsToken c) : isBlank c = false := by
  have range := token.1
  simp [Text.isBlank, memRanges, blankRanges]
  omega

theorem tight_of_tokens (tokens : ∀ c ∈ cs, IsToken c) : Tight cs := by
  induction cs with
  | nil => exact ⟨nofun, rfl⟩
  | cons c cs ih =>
    obtain ⟨own, later⟩ := List.forall_mem_cons.mp tokens
    have single : Tight [c] := by
      refine ⟨fun other member => ?_, if_neg own.2⟩
      obtain rfl := List.mem_singleton.mp member
      exact own.isBlank
    exact single.append (ih later)

end Scan

section Literals

theorem digitChar_of_mem_hexDigits {width n : Nat} {c : Char} (member : c ∈ hexDigits width n) :
    ∃ digit < 16, c = digitChar digit := by
  induction width generalizing n with
  | zero => cases member
  | succ width ih =>
    rcases List.mem_append.mp member with front | last
    · exact ih front
    · exact ⟨n % 16, Nat.mod_lt n (by decide), List.mem_singleton.mp last⟩

theorem digitChar_plain {digit : Nat} (small : digit < 16) :
    IsToken (digitChar digit) ∧ digitChar digit ≠ '\\' := by
  have all : ∀ digit < 16, IsToken (digitChar digit) ∧ digitChar digit ≠ '\\' := by decide
  exact all digit small

theorem isPrintableAscii_of_mem_unicodeEscape {c other : Char}
    (member : other ∈ unicodeEscape c) : IsPrintableAscii other := by
  have unit (n : Nat) (among : other ∈ unitEscape n) : IsPrintableAscii other := by
    rcases List.mem_cons.mp among with rfl | later
    · decide
    · rcases List.mem_cons.mp later with rfl | digits
      · decide
      · obtain ⟨digit, small, rfl⟩ := digitChar_of_mem_hexDigits digits
        exact (digitChar_plain small).1.isPrintableAscii
  rw [unicodeEscape] at member
  split at member
  · exact unit _ member
  · exact (List.mem_append.mp member).elim (unit _) (unit _)

theorem isWritten_of_mem_escapeChar {asciiOnly : Bool} {c other : Char}
    (member : other ∈ escapeChar asciiOnly c) : IsWritten asciiOnly other := by
  have pair {second : Char} (among : other ∈ ['\\', second]) (printed : IsPrintableAscii second) :
      IsWritten asciiOnly other := by
    simp only [List.mem_cons, List.not_mem_nil, or_false] at among
    rcases among with rfl | rfl
    · exact IsPrintableAscii.isWritten (by decide) asciiOnly
    · exact printed.isWritten asciiOnly
  unfold escapeChar at member
  split_ifs at member with quoted _ _ _ _ _ control
  · refine pair member ?_
    rcases quoted with rfl | rfl <;> decide
  · exact pair member (by decide)
  · exact pair member (by decide)
  · exact pair member (by decide)
  · exact pair member (by decide)
  · exact pair member (by decide)
  · exact (isPrintableAscii_of_mem_unicodeEscape member).isWritten asciiOnly
  · obtain ⟨low, high⟩ := not_or.mp control
    obtain rfl := List.mem_singleton.mp member
    exact ⟨Nat.not_lt.mp low, fun ascii => Nat.not_lt.mp fun large => high ⟨ascii, large⟩⟩

/-- A scanner inside a literal stays inside it over these characters. -/
def StaysInside (cs : List Char) : Prop :=
  unquotedFrom .inside cs = [] ∧ cs.foldl Place.next .inside = .inside

theorem StaysInside.append {front back : List Char} (first : StaysInside front)
    (second : StaysInside back) : StaysInside (front ++ back) := by
  refine ⟨?_, ?_⟩
  · rw [unquotedFrom_append, first.1, first.2, second.1]
    rfl
  · rw [List.foldl_append, first.2, second.2]

theorem staysInside_singleton {c : Char} (unquoted : c ≠ doubleQuote) (slashless : c ≠ '\\') :
    StaysInside [c] :=
  ⟨rfl, (if_neg unquoted).trans (if_neg slashless)⟩

theorem staysInside_pair (c : Char) : StaysInside ['\\', c] := ⟨rfl, rfl⟩

theorem staysInside_flatMap {cs : List Char} {image : Char → List Char}
    (each : ∀ c ∈ cs, StaysInside (image c)) : StaysInside (cs.flatMap image) := by
  induction cs with
  | nil => exact ⟨rfl, rfl⟩
  | cons c cs ih =>
    obtain ⟨own, later⟩ := List.forall_mem_cons.mp each
    rw [List.flatMap_cons]
    exact own.append (ih later)

theorem staysInside_unitEscape (unit : Nat) : StaysInside (unitEscape unit) := by
  have digits : StaysInside ((hexDigits 4 unit).flatMap fun c => [c]) := by
    refine staysInside_flatMap fun c member => ?_
    obtain ⟨digit, small, rfl⟩ := digitChar_of_mem_hexDigits member
    obtain ⟨token, slashless⟩ := digitChar_plain small
    exact staysInside_singleton token.2 slashless
  rw [List.flatMap_singleton'] at digits
  exact (staysInside_pair 'u').append digits

theorem staysInside_escapeChar (asciiOnly : Bool) (c : Char) :
    StaysInside (escapeChar asciiOnly c) := by
  unfold escapeChar
  split_ifs with quoted
  · exact staysInside_pair _
  · exact staysInside_pair _
  · exact staysInside_pair _
  · exact staysInside_pair _
  · exact staysInside_pair _
  · exact staysInside_pair _
  · rw [unicodeEscape]
    split
    · exact staysInside_unitEscape _
    · exact (staysInside_unitEscape _).append (staysInside_unitEscape _)
  · obtain ⟨unquoted, slashless⟩ := not_or.mp quoted
    exact staysInside_singleton unquoted slashless

theorem tight_quoteChars (asciiOnly : Bool) (cs : List Char) : Tight (quoteChars asciiOnly cs) := by
  obtain ⟨inside, stays⟩ :=
    staysInside_flatMap fun c (_ : c ∈ cs) => staysInside_escapeChar asciiOnly c
  constructor
  · intro c member
    simp only [unquoted, quoteChars, List.cons_append, unquotedFrom, Place.next, if_true,
      unquotedFrom_append, inside, stays] at member
    obtain rfl := List.mem_singleton.mp member
    decide
  · simp only [quoteChars, List.cons_append, List.foldl_cons, List.foldl_append, Place.next, if_true,
      stays]
    rfl

theorem isWritten_of_mem_quoteChars {asciiOnly : Bool} {cs : List Char} {c : Char}
    (member : c ∈ quoteChars asciiOnly cs) : IsWritten asciiOnly c := by
  simp only [quoteChars, List.cons_append, List.mem_cons, List.mem_append, List.mem_flatMap,
    List.not_mem_nil, or_false] at member
  rcases member with rfl | ⟨own, _, among⟩ | rfl
  · exact IsPrintableAscii.isWritten (by decide) asciiOnly
  · exact isWritten_of_mem_escapeChar among
  · exact IsPrintableAscii.isWritten (by decide) asciiOnly

end Literals

section Documents

variable {style : Style}

theorem compactAscii_tokens :
    ∀ c ∈ compactAscii.itemSeparator ++ compactAscii.keySeparator, IsToken c :=
  isToken_of_all rfl

/-- A document with all other characters escaped is printed in ASCII. -/
theorem isPrintableAscii_of_mem_render (ascii : style.asciiOnly = true)
    (separators : ∀ c ∈ style.itemSeparator ++ style.keySeparator, IsPrintableAscii c)
    (document : Json) {c : Char} (member : c ∈ document.render style) : IsPrintableAscii c := by
  obtain ⟨item, key⟩ := List.forall_mem_append.mp separators
  have parts : HoldsOfParts style fun cs => ∀ c ∈ cs, IsPrintableAscii c := {
    append := fun front back first second => List.forall_mem_append.mpr ⟨first, second⟩
    tokens := fun cs tokens c member => (tokens c member).isPrintableAscii
    quoted := fun cs c member =>
      (isWritten_of_mem_quoteChars member).imp id fun high => high ascii
    item := item
    key := key }
  exact parts.render document c member

/-- A document whose separators are tokens holds no blank outside of its string literals. -/
theorem tight_render (separators : ∀ c ∈ style.itemSeparator ++ style.keySeparator, IsToken c)
    (document : Json) : Tight (document.render style) := by
  obtain ⟨item, key⟩ := List.forall_mem_append.mp separators
  have parts : HoldsOfParts style Tight := {
    append := fun front back => Tight.append
    tokens := fun cs => tight_of_tokens
    quoted := tight_quoteChars style.asciiOnly
    item := tight_of_tokens item
    key := tight_of_tokens key }
  exact parts.render document

end Documents

end LoanDispatch.Json
