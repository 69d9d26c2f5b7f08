import LoanDispatch.Proofs.Json.Number
import LoanDispatch.Proofs.Json.Quoting

/-!
Documents are read back as they were written, or not at all when they nest deeper than there is room
for.  A document begins with a character that is no blank and closes nothing; what is taken off the
front of a text is the document written there, as long as the rest cannot go on with a number.
-/

set_option autoImplicit false

namespace LoanDispatch.Json

open Number Text

/-- The separators are a comma and a colon, and blanks after them. -/
structure Style.Standard (style : Style) : Prop where
  item : ∃ blanks, style.itemSeparator = ',' :: blanks ∧ ∀ c ∈ blanks, isJsonBlank c = true
  key : ∃ blanks, style.keySeparator = ':' :: blanks ∧ ∀ c ∈ blanks, isJsonBlank c = true

theorem compactAscii_standard : compactAscii.Standard where
  item := ⟨[], rfl, nofun⟩
  key := ⟨[], rfl, nofun⟩

/-- The keys of every object differ, and no integer has more digits than are printed. -/
inductive Readable : Json → Prop where
  | null : Readable .null
  | bool (flag : Bool) : Readable (.bool flag)
  | int {number : Int} : Value.isLong number = false → Readable (.int number)
  | float (number : Binary64) : Readable (.float number)
  | text (words : String) : Readable (.text words)
  | array {items : List Json} : (∀ item ∈ items, Readable item) → Readable (.array items)
  | object {entries : List (String × Json)} :
      (entries.map Prod.fst).Nodup → (∀ entry ∈ entries, Readable entry.2) →
        Readable (.object entries)

section Room

mutual

/-- What is read of a written document with room for so many brackets around a part. -/
def asRead : Json → Nat → Except Unreadable Raw
  | .array _, 0 => .error (.tooDeep "array")
  | .array items, room + 1 => (itemsAsRead items room).map .array
  | .object _, 0 => .error (.tooDeep "object")
  | .object entries, room + 1 =>
    (entriesAsRead entries room).map fun parts => .object (Entries.merge [] parts)
  | .null, _ => .ok .null
  | .bool flag, _ => .ok (.bool flag)
  | .int number, _ => .ok (.int number)
  | .float number, _ => .ok (.float number)
  | .text words, _ => .ok (.text (Point.ofChars words.toList))

def itemsAsRead : List Json → Nat → Except Unreadable (List Raw)
  | [], _ => .ok []
  | item :: rest, room =>
    match item.asRead room with
    | .error unreadable => .error unreadable
    | .ok part => (itemsAsRead rest room).map (part :: ·)

def entriesAsRead : List (String × Json) → Nat → Except Unreadable (List (List Point × Raw))
  | [], _ => .ok []
  | (key, value) :: rest, room =>
    match value.asRead room with
    | .error unreadable => .error unreadable
    | .ok part => (entriesAsRead rest room).map ((Point.ofChars key.toList, part) :: ·)

end

mutual

/-- The count of brackets around the innermost part. -/
def nesting : Json → Nat
  | .array items => nestingItems items + 1
  | .object entries => nestingEntries entries + 1
  | _ => 0

def nestingItems : List Json → Nat
  | [] => 0
  | item :: rest => max item.nesting (nestingItems rest)

def nestingEntries : List (String × Json) → Nat
  | [] => 0
  | (_, value) :: rest => max value.nesting (nestingEntries rest)

end

theorem ofEntries_distinct {entries : List (String × Json)}
    (distinct : (entries.map Prod.fst).Nodup) :
    ((Raw.ofEntries entries).map Prod.fst).Nodup := by
  have keys : (Raw.ofEntries entries).map Prod.fst
      = (entries.map Prod.fst).map fun key => Point.ofChars key.toList := by
    clear distinct
    induction entries with
    | nil => rfl
    | cons entry rest ih => exact congrArg _ ih
  rw [keys]
  exact List.Pairwise.map _ (fun one two apart same =>
    apart (String.toList_injective (Point.ofChars_inj same))) distinct

mutual

theorem asRead_of_nesting_le :
    (document : Json) → document.Readable → (room : Nat) → document.nesting ≤ room →
      document.asRead room = .ok (Raw.ofJson document)
  | .null, _, _, _ | .bool _, _, _, _ | .int _, _, _, _ | .float _, _, _, _ | .text _, _, _, _ => by
    rw [asRead, Raw.ofJson]
  | .array items, .array each, room + 1, within => by
    rw [nesting, Nat.add_le_add_iff_right] at within
    rw [asRead, itemsAsRead_of_nesting_le items each room within]
    rfl
  | .object entries, .object distinct each, room + 1, within => by
    rw [nesting, Nat.add_le_add_iff_right] at within
    rw [asRead, entriesAsRead_of_nesting_le entries each room within]
    exact congrArg (fun parts => Except.ok (Raw.object parts))
      (Entries.merge_of_distinct (ofEntries_distinct distinct))

theorem itemsAsRead_of_nesting_le :
    (items : List Json) → (∀ item ∈ items, item.Readable) → (room : Nat) →
      nestingItems items ≤ room → itemsAsRead items room = .ok (Raw.ofItems items)
  | [], _, _, _ => rfl
  | item :: rest, each, room, within => by
    obtain ⟨own, later⟩ := List.forall_mem_cons.mp each
    obtain ⟨first, others⟩ := Nat.max_le.mp within
    rw [itemsAsRead, asRead_of_nesting_le item own room first]
    simp only [itemsAsRead_of_nesting_le rest later room others]
    rfl

theorem entriesAsRead_of_nesting_le :
    (entries : List (String × Json)) → (∀ entry ∈ entries, entry.2.Readable) → (room : Nat) →
      nestingEntries entries ≤ room → entriesAsRead entries room = .ok (Raw.ofEntries entries)
  | [], _, _, _ => rfl
  | (key, value) :: rest, each, room, within => by
    obtain ⟨own, later⟩ := List.forall_mem_cons.mp each
    obtain ⟨first, others⟩ := Nat.max_le.mp within
    rw [entriesAsRead, asRead_of_nesting_le value own room first]
    simp only [entriesAsRead_of_nesting_le rest later room others]
    rfl

end

mutual

theorem asRead_of_lt_nesting :
    (document : Json) → document.Readable → (room : Nat) → room < document.nesting →
      ∃ kind, document.asRead room = .error (.tooDeep kind)
  | .null, _, room, beyond | .bool _, _, room, beyond | .int _, _, room, beyond
  | .float _, _, room, beyond | .text _, _, room, beyond => absurd beyond (Nat.not_lt_zero room)
  | .array items, _, 0, _ => ⟨_, rfl⟩
  | .array items, .array each, room + 1, beyond => by
    rw [nesting, Nat.add_lt_add_iff_right] at beyond
    obtain ⟨kind, failed⟩ := itemsAsRead_of_lt_nesting items each room beyond
    exact ⟨kind, by rw [asRead, failed]; rfl⟩
  | .object entries, _, 0, _ => ⟨_, rfl⟩
  | .object entries, .object _ each, room + 1, beyond => by
    rw [nesting, Nat.add_lt_add_iff_right] at beyond
    obtain ⟨kind, failed⟩ := entriesAsRead_of_lt_nesting entries each room beyond
    exact ⟨kind, by rw [asRead, failed]; rfl⟩

theorem itemsAsRead_of_lt_nesting :
    (items : List Json) → (∀ item ∈ items, item.Readable) → (room : Nat) →
      room < nestingItems items → ∃ kind, itemsAsRead items room = .error (.tooDeep kind)
  | [], _, room, beyond => absurd beyond (Nat.not_lt_zero room)
  | item :: rest, each, room, beyond => by
    obtain ⟨own, later⟩ := List.forall_mem_cons.mp each
    by_cases first : item.nesting ≤ room
    · have others := (lt_max_iff.mp beyond).resolve_left (Nat.not_lt.mpr first)
      obtain ⟨kind, failed⟩ := itemsAsRead_of_lt_nesting rest later room others
      refine ⟨kind, ?_⟩
      rw [itemsAsRead, asRead_of_nesting_le item own room first]
      simp only [failed]
      rfl
    · obtain ⟨kind, failed⟩ := asRead_of_lt_nesting item own room (Nat.not_le.mp first)
      exact ⟨kind, by rw [itemsAsRead, failed]⟩

theorem entriesAsRead_of_lt_nesting :
    (entries : List (String × Json)) → (∀ entry ∈ entries, entry.2.Readable) → (room : Nat) →
      room < nestingEntries entries → ∃ kind, entriesAsRead entries room = .error (.tooDeep kind)
  | [], _, room, beyond => absurd beyond (Nat.not_lt_zero room)
  | (key, value) :: rest, each, room, beyond => by
    obtain ⟨own, later⟩ := List.forall_mem_cons.mp each
    by_cases first : value.nesting ≤ room
    · have others := (lt_max_iff.mp beyond).resolve_left (Nat.not_lt.mpr first)
      obtain ⟨kind, failed⟩ := entriesAsRead_of_lt_nesting rest later room others
      refine ⟨kind, ?_⟩
      rw [entriesAsRead, asRead_of_nesting_le value own room first]
      simp only [failed]
      rfl
    · obtain ⟨kind, failed⟩ := asRead_of_lt_nesting value own room (Nat.not_le.mp first)
      exact ⟨kind, by rw [entriesAsRead, failed]⟩

end

end Room

section Atoms

variable {numeral : Numeral} {rest : List Point}

/-- No number goes on here. -/
def NumberStops (rest : List Point) : Prop := takeNumberMarks rest = ([], rest)

theorem takeNumberMarks_append {cs : List Char} (marks : ∀ c ∈ cs, isNumberMark c = true)
    (stops : NumberStops rest) : takeNumberMarks (Point.ofChars cs ++ rest) = (cs, rest) := by
  induction cs with
  | nil => exact stops
  | cons c cs ih =>
    obtain ⟨own, later⟩ := List.forall_mem_cons.mp marks
    have taken := ih later
    rw [Point.ofChars] at taken
    simp only [Point.ofChars, List.map_cons, List.cons_append, takeNumberMarks, own, taken, if_true]

theorem isNumberMark_of_isDigit {c : Char} (digit : c.isDigit = true) : isNumberMark c = true := by
  simp [isNumberMark, digit]

theorem Numeral.Sound.isNumberMark_of_mem (sound : numeral.Sound) {c : Char}
    (member : c ∈ numeral.chars) : isNumberMark c = true := by
  simp only [Numeral.chars, List.mem_append] at member
  rcases member with sign | whole | fraction | exponent
  · split at sign
    · obtain rfl := List.mem_singleton.mp sign
      rfl
    · cases sign
  · exact isNumberMark_of_isDigit (sound.whole_digits c whole)
  · unfold Numeral.fractionChars at fraction
    split at fraction
    · cases fraction
    · rcases List.mem_cons.mp fraction with rfl | digit
      · rfl
      · exact isNumberMark_of_isDigit (sound.fraction_digits c digit)
  · unfold Numeral.exponentChars at exponent
    split at exponent
    · cases exponent
    · next negative digits shape =>
      rcases List.mem_cons.mp exponent with rfl | later
      · rfl
      · rcases List.mem_cons.mp later with rfl | digit
        · cases negative <;> rfl
        · exact isNumberMark_of_isDigit ((sound.exponent_digits _ shape).2 c digit)

/-- A numeral begins with a digit, or with a minus and a digit. -/
theorem Numeral.Sound.chars_cases (sound : numeral.Sound) :
    ∃ digit tail, digit.isDigit = true ∧
      (numeral.chars = digit :: tail ∨ numeral.chars = '-' :: digit :: tail) := by
  obtain ⟨digit, tail, shape⟩ := List.exists_cons_of_ne_nil sound.whole_filled
  have isDigit := sound.whole_digits digit (shape ▸ List.mem_cons_self)
  refine ⟨digit, tail ++ (numeral.fractionChars ++ numeral.exponentChars), isDigit, ?_⟩
  rw [Numeral.chars, shape]
  cases numeral.negative
  · exact .inl rfl
  · exact .inr rfl

theorem takeWord?_digit {digit : Char} (isDigit : digit.isDigit = true) :
    takeWord? (.char digit :: rest) = none := by
  have other {c : Char} (letter : c.isDigit = false) : c ≠ digit :=
    (Calendar.ne_of_isDigit isDigit letter).symm
  simp [takeWord?, Point.ofChars, @other 'n' rfl, @other 't' rfl, @other 'f' rfl, @other 'N' rfl,
    @other 'I' rfl, @other '-' rfl]

theorem takeWord?_minus {digit : Char} (isDigit : digit.isDigit = true) :
    takeWord? (.char '-' :: .char digit :: rest) = none := by
  have other : 'I' ≠ digit := (Calendar.ne_of_isDigit isDigit rfl).symm
  simp [takeWord?, Point.ofChars, other]

theorem Numeral.Sound.takeAtom?_chars (sound : numeral.Sound) (stops : NumberStops rest) :
    takeAtom? (Point.ofChars numeral.chars ++ rest)
      = numeral.read?.map fun number => (number, rest) := by
  have marks := takeNumberMarks_append (fun c => sound.isNumberMark_of_mem) stops
  have taken := sound.takeNumber?_chars numberEnds_nil
  rw [List.append_nil] at taken
  have wordless : takeWord? (Point.ofChars numeral.chars ++ rest) = none := by
    obtain ⟨digit, tail, isDigit, shape | shape⟩ := sound.chars_cases
    · exact shape ▸ takeWord?_digit isDigit
    · exact shape ▸ takeWord?_minus isDigit
  rw [takeAtom?]
  simp only [marks, wordless, taken, Option.none_or, Option.map_map]
  rfl

/-- A text of none of the three delimited kinds is a word or a number. -/
theorem takeValue_atom {c : Char} (plain : c ≠ doubleQuote ∧ c ≠ '[' ∧ c ≠ Char.ofNat 123)
    (fuel room : Nat) (rest : List Point) :
    takeValue (fuel + 1) room (.char c :: rest) = ofPart (takeAtom? (.char c :: rest)) := by
  have other {mark : Char} (apart : c ≠ mark) : Point.char c ≠ .char mark :=
    fun same => apart (Point.char.inj same)
  have unquoted : Point.char c ≠ quoteMark := other plain.1
  have unbraced : Point.char c ≠ leftBrace := other plain.2.2
  rw [takeValue, if_neg unquoted, if_neg (other plain.2.1), if_neg unbraced]

theorem Numeral.Sound.takeValue_chars (sound : numeral.Sound) (stops : NumberStops rest)
    (fuel room : Nat) :
    takeValue (fuel + 1) room (Point.ofChars numeral.chars ++ rest)
      = ofPart (numeral.read?.map fun number => (number, rest)) := by
  rw [← sound.takeAtom?_chars stops]
  obtain ⟨digit, tail, isDigit, shape | shape⟩ := sound.chars_cases
  · have other {c : Char} (letter : c.isDigit = false) : digit ≠ c :=
      Calendar.ne_of_isDigit isDigit letter
    rw [shape]
    exact takeValue_atom ⟨other rfl, other rfl, other rfl⟩ fuel room _
  · rw [shape]
    exact takeValue_atom (by decide) fuel room _

end Atoms

theorem render_finite (style : Style) (negative : Bool) (size : Magnitude) :
    (Json.float (.finite negative size)).render style
      = (Numeral.ofDecimal numberLayout negative size.shortest).chars := by
  rw [render, Numeral.chars_ofDecimal]
  cases negative <;> exact String.toList_append.trans (congrArg _ String.toList_ofList)

theorem takeValue_float (style : Style) (number : Binary64) {rest : List Point}
    (stops : NumberStops rest) (fuel room : Nat) :
    takeValue (fuel + 1) room (Point.ofChars ((Json.float number).render style) ++ rest)
      = .ok (.float number, rest) := by
  cases number with
  | nan => exact takeValue_atom (by decide) fuel room _
  | infinite negative => cases negative <;> exact takeValue_atom (by decide) fuel room _
  | finite negative size =>
    rw [render_finite, (Numeral.sound_ofDecimal numberLayout negative _).takeValue_chars stops,
      Numeral.read?_ofDecimal_shortest]
    rfl

theorem takeValue_int (style : Style) {number : Int} (short : Value.isLong number = false)
    {rest : List Point} (stops : NumberStops rest) (fuel room : Nat) :
    takeValue (fuel + 1) room (Point.ofChars ((Json.int number).render style) ++ rest)
      = .ok (.int number, rest) := by
  rw [render, ← Numeral.chars_ofInt, (Numeral.sound_ofInt number).takeValue_chars stops,
    Numeral.read?_ofInt short]
  rfl

theorem takeValue_text (style : Style) (words : String) (fuel room : Nat) (rest : List Point) :
    takeValue (fuel + 1) room (Point.ofChars ((Json.text words).render style) ++ rest)
      = .ok (.text (Point.ofChars words.toList), rest) := by
  obtain ⟨tail, shape, taken⟩ := takeString?_quoteChars style.asciiOnly words.toList rest
  rw [render, shape, takeValue, if_pos rfl, taken]
  rfl

section Starts

/-- A document may begin with this character. -/
def Starts (c : Char) : Prop := isJsonBlank c = false ∧ c ≠ ']' ∧ c.toNat < 128

theorem skipBlanks_cons {c : Char} (filled : isJsonBlank c = false) (rest : List Point) :
    skipBlanks (.char c :: rest) = .char c :: rest :=
  List.dropWhile_cons_of_neg (by simp [isBlankPoint, Point.char?, filled])

theorem skipBlanks_comma (rest : List Point) : skipBlanks (.char ',' :: rest) = .char ',' :: rest :=
  rfl

theorem skipBlanks_colon (rest : List Point) : skipBlanks (.char ':' :: rest) = .char ':' :: rest :=
  rfl

theorem skipBlanks_append {blanks : List Char} (each : ∀ c ∈ blanks, isJsonBlank c = true)
    (rest : List Point) : skipBlanks (Point.ofChars blanks ++ rest) = skipBlanks rest := by
  refine List.dropWhile_append_of_pos fun point member => ?_
  obtain ⟨c, among, rfl⟩ := List.mem_map.mp member
  exact each c among

theorem starts_digit {digit : Char} (isDigit : digit.isDigit = true) : Starts digit := by
  have other {c : Char} (letter : c.isDigit = false) : digit ≠ c :=
    Calendar.ne_of_isDigit isDigit letter
  have high : digit.toNat ≤ '9'.toNat := (Char.isDigit_iff_toNat.mp isDigit).2
  refine ⟨?_, other rfl, high.trans_lt (by decide)⟩
  simp [isJsonBlank, @other ' ' rfl, @other '\t' rfl, @other '\n' rfl, @other '\r' rfl]

theorem Numeral.Sound.chars_starts {numeral : Numeral} (sound : numeral.Sound) :
    ∃ c tail, numeral.chars = c :: tail ∧ Starts c := by
  obtain ⟨digit, tail, isDigit, shape | shape⟩ := sound.chars_cases
  · exact ⟨digit, tail, shape, starts_digit isDigit⟩
  · exact ⟨'-', digit :: tail, shape, rfl, by decide⟩

theorem render_starts (style : Style) (document : Json) :
    ∃ c tail, document.render style = c :: tail ∧ Starts c := by
  cases document with
  | null => exact ⟨_, _, rfl, rfl, by decide⟩
  | bool flag => cases flag <;> exact ⟨_, _, rfl, rfl, by decide⟩
  | int number =>
    rw [render, ← Numeral.chars_ofInt]
    exact (Numeral.sound_ofInt number).chars_starts
  | float number =>
    cases number with
    | nan => exact ⟨_, _, rfl, rfl, by decide⟩
    | infinite negative => cases negative <;> exact ⟨_, _, rfl, rfl, by decide⟩
    | finite negative size =>
      rw [render_finite]
      exact (Numeral.sound_ofDecimal numberLayout negative _).chars_starts
  | text words => exact ⟨_, _, rfl, rfl, by decide⟩
  | array items => exact ⟨_, _, rfl, rfl, by decide⟩
  | object entries => exact ⟨_, _, rfl, rfl, by decide⟩

theorem ofChars_render_array (style : Style) (items : List Json) (rest : List Point) :
    Point.ofChars ((Json.array items).render style) ++ rest
      = .char '[' :: (Point.ofChars (renderItems style items) ++ .char ']' :: rest) := by
  simp [render, Point.ofChars]

theorem ofChars_render_object (style : Style) (entries : List (String × Json))
    (rest : List Point) :
    Point.ofChars ((Json.object entries).render style) ++ rest
      = leftBrace :: (Point.ofChars (renderEntries style entries) ++ rightBrace :: rest) := by
  simp [render, Point.ofChars, leftBrace, rightBrace]

theorem renderItems_cons (style : Style) (item : Json) {rest : List Json} (more : rest ≠ []) :
    renderItems style (item :: rest)
      = item.render style ++ (style.itemSeparator ++ renderItems style rest) := by
  match rest with
  | other :: others => simp only [renderItems, List.append_assoc]

theorem renderEntries_cons (style : Style) (key : String) (value : Json)
    {rest : List (String × Json)} (more : rest ≠ []) :
    renderEntries style ((key, value) :: rest)
      = quoteChars style.asciiOnly key.toList ++ (style.keySeparator
          ++ (value.render style ++ (style.itemSeparator ++ renderEntries style rest))) := by
  match rest with
  | other :: others => simp only [renderEntries, List.append_assoc]

theorem renderItems_starts (style : Style) {items : List Json} (filled : items ≠ []) :
    ∃ c tail, renderItems style items = c :: tail ∧ Starts c := by
  obtain ⟨item, rest, rfl⟩ := List.exists_cons_of_ne_nil filled
  by_cases last : rest = []
  · rw [last]
    exact render_starts style item
  · obtain ⟨c, tail, shape, starts⟩ := render_starts style item
    rw [renderItems_cons style item last, shape]
    exact ⟨c, _, rfl, starts⟩

theorem renderEntries_starts (style : Style) {entries : List (String × Json)}
    (filled : entries ≠ []) : ∃ tail, renderEntries style entries = doubleQuote :: tail := by
  obtain ⟨⟨key, value⟩, rest, rfl⟩ := List.exists_cons_of_ne_nil filled
  by_cases last : rest = []
  · rw [last]
    exact ⟨_, rfl⟩
  · rw [renderEntries_cons style key value last]
    exact ⟨_, rfl⟩

theorem skipBlanks_render (style : Style) (document : Json) (rest : List Point) :
    skipBlanks (Point.ofChars (document.render style) ++ rest)
      = Point.ofChars (document.render style) ++ rest := by
  obtain ⟨c, tail, shape, filled, -⟩ := render_starts style document
  rw [shape]
  exact skipBlanks_cons filled _

end Starts

section Steps

variable {style : Style} {fuel room : Nat} {points rest : List Point} {item value : Raw}

theorem takeValue_array {c : Char} (starts : Starts c) :
    takeValue (fuel + 1) (room + 1) (.char '[' :: .char c :: points)
      = (takeItems fuel room (.char c :: points)).map fun taken => (.array taken.1, taken.2) := by
  have bracket : Point.char '[' ≠ quoteMark := by decide
  rw [takeValue, if_neg bracket, if_pos rfl]
  simp only [enter, skipBlanks_cons starts.1]
  split
  · next close =>
    cases close
    exact absurd rfl starts.2.1
  · rfl

theorem takeValue_object :
    takeValue (fuel + 1) (room + 1) (leftBrace :: quoteMark :: points)
      = (takeEntries fuel room [] (quoteMark :: points)).map
          fun taken => (.object taken.1, taken.2) := by
  have blankless : skipBlanks (quoteMark :: points) = quoteMark :: points := rfl
  rw [takeValue, if_neg (by decide), if_neg (by decide), if_pos rfl]
  simp only [blankless]
  rfl

theorem takeItems_last (taken : takeValue fuel room points = .ok (item, .char ']' :: rest)) :
    takeItems (fuel + 1) room points = .ok ([item], rest) := by
  rw [takeItems, taken]
  rfl

theorem takeItems_more (standard : style.Standard)
    (taken : takeValue fuel room points
      = .ok (item, Point.ofChars style.itemSeparator ++ rest))
    (starts : skipBlanks rest = rest) :
    takeItems (fuel + 1) room points
      = (takeItems fuel room rest).map fun taken => (item :: taken.1, taken.2) := by
  obtain ⟨blanks, separator, each⟩ := standard.item
  have skipped := skipBlanks_append each rest
  rw [Point.ofChars] at skipped
  rw [separator, Point.ofChars, List.map_cons, List.cons_append] at taken
  rw [takeItems, taken]
  simp only [skipBlanks_comma, skipped, starts]

theorem takeItems_error {unreadable : Unreadable}
    (failed : takeValue fuel room points = .error unreadable) :
    takeItems (fuel + 1) room points = .error unreadable := by
  rw [takeItems, failed]

/-- The key of an entry is read up to its colon, before its value. -/
theorem takeEntries_key (standard : style.Standard) (key : String)
    (known : List (List Point × Raw)) (starts : skipBlanks points = points) :
    takeEntries (fuel + 1) room known
        (Point.ofChars (quoteChars style.asciiOnly key.toList)
          ++ (Point.ofChars style.keySeparator ++ points))
      = takeValue fuel room points >>= fun taken =>
          let entries := Entries.insert (Point.ofChars key.toList) taken.1 known
          match skipBlanks taken.2 with
          | [] => .error .malformed
          | mark :: tail =>
            if mark = .char ',' then takeEntries fuel room entries (skipBlanks tail)
            else if mark = rightBrace then .ok (entries, tail)
            else .error .malformed := by
  obtain ⟨blanks, separator, each⟩ := standard.key
  obtain ⟨tail, shape, read⟩ := takeString?_quoteChars style.asciiOnly key.toList
    (Point.ofChars style.keySeparator ++ points)
  have skipped := skipBlanks_append each points
  rw [Point.ofChars] at skipped
  rw [shape, takeEntries]
  simp only [ne_eq, not_true_eq_false, if_false, read, separator, Point.ofChars, List.map_cons,
    List.cons_append, skipBlanks_colon, skipped, starts]
  cases takeValue fuel room points with
  | error unreadable => rfl
  | ok taken => rfl

theorem takeEntries_last (standard : style.Standard) (key : String)
    (known : List (List Point × Raw)) (starts : skipBlanks points = points)
    (taken : takeValue fuel room points = .ok (value, rightBrace :: rest)) :
    takeEntries (fuel + 1) room known
        (Point.ofChars (quoteChars style.asciiOnly key.toList)
          ++ (Point.ofChars style.keySeparator ++ points))
      = .ok (Entries.insert (Point.ofChars key.toList) value known, rest) := by
  rw [takeEntries_key standard key known starts, taken]
  rfl

theorem takeEntries_more (standard : style.Standard) (key : String)
    (known : List (List Point × Raw)) (starts : skipBlanks points = points)
    (taken : takeValue fuel room points
      = .ok (value, Point.ofChars style.itemSeparator ++ rest))
    (startsRest : skipBlanks rest = rest) :
    takeEntries (fuel + 1) room known
        (Point.ofChars (quoteChars style.asciiOnly key.toList)
          ++ (Point.ofChars style.keySeparator ++ points))
      = takeEntries fuel room (Entries.insert (Point.ofChars key.toList) value known) rest := by
  obtain ⟨blanks, separator, each⟩ := standard.item
  have skipped := skipBlanks_append each rest
  rw [Point.ofChars] at skipped
  rw [separator, Point.ofChars, List.map_cons, List.cons_append] at taken
  rw [takeEntries_key standard key known starts, taken]
  simp only [bind, Except.bind, skipBlanks_comma, if_true, skipped, startsRest]

end Steps

section RoundTrip

variable {style : Style}

theorem render_length_pos (style : Style) (document : Json) : 0 < (document.render style).length := by
  obtain ⟨c, tail, shape, -⟩ := render_starts style document
  rw [shape]
  exact Nat.succ_pos _

theorem Style.Standard.itemSeparator_length_pos (standard : style.Standard) :
    0 < style.itemSeparator.length := by
  obtain ⟨blanks, separator, -⟩ := standard.item
  rw [separator]
  exact Nat.succ_pos _

theorem numberStops_separator (standard : style.Standard) (rest : List Point) :
    NumberStops (Point.ofChars style.itemSeparator ++ rest) := by
  obtain ⟨blanks, separator, -⟩ := standard.item
  rw [separator]
  rfl

theorem length_render_array (style : Style) (items : List Json) :
    ((Json.array items).render style).length = (renderItems style items).length + 2 := by
  simp [render]

theorem length_render_object (style : Style) (entries : List (String × Json)) :
    ((Json.object entries).render style).length = (renderEntries style entries).length + 2 := by
  simp [render]

-- Each level of nesting and each part takes one unit of fuel, and at least one character.
mutual

/-- A document is taken off the front of a text, with as much fuel as it has characters. -/
theorem takeValue_render (standard : style.Standard) :
    (document : Json) → document.Readable → (fuel room : Nat) →
      (document.render style).length ≤ fuel → (rest : List Point) → NumberStops rest →
        takeValue fuel room (Point.ofChars (document.render style) ++ rest)
          = (document.asRead room).map fun part => (part, rest)
  | document, readable, 0, _, enough, _, _ => by
    exact absurd enough (Nat.not_le.mpr (render_length_pos style document))
  | .null, _, fuel + 1, room, _, rest, _ => takeValue_atom (by decide) fuel room _
  | .bool true, _, fuel + 1, room, _, rest, _ => takeValue_atom (by decide) fuel room _
  | .bool false, _, fuel + 1, room, _, rest, _ => takeValue_atom (by decide) fuel room _
  | .int number, .int short, fuel + 1, room, _, rest, stops =>
    takeValue_int style short stops fuel room
  | .float number, _, fuel + 1, room, _, rest, stops => takeValue_float style number stops fuel room
  | .text words, _, fuel + 1, room, _, rest, _ => takeValue_text style words fuel room rest
  | .array _, _, fuel + 1, 0, _, rest, _ | .object _, _, fuel + 1, 0, _, rest, _ => rfl
  | .array [], _, fuel + 1, room + 1, _, rest, _ => rfl
  | .array (item :: others), .array each, fuel + 1, room + 1, enough, rest, _ => by
    have filled : item :: others ≠ [] := List.cons_ne_nil item others
    rw [length_render_array] at enough
    have read := takeItems_render standard (item :: others) filled each fuel room (by omega) rest
    obtain ⟨c, tail, shape, starts⟩ := renderItems_starts style filled
    rw [ofChars_render_array, asRead]
    rw [shape] at read ⊢
    refine (takeValue_array starts).trans ?_
    rw [show Point.char c :: _ = Point.ofChars (c :: tail) ++ .char ']' :: rest from rfl, read]
    cases itemsAsRead (item :: others) room <;> rfl
  | .object [], _, fuel + 1, room + 1, _, rest, _ => rfl
  | .object (entry :: others), .object _ each, fuel + 1, room + 1, enough, rest, _ => by
    have filled : entry :: others ≠ [] := List.cons_ne_nil entry others
    rw [length_render_object] at enough
    have read :=
      takeEntries_render standard (entry :: others) filled each fuel room (by omega) [] rest
    obtain ⟨tail, shape⟩ := renderEntries_starts style filled
    rw [ofChars_render_object, asRead]
    rw [shape] at read ⊢
    refine takeValue_object.trans ?_
    rw [show quoteMark :: _ = Point.ofChars (doubleQuote :: tail) ++ rightBrace :: rest from rfl,
      read]
    cases entriesAsRead (entry :: others) room <;> rfl

theorem takeItems_render (standard : style.Standard) :
    (items : List Json) → items ≠ [] → (∀ item ∈ items, item.Readable) → (fuel room : Nat) →
      (renderItems style items).length < fuel → (rest : List Point) →
        takeItems fuel room (Point.ofChars (renderItems style items) ++ .char ']' :: rest)
          = (itemsAsRead items room).map fun parts => (parts, rest)
  | item :: others, _, each, fuel + 1, room, enough, rest => by
    obtain ⟨own, later⟩ := List.forall_mem_cons.mp each
    by_cases last : others = []
    · subst last
      have first := takeValue_render standard item own fuel room (Nat.le_of_lt_succ enough)
        (.char ']' :: rest) rfl
      rw [itemsAsRead]
      cases read : item.asRead room with
      | error unreadable => exact takeItems_error (first.trans (congrArg _ read))
      | ok part => exact takeItems_last (first.trans (congrArg _ read))
    · rw [renderItems_cons style item last] at enough ⊢
      rw [List.length_append, List.length_append] at enough
      have long := standard.itemSeparator_length_pos
      have first := takeValue_render standard item own fuel room (by omega)
        (Point.ofChars style.itemSeparator
          ++ (Point.ofChars (renderItems style others) ++ .char ']' :: rest))
        (numberStops_separator standard _)
      have read := takeItems_render standard others last later fuel room (by omega) rest
      rw [Point.ofChars_append, Point.ofChars_append, List.append_assoc, List.append_assoc,
        itemsAsRead]
      cases own : item.asRead room with
      | error unreadable => exact takeItems_error (first.trans (congrArg _ own))
      | ok part =>
        obtain ⟨c, tail, shape, starts⟩ := renderItems_starts style last
        rw [takeItems_more standard (first.trans (congrArg _ own)), read]
        · cases itemsAsRead others room <;> rfl
        · rw [shape]
          exact skipBlanks_cons starts.1 _

theorem takeEntries_render (standard : style.Standard) :
    (entries : List (String × Json)) → entries ≠ [] → (∀ entry ∈ entries, entry.2.Readable) →
      (fuel room : Nat) → (renderEntries style entries).length < fuel →
        (known : List (List Point × Raw)) → (rest : List Point) →
          takeEntries fuel room known
              (Point.ofChars (renderEntries style entries) ++ rightBrace :: rest)
            = (entriesAsRead entries room).map fun parts => (Entries.merge known parts, rest)
  | (key, value) :: others, _, each, fuel + 1, room, enough, known, rest => by
    obtain ⟨own, later⟩ := List.forall_mem_cons.mp each
    by_cases last : others = []
    · subst last
      rw [renderEntries, List.length_append, List.length_append] at enough
      have first := takeValue_render standard value own fuel room (by omega)
        (rightBrace :: rest) rfl
      rw [renderEntries, Point.ofChars_append, Point.ofChars_append, List.append_assoc,
        List.append_assoc, entriesAsRead]
      have starts := skipBlanks_render style value (rightBrace :: rest)
      cases read : value.asRead room with
      | error unreadable =>
        rw [takeEntries_key standard key known starts, first, read]
        rfl
      | ok part => exact takeEntries_last standard key known starts (first.trans (congrArg _ read))
    · rw [renderEntries_cons style key value last] at enough ⊢
      simp only [List.length_append] at enough
      have long := standard.itemSeparator_length_pos
      have first := takeValue_render standard value own fuel room (by omega)
        (Point.ofChars style.itemSeparator
          ++ (Point.ofChars (renderEntries style others) ++ rightBrace :: rest))
        (numberStops_separator standard _)
      simp only [Point.ofChars_append, List.append_assoc]
      rw [entriesAsRead]
      have starts := skipBlanks_render style value
        (Point.ofChars style.itemSeparator
          ++ (Point.ofChars (renderEntries style others) ++ rightBrace :: rest))
      cases own : value.asRead room with
      | error unreadable =>
        rw [takeEntries_key standard key known starts, first, own]
        rfl
      | ok part =>
        have read := takeEntries_render standard others last later fuel room (by omega)
          (Entries.insert (Point.ofChars key.toList) part known) rest
        obtain ⟨tail, shape⟩ := renderEntries_starts style last
        rw [takeEntries_more standard key known starts (first.trans (congrArg _ own)), read]
        · cases entriesAsRead others room <;> rfl
        · rw [shape]
          rfl

end

/-- What is read of a written document depends on the room for its brackets alone. -/
theorem readWithin_render (standard : style.Standard) {document : Json}
    (readable : document.Readable) (room : Nat) :
    readWithin room (Point.ofChars (document.render style)) = document.asRead room := by
  have taken := takeValue_render standard document readable
    (2 * (document.render style).length + 2) room (by omega) [] rfl
  have skipped := skipBlanks_render style document []
  rw [List.append_nil] at taken skipped
  rw [readWithin, skipped, Point.ofChars, List.length_map, ← Point.ofChars, taken]
  cases document.asRead room <;> rfl

mutual

theorem nesting_le_length (style : Style) :
    (document : Json) → document.nesting ≤ (document.render style).length
  | .null | .bool _ | .int _ | .float _ | .text _ => Nat.zero_le _
  | .array items => by
    have inside := nestingItems_le_length style items
    rw [length_render_array, nesting]
    omega
  | .object entries => by
    have inside := nestingEntries_le_length style entries
    rw [length_render_object, nesting]
    omega

theorem nestingItems_le_length (style : Style) :
    (items : List Json) → nestingItems items ≤ (renderItems style items).length
  | [] => Nat.zero_le _
  | item :: rest => by
    have first := nesting_le_length style item
    have others := nestingItems_le_length style rest
    rw [nestingItems]
    by_cases last : rest = []
    · subst last
      exact Nat.max_le.mpr ⟨first, Nat.zero_le _⟩
    · rw [renderItems_cons style item last, List.length_append, List.length_append]
      omega

theorem nestingEntries_le_length (style : Style) :
    (entries : List (String × Json)) → nestingEntries entries ≤ (renderEntries style entries).length
  | [] => Nat.zero_le _
  | (key, value) :: rest => by
    have first := nesting_le_length style value
    have others := nestingEntries_le_length style rest
    rw [nestingEntries]
    by_cases last : rest = []
    · subst last
      rw [renderEntries, List.length_append]
      exact Nat.max_le.mpr ⟨by omega, Nat.zero_le _⟩
    · rw [renderEntries_cons style key value last]
      simp only [List.length_append]
      omega

end

/-- A document is read back as it was written. -/
theorem read?_render (standard : style.Standard) {document : Json} (readable : document.Readable) :
    read? (document.render style) = some document := by
  rw [read?, readWithin_render standard readable,
    asRead_of_nesting_le document readable _ (nesting_le_length style document)]
  exact congrArg some (Raw.settle_ofJson document)

end RoundTrip

end LoanDispatch.Json
