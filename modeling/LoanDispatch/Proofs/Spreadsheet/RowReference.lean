import LoanDispatch.Proofs.Number.Printing
import LoanDispatch.Proofs.Spreadsheet.Letters
import Mathlib.Data.List.TakeWhile

/-!
The row inside a reported range.  `FirstReference` says what counts as a reference to a row and which
one of a text is the first.  The search reads the title of a range as well: the row of its cells is
read back exactly when the title has no reference of its own, or one to the same row.
-/

set_option autoImplicit false

namespace LoanDispatch.Spreadsheet

open Number

/-- The mark that fixes a column or a row. -/
def mark (fixed : Bool) : List Char := if fixed then ['$'] else []

/-- A text begins with a reference to a row: an exclamation mark, the letters of a column, and all
digits that follow them. -/
inductive BeginsReference (digits : List Char) : List Char → Prop where
  | mk (fixedColumn fixedRow : Bool) {letters rest : List Char} :
      letters ≠ [] → (∀ c ∈ letters, isColumnLetter c = true) →
      digits ≠ [] → (∀ c ∈ digits, Text.isDecimal c = true) →
      (∀ c ∈ rest.head?, Text.isDecimal c = false) →
        BeginsReference digits
          ('!' :: (mark fixedColumn ++ (letters ++ (mark fixedRow ++ (digits ++ rest)))))

/-- The digits of the first reference to a row in a text. -/
inductive FirstReference : List Char → List Char → Prop where
  | here {cs digits : List Char} : BeginsReference digits cs → FirstReference cs digits
  | later {c : Char} {cs digits : List Char} :
      (∀ other, ¬ BeginsReference other (c :: cs)) → FirstReference cs digits →
        FirstReference (c :: cs) digits

section Marks

variable {cs rest : List Char}

theorem dropMark_of_plain (plain : ∀ c ∈ cs.head?, c ≠ '$') : dropMark cs = cs := by
  unfold dropMark
  split
  · exact absurd rfl (plain '$' rfl)
  · rfl

theorem dropMark_mark (fixed : Bool) (plain : ∀ c ∈ cs.head?, c ≠ '$') :
    dropMark (mark fixed ++ cs) = cs := by
  cases fixed with
  | true => rfl
  | false => exact dropMark_of_plain plain

theorem exists_mark (cs : List Char) : ∃ fixed, cs = mark fixed ++ dropMark cs := by
  cases cs with
  | nil => exact ⟨false, rfl⟩
  | cons c rest =>
    by_cases marked : c = '$'
    · subst marked
      exact ⟨true, rfl⟩
    · refine ⟨false, (dropMark_of_plain fun other first => ?_).symm⟩
      cases first
      exact marked

theorem ne_mark_of_isColumnLetter {c : Char} (letter : isColumnLetter c = true) : c ≠ '$' := by
  rintro rfl
  cases letter

theorem ne_mark_of_isDecimal {c : Char} (decimal : Text.isDecimal c = true) : c ≠ '$' := by
  rintro rfl
  exact absurd decimal (by decide)

theorem isColumnLetter_of_isDecimal {c : Char} (decimal : Text.isDecimal c = true) :
    isColumnLetter c = false := by
  have away : Text.memRanges [(0x41, 0x5A), (0x61, 0x7A)] c = false :=
    Text.memRanges_of_rangesApart (by decide +kernel) (Text.isDecimal_eq_memRanges c ▸ decimal)
  rw [← away, Bool.eq_iff_iff]
  simp [isColumnLetter, Text.memRanges, Char.le_def, UInt32.le_iff_toNat_le]

theorem dropMark_mark_append (fixed : Bool) (filled : cs ≠ []) (plain : ∀ c ∈ cs, c ≠ '$') :
    dropMark (mark fixed ++ (cs ++ rest)) = cs ++ rest := by
  obtain ⟨first, others, rfl⟩ := List.exists_cons_of_ne_nil filled
  apply dropMark_mark
  rintro _ ⟨⟩
  exact plain first List.mem_cons_self

/-- The letters of a column end where its row begins, with a mark or without. -/
theorem not_isColumnLetter_of_row (fixed : Bool) (filled : cs ≠ [])
    (decimals : ∀ c ∈ cs, Text.isDecimal c = true) :
    ∀ c ∈ (mark fixed ++ (cs ++ rest)).head?, isColumnLetter c = false := by
  obtain ⟨first, others, rfl⟩ := List.exists_cons_of_ne_nil filled
  cases fixed with
  | true =>
    rintro _ ⟨⟩
    decide
  | false =>
    rintro _ ⟨⟩
    exact isColumnLetter_of_isDecimal (decimals first List.mem_cons_self)

end Marks

section Search

variable {cs digits rest : List Char} {p : Char → Bool}

theorem takeWhile_append_stop (each : ∀ c ∈ cs, p c = true) (stop : ∀ c ∈ rest.head?, p c = false) :
    (cs ++ rest).takeWhile p = cs := by
  rw [List.takeWhile_append_of_pos each]
  cases rest with
  | nil => simp
  | cons c others => simp [stop c rfl]

theorem dropWhile_append_stop (each : ∀ c ∈ cs, p c = true) (stop : ∀ c ∈ rest.head?, p c = false) :
    (cs ++ rest).dropWhile p = rest := by
  rw [List.dropWhile_append_of_pos each]
  cases rest with
  | nil => rfl
  | cons c others => simp [stop c rfl]

theorem rowAfterLetters?_eq (cs : List Char) :
    rowAfterLetters? cs
      = if (dropMark cs).takeWhile isColumnLetter = [] ∨
          (dropMark ((dropMark cs).dropWhile isColumnLetter)).takeWhile Text.isDecimal = []
        then none
        else some ((dropMark ((dropMark cs).dropWhile isColumnLetter)).takeWhile Text.isDecimal) := by
  have taken : ((dropMark cs).dropWhile isColumnLetter).length = (dropMark cs).length ↔
      (dropMark cs).takeWhile isColumnLetter = [] := by
    have parts := congrArg List.length
      (List.takeWhile_append_dropWhile (p := isColumnLetter) (l := dropMark cs))
    rw [List.length_append] at parts
    rw [← List.length_eq_zero_iff]
    omega
  simp only [rowAfterLetters?, taken]

theorem head?_dropWhile (p : Char → Bool) (cs : List Char) :
    ∀ c ∈ (cs.dropWhile p).head?, p c = false := by
  intro c first
  have stops := List.head?_dropWhile_not p cs
  rw [Option.mem_def.mp first] at stops
  exact stops

theorem rowAfterLetters?_eq_some_iff :
    rowAfterLetters? cs = some digits ↔ BeginsReference digits ('!' :: cs) := by
  rw [rowAfterLetters?_eq]
  constructor
  · intro found
    split at found
    · cases found
    · next given =>
      cases found
      obtain ⟨letters, filled⟩ := not_or.mp given
      obtain ⟨fixedColumn, start⟩ := exists_mark cs
      obtain ⟨fixedRow, after⟩ := exists_mark ((dropMark cs).dropWhile isColumnLetter)
      have reference := BeginsReference.mk fixedColumn fixedRow letters
        (List.all_eq_true.mp List.all_takeWhile) filled
        (List.all_eq_true.mp List.all_takeWhile) (head?_dropWhile Text.isDecimal
          (dropMark ((dropMark cs).dropWhile isColumnLetter)))
      rw [List.takeWhile_append_dropWhile, ← after, List.takeWhile_append_dropWhile,
        ← start] at reference
      exact reference
  · intro reference
    generalize whole : '!' :: cs = text at reference
    cases reference with
    | @mk fixedColumn fixedRow letters rest some each filled decimals ends =>
      cases whole
      have letterPlain : ∀ c ∈ letters, c ≠ '$' := fun c member =>
        ne_mark_of_isColumnLetter (each c member)
      have digitPlain : ∀ c ∈ digits, c ≠ '$' := fun c member =>
        ne_mark_of_isDecimal (decimals c member)
      have noLetter : ∀ c ∈ (mark fixedRow ++ (digits ++ rest)).head?, isColumnLetter c = false :=
        not_isColumnLetter_of_row fixedRow filled decimals
      rw [dropMark_mark_append fixedColumn some letterPlain, takeWhile_append_stop each noLetter,
        dropWhile_append_stop each noLetter, dropMark_mark_append fixedRow filled digitPlain,
        takeWhile_append_stop decimals ends, if_neg (not_or.mpr ⟨some, filled⟩)]

def referenceAt? (c : Char) (rest : List Char) : Option (List Char) :=
  if c = '!' then rowAfterLetters? rest else none

theorem referenceAt?_eq_some_iff {c : Char} :
    referenceAt? c rest = some digits ↔ BeginsReference digits (c :: rest) := by
  unfold referenceAt?
  split
  · next bang =>
    subst bang
    exact rowAfterLetters?_eq_some_iff
  · next other =>
    constructor
    · exact nofun
    · intro reference
      cases reference
      exact absurd rfl other

theorem rowDigits?_cons (c : Char) (rest : List Char) :
    rowDigits? (c :: rest) = (referenceAt? c rest).or (rowDigits? rest) := by
  rw [rowDigits?, ← referenceAt?]
  cases referenceAt? c rest <;> rfl

theorem rowDigits?_eq_some_iff : rowDigits? cs = some digits ↔ FirstReference cs digits := by
  constructor
  · intro found
    induction cs with
    | nil => cases found
    | cons c rest ih =>
      rw [rowDigits?_cons] at found
      cases start : referenceAt? c rest with
      | some other =>
        rw [start] at found
        cases found
        exact .here (referenceAt?_eq_some_iff.mp start)
      | none =>
        rw [start] at found
        refine .later (fun other reference => ?_) (ih found)
        cases start.symm.trans (referenceAt?_eq_some_iff.mpr reference)
  · intro reference
    induction reference with
    | @here cs digits reference =>
      cases cs with
      | nil => cases reference
      | cons c rest => rw [rowDigits?_cons, referenceAt?_eq_some_iff.mpr reference, Option.some_or]
    | @later c rest digits other _ ih =>
      have start : referenceAt? c rest = none := by
        apply Option.eq_none_iff_forall_ne_some.mpr
        exact fun found same => other found (referenceAt?_eq_some_iff.mp same)
      rw [rowDigits?_cons, start, Option.none_or, ih]

theorem rowDigits?_eq_none_iff : rowDigits? cs = none ↔ ∀ digits, ¬ FirstReference cs digits := by
  simp only [Option.eq_none_iff_forall_ne_some, ← rowDigits?_eq_some_iff, ne_eq]

theorem FirstReference.decimals (reference : FirstReference cs digits) :
    digits ≠ [] ∧ ∀ c ∈ digits, Text.isDecimal c = true := by
  induction reference with
  | here reference =>
    cases reference with
    | mk _ _ _ _ filled decimals _ => exact ⟨filled, decimals⟩
  | later _ _ ih => exact ih

end Search

section Title

variable {cs rest : List Char} {p : Char → Bool}

theorem takeWhile_doubleQuotes (stop : p Text.singleQuote = false) :
    (doubleQuotes cs ++ Text.singleQuote :: rest).takeWhile p = cs.takeWhile p := by
  induction cs with
  | nil => simp [doubleQuotes, stop]
  | cons c cs ih =>
    by_cases quote : c = Text.singleQuote
    · simp [doubleQuotes_cons, quote, stop]
    · simp only [doubleQuotes_cons, if_neg quote, List.cons_append, List.nil_append,
        List.takeWhile_cons, ih]

theorem dropWhile_doubleQuotes (stop : p Text.singleQuote = false) :
    (doubleQuotes cs ++ Text.singleQuote :: rest).dropWhile p
      = doubleQuotes (cs.dropWhile p) ++ Text.singleQuote :: rest := by
  induction cs with
  | nil => simp [doubleQuotes, stop]
  | cons c cs ih =>
    by_cases quote : c = Text.singleQuote
    · simp [doubleQuotes_cons, quote, stop]
    · simp only [doubleQuotes_cons, if_neg quote, List.cons_append, List.nil_append,
        List.dropWhile_cons, ih]
      split
      · rfl
      · simp [doubleQuotes_cons, quote]

theorem dropMark_doubleQuotes :
    dropMark (doubleQuotes cs ++ Text.singleQuote :: rest)
      = doubleQuotes (dropMark cs) ++ Text.singleQuote :: rest := by
  cases cs with
  | nil => rfl
  | cons c cs =>
    by_cases marked : c = '$'
    · subst marked
      rfl
    · have kept : dropMark (c :: cs) = c :: cs := by
        apply dropMark_of_plain
        rintro _ ⟨⟩
        exact marked
      rw [kept]
      apply dropMark_of_plain
      by_cases quote : c = Text.singleQuote
      · simp [doubleQuotes_cons, quote, Text.singleQuote]
      · simp [doubleQuotes_cons, quote, marked]

/-- A quote ends every reference, so none reaches beyond the title. -/
theorem rowAfterLetters?_doubleQuotes :
    rowAfterLetters? (doubleQuotes cs ++ Text.singleQuote :: rest) = rowAfterLetters? cs := by
  have noLetter : isColumnLetter Text.singleQuote = false := by decide
  have noDecimal : Text.isDecimal Text.singleQuote = false := by decide +kernel
  simp only [rowAfterLetters?_eq, dropMark_doubleQuotes, takeWhile_doubleQuotes noLetter,
    dropWhile_doubleQuotes noLetter, takeWhile_doubleQuotes noDecimal]

theorem rowDigits?_doubleQuotes :
    rowDigits? (doubleQuotes cs ++ Text.singleQuote :: rest)
      = (rowDigits? cs).or (rowDigits? rest) := by
  have skip : ∀ cs, rowDigits? (Text.singleQuote :: cs) = rowDigits? cs := fun cs => rfl
  induction cs with
  | nil => exact skip rest
  | cons c cs ih =>
    by_cases quote : c = Text.singleQuote
    · rw [doubleQuotes_cons, if_pos quote, quote]
      simp only [List.cons_append, List.nil_append, skip, ih]
    · rw [doubleQuotes_cons, if_neg quote, List.singleton_append, List.cons_append, rowDigits?_cons,
        rowDigits?_cons, ih, referenceAt?, rowAfterLetters?_doubleQuotes, ← referenceAt?,
        Option.or_assoc]

/-- The first reference of an address is one of its title, and one of its cells only if the title
has none. -/
theorem rowDigits?_address (title cells : String) :
    rowDigits? (address title cells).toList
      = (rowDigits? title.toList).or (rowDigits? ('!' :: cells.toList)) := by
  rw [address_toList, quoteTitle_toList]
  simp only [List.cons_append, List.append_assoc, List.nil_append]
  exact rowDigits?_doubleQuotes

end Title

/-- A cell by its column and its row; a mark may fix either. -/
structure CellName where
  column : Nat
  row : Nat
  fixedColumn : Bool
  fixedRow : Bool

def CellName.toList (cell : CellName) : List Char :=
  mark cell.fixedColumn ++ ((letters cell.column).toList
    ++ (mark cell.fixedRow ++ (toString cell.row).toList))

def cellRange (first last : CellName) : String :=
  String.ofList (first.toList ++ ':' :: last.toList)

/-- The number that is read from a range of a row, on a tab with a title. -/
def readRow (title : String) (row : Nat) : Except Misfit Int :=
  match rowDigits? title.toList with
  | some digits => readInteger (String.ofList digits)
  | none => readInteger (toString row)

/-- The row of a range on a tab with this title is read as this number: either the title has no
reference and the number can be read, or the first reference of the title happens to name the same
row. -/
inductive ReadsRow (title : String) (row : Nat) : Prop where
  | own : (∀ digits, ¬ FirstReference title.toList digits) →
      (toString row).length ≤ maxIntegerDigits → ReadsRow title row
  | chance {digits : List Char} : FirstReference title.toList digits →
      readInteger (String.ofList digits) = .ok row → ReadsRow title row

section Range

variable {title : String} {row : Nat} {first last : CellName}

theorem rowDigits?_cells :
    rowDigits? ('!' :: (cellRange first last).toList) = some (toString first.row).toList := by
  have name := isColumnName_letters first.column
  have filled : (letters first.column).toList ≠ [] :=
    fun empty => name.filled (String.toList_eq_nil_iff.mp empty)
  have capitals : ∀ c ∈ (letters first.column).toList, isColumnLetter c = true := by
    intro c member
    simp [isColumnLetter, name.capitals c member]
  have decimals : ∀ c ∈ (toString first.row).toList, Text.isDecimal c = true :=
    fun c member => isDecimal_of_isDigit (isDigit_of_mem_toString member)
  have ends : ∀ c ∈ (':' :: last.toList).head?, Text.isDecimal c = false := by
    rintro _ ⟨⟩
    decide +kernel
  have reference := BeginsReference.mk first.fixedColumn first.fixedRow filled capitals
    toString_toList_ne_nil decimals ends
  have shape : (cellRange first last).toList
      = mark first.fixedColumn ++ ((letters first.column).toList
        ++ (mark first.fixedRow ++ ((toString first.row).toList ++ ':' :: last.toList))) := by
    simp only [cellRange, CellName.toList, String.toList_ofList, List.append_assoc]
  rw [shape]
  exact rowDigits?_eq_some_iff.mpr (.here reference)

theorem reportedRow?_text {words : String} {digits : List Char}
    (found : rowDigits? words.toList = some digits) :
    reportedRow? (.text words) = (readInteger (String.ofList digits)).map some := by
  have given : (Value.text words).isGiven = true := by
    have some : words ≠ "" := by
      rintro rfl
      cases found
    simp [Value.isGiven, some]
  simp only [reportedRow?, given, Value.text?, found]
  rfl

theorem reportedRow?_range (title : String) (first last : CellName) :
    reportedRow? (.text (address title (cellRange first last)))
      = (readRow title first.row).map some := by
  have found := rowDigits?_address title (cellRange first last)
  rw [rowDigits?_cells] at found
  unfold readRow
  cases inTitle : rowDigits? title.toList with
  | some digits =>
    rw [inTitle] at found
    exact reportedRow?_text found
  | none =>
    rw [inTitle] at found
    rw [reportedRow?_text found, String.ofList_toList]

theorem readRow_eq_iff : readRow title row = .ok row ↔ ReadsRow title row := by
  unfold readRow
  constructor
  · intro same
    split at same
    · next digits found => exact .chance (rowDigits?_eq_some_iff.mp found) same
    · next absent =>
      exact .own (rowDigits?_eq_none_iff.mp absent) (readInteger_toString_iff.mp same)
  · intro reads
    cases reads with
    | own plain few =>
      rw [rowDigits?_eq_none_iff.mpr plain]
      exact readInteger_toString few
    | chance reference same =>
      rw [rowDigits?_eq_some_iff.mpr reference]
      exact same

/-- A row that is read is a number without a sign, whichever text it comes from. -/
theorem natural_of_readRow {number : Int} (read : readRow title row = .ok number) :
    ∃ other : Nat, number = other := by
  unfold readRow at read
  split at read
  · next digits found =>
    obtain ⟨filled, decimals⟩ := (rowDigits?_eq_some_iff.mp found).decimals
    exact natural_of_readInteger (by simpa using allNumerals_of_decimals filled decimals) read
  · exact natural_of_readInteger allNumerals_toString read

/-- The row that is read from a range is the row of its first cell unless the title interferes. -/
theorem reportedRow?_eq_iff :
    reportedRow? (.text (address title (cellRange first last))) = .ok (some first.row) ↔
      ReadsRow title first.row := by
  rw [reportedRow?_range, ← readRow_eq_iff]
  cases readRow title first.row <;> simp [Except.map]

end Range

end LoanDispatch.Spreadsheet
