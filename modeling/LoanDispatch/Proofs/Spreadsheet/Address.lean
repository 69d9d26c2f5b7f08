import LoanDispatch.Spreadsheet.Workbook

/-!
Addresses can be read back.  The letters of a column give its index again, and an address whose
cells hold no exclamation mark splits into the title and the cells that it was made of, whatever
characters the title has.
-/

set_option autoImplicit false

namespace LoanDispatch.Spreadsheet

def lettersValue (start : Nat) (cs : List Char) : Nat :=
  cs.foldl (fun number c => 26 * number + letterValue c) start

theorem columnIndex_eq_lettersValue (cs : List Char) : columnIndex cs = lettersValue 0 cs - 1 := rfl

theorem letterValue_letterOf {digit : Nat} (small : digit < 26) :
    letterValue (letterOf digit) = digit + 1 :=
  (by decide : ∀ digit < 26, letterValue (letterOf digit) = digit + 1) digit small

theorem lettersValue_lettersFrom (number : Nat) (tail : List Char) :
    lettersValue 0 (lettersFrom number tail) = lettersValue number tail := by
  induction number using Nat.strongRecOn generalizing tail with
  | ind number ih =>
    rw [lettersFrom]
    split
    · next zero => rw [zero]
    · next positive =>
      rw [ih _ (by omega)]
      have small : (number - 1) % 26 < 26 := Nat.mod_lt _ (by decide)
      have whole : 26 * ((number - 1) / 26) + ((number - 1) % 26 + 1) = number := by omega
      simp only [lettersValue, List.foldl_cons, letterValue_letterOf small, whole]

theorem columnIndex_lettersFrom (index : Nat) :
    columnIndex (lettersFrom (index + 1) []) = index := by
  rw [columnIndex_eq_lettersValue, lettersValue_lettersFrom]
  rfl

theorem letterOf_capital {digit : Nat} (small : digit < 26) :
    'A' ≤ letterOf digit ∧ letterOf digit ≤ 'Z' :=
  (by decide : ∀ digit < 26, 'A' ≤ letterOf digit ∧ letterOf digit ≤ 'Z') digit small

theorem capital_of_mem_lettersFrom {number : Nat} {tail : List Char}
    (capitals : ∀ c ∈ tail, 'A' ≤ c ∧ c ≤ 'Z') :
    ∀ c ∈ lettersFrom number tail, 'A' ≤ c ∧ c ≤ 'Z' := by
  induction number using Nat.strongRecOn generalizing tail with
  | ind number ih =>
    rw [lettersFrom]
    split
    · exact capitals
    · next positive =>
      refine ih _ (by omega) fun c member => ?_
      rcases List.mem_cons.mp member with rfl | earlier
      · exact letterOf_capital (Nat.mod_lt _ (by decide))
      · exact capitals c earlier

theorem capital_of_mem_letters {index : Nat} {c : Char} (member : c ∈ (letters index).toList) :
    'A' ≤ c ∧ c ≤ 'Z' := by
  rw [letters, String.toList_ofList] at member
  exact capital_of_mem_lettersFrom (by simp) c member

def columnCells (index : Nat) : String := letters index ++ ":" ++ letters index

theorem columnCells_toList (index : Nat) :
    (columnCells index).toList = (letters index).toList ++ ':' :: (letters index).toList := by
  simp [columnCells]

theorem columnIndex_columnCells (index : Nat) :
    columnIndex ((columnCells index).toList.takeWhile (· ≠ ':')) = index := by
  have letter : ∀ c ∈ (letters index).toList, decide (c ≠ ':') = true := by
    intro c member
    have capital := capital_of_mem_letters member
    simp only [decide_eq_true_eq]
    intro same
    subst same
    exact absurd capital.1 (by decide)
  rw [columnCells_toList, List.takeWhile_append_of_pos letter]
  simpa [letters] using columnIndex_lettersFrom index

theorem bang_notMem_columnCells (index : Nat) : '!' ∉ (columnCells index).toList := by
  intro member
  rw [columnCells_toList] at member
  rcases List.mem_append.mp member with left | right
  · exact absurd (capital_of_mem_letters left).1 (by decide)
  · rcases List.mem_cons.mp right with colon | right
    · exact absurd colon (by decide)
    · exact absurd (capital_of_mem_letters right).1 (by decide)

theorem columnCells_ne_firstRow (index : Nat) : columnCells index ≠ "1:1" := by
  intro same
  have lists := congrArg String.toList same
  rw [columnCells_toList] at lists
  cases shape : (letters index).toList with
  | nil => simp [shape] at lists
  | cons c rest =>
    have member : c ∈ (letters index).toList := by simp [shape]
    have capital := capital_of_mem_letters member
    have first : c = '1' := by simpa [shape] using congrArg List.head? lists
    rw [first] at capital
    exact absurd capital.1 (by decide)

def doubleQuotes (cs : List Char) : List Char :=
  cs.flatMap fun c => if c = Text.singleQuote then [Text.singleQuote, Text.singleQuote] else [c]

theorem doubleQuotes_cons (c : Char) (cs : List Char) :
    doubleQuotes (c :: cs)
      = (if c = Text.singleQuote then [Text.singleQuote, Text.singleQuote] else [c])
        ++ doubleQuotes cs := rfl

theorem quoteTitle_toList (title : String) :
    (quoteTitle title).toList
      = Text.singleQuote :: doubleQuotes title.toList ++ [Text.singleQuote] := by
  simp only [quoteTitle, String.toList_ofList, doubleQuotes]

theorem address_toList (title cells : String) :
    (address title cells).toList = (quoteTitle title).toList ++ '!' :: cells.toList := by
  simp [address]

theorem replacePair_doubleQuotes (cs : List Char) :
    Text.replacePair Text.singleQuote Text.singleQuote Text.singleQuote (doubleQuotes cs) = cs := by
  induction cs with
  | nil => rfl
  | cons c rest ih =>
    by_cases quote : c = Text.singleQuote
    · rw [doubleQuotes_cons, if_pos quote, List.cons_append, List.singleton_append,
        Text.replacePair, if_pos ⟨rfl, rfl⟩, ih, quote]
    · rw [doubleQuotes_cons, if_neg quote, List.singleton_append]
      cases shape : doubleQuotes rest with
      | nil =>
        rw [shape] at ih
        simpa [Text.replacePair] using ih
      | cons next others =>
        rw [Text.replacePair, if_neg (fun both => quote both.1), ← shape, ih]

theorem afterLast_append {separator : Char} {before cs : List Char} (absent : separator ∉ cs) :
    Text.afterLast separator (before ++ separator :: cs) = cs := by
  have kept : ∀ c ∈ cs.reverse, decide (c ≠ separator) = true := by
    intro c member
    simp only [decide_eq_true_eq]
    intro same
    subst same
    exact absent (List.mem_reverse.mp member)
  have reversed : (before ++ separator :: cs).reverse
      = cs.reverse ++ separator :: before.reverse := by simp
  rw [Text.afterLast, reversed, List.takeWhile_append_of_pos kept]
  simp

/-- An address splits into its title and its cells. -/
theorem splitAddress_address (title : String) {cells : String} (plain : '!' ∉ cells.toList) :
    splitAddress (address title cells) = (title, cells) := by
  have after : Text.afterLast '!' (address title cells).toList = cells.toList := by
    rw [address_toList]
    exact afterLast_append plain
  have width : (address title cells).length - cells.toList.length - 1
      = (quoteTitle title).toList.length := by
    rw [← String.length_toList, address_toList]
    simp only [List.length_append, List.length_cons]
    omega
  have before : (address title cells).toList.take (quoteTitle title).toList.length
      = (quoteTitle title).toList := by
    rw [address_toList, List.take_left]
  have inside : ((quoteTitle title).toList.drop 1).dropLast = doubleQuotes title.toList := by
    rw [quoteTitle_toList]
    simp
  simp only [splitAddress, after, width, before, inside, replacePair_doubleQuotes,
    String.ofList_toList]

/-- A quote that closes a title is never the first of a doubled pair, so the title ends at the
same place whatever follows it. -/
theorem doubleQuotes_close {cs ds rest tail : List Char}
    (same : doubleQuotes cs ++ Text.singleQuote :: '!' :: rest
      = doubleQuotes ds ++ Text.singleQuote :: '!' :: tail) : cs = ds ∧ rest = tail := by
  induction cs generalizing ds with
  | nil =>
    cases ds with
    | nil => simpa [doubleQuotes] using same
    | cons d ds =>
      by_cases quote : d = Text.singleQuote
      · -- the second quote of the pair would be the exclamation mark
        simp [doubleQuotes, quote, Text.singleQuote] at same
      · simp [doubleQuotes, quote, Ne.symm quote] at same
  | cons c cs ih =>
    cases ds with
    | nil =>
      by_cases quote : c = Text.singleQuote
      · simp [doubleQuotes, quote, Text.singleQuote] at same
      · simp [doubleQuotes, quote] at same
    | cons d ds =>
      rw [doubleQuotes_cons, doubleQuotes_cons] at same
      by_cases left : c = Text.singleQuote <;> by_cases right : d = Text.singleQuote
      · simp only [left, right, if_true, List.cons_append, List.nil_append, List.cons.injEq,
          true_and] at same
        obtain ⟨titles, cells⟩ := ih same
        exact ⟨by rw [left, right, titles], cells⟩
      · simp [left, right, Ne.symm right] at same
      · simp [left, right] at same
      · simp only [left, right, if_false, List.cons_append, List.nil_append,
          List.cons.injEq] at same
        obtain ⟨titles, cells⟩ := ih same.2
        exact ⟨by rw [same.1, titles], cells⟩

theorem address_inj {title otherTitle cells otherCells : String}
    (same : address title cells = address otherTitle otherCells) :
    title = otherTitle ∧ cells = otherCells := by
  have lists := congrArg String.toList same
  simp only [address_toList, quoteTitle_toList, List.cons_append, List.append_assoc,
    List.nil_append, List.cons.injEq, true_and] at lists
  obtain ⟨titles, tails⟩ := doubleQuotes_close lists
  exact ⟨String.toList_inj.mp titles, String.toList_inj.mp tails⟩

theorem notMem_afterLast (separator : Char) (cs : List Char) :
    separator ∉ Text.afterLast separator cs := by
  rw [Text.afterLast, List.mem_reverse]
  intro member
  have kept := List.all_eq_true.mp List.all_takeWhile separator member
  simp at kept

theorem bang_notMem_of_splitAddress {text title cells : String}
    (split : splitAddress text = (title, cells)) : '!' ∉ cells.toList := by
  have cut : cells = String.ofList (Text.afterLast '!' text.toList) :=
    (congrArg Prod.snd split).symm
  rw [cut, String.toList_ofList]
  exact notMem_afterLast '!' text.toList

/-- An address determines its title and its cells, whatever quotes and exclamation marks they have,
and splitting it at its last exclamation mark recovers them exactly when the cells have none. -/
theorem addresses_are_unambiguous (title otherTitle cells otherCells : String) :
    (address title cells = address otherTitle otherCells
      ↔ title = otherTitle ∧ cells = otherCells)
    ∧ (splitAddress (address title cells) = (title, cells) ↔ '!' ∉ cells.toList) := by
  refine ⟨⟨address_inj, ?_⟩, bang_notMem_of_splitAddress, splitAddress_address title⟩
  rintro ⟨rfl, rfl⟩
  rfl

end LoanDispatch.Spreadsheet
