import LoanDispatch.Proofs.Calendar.Digits

/-!
Written moments that are read again.  A date and time comes back from its text as it was, but for an
offset of less than a second, which comes back as universal time.
-/

set_option autoImplicit false

namespace LoanDispatch.Calendar

open Text

section Date

theorem daysInMonth_le (year month : Nat) : daysInMonth year month ≤ 31 := by
  unfold daysInMonth
  split
  · split <;> decide
  · split
    · decide
    · split <;> decide

theorem month_le_of_days {year month : Nat} (days : 1 ≤ daysInMonth year month) : month ≤ 12 := by
  unfold daysInMonth at days
  grind

theorem Date.ofParts?_self (date : Date) : Date.ofParts? date.year date.month date.day = some date :=
  dif_pos ⟨date.year_pos, date.year_le, date.day_pos, date.day_le⟩

theorem Date.isoText_toList (date : Date) :
    date.isoText.toList = (padZeros 4 date.year).toList ++ '-' :: ((padZeros 2 date.month).toList
      ++ '-' :: (padZeros 2 date.day).toList) := by
  simp [Date.isoText]

theorem Date.parts_lt (date : Date) :
    date.year < 10 ^ 4 ∧ date.month < 10 ^ 2 ∧ date.day < 10 ^ 2 := by
  have year := date.year_le
  have month := month_le_of_days (Nat.le_trans date.day_pos date.day_le)
  have day := Nat.le_trans date.day_le (daysInMonth_le date.year date.month)
  omega

theorem Date.length_isoText (date : Date) : date.isoText.toList.length = 10 := by
  obtain ⟨year, month, day⟩ := date.parts_lt
  simp [Date.isoText_toList, length_padZeros (by decide) year, length_padZeros (by decide) month,
    length_padZeros (by decide) day]

theorem readDateFields?_isoText (date : Date) :
    readDateFields? date.isoText.toList = some date := by
  obtain ⟨year, month, day⟩ := date.parts_lt
  obtain ⟨digit, rest, shape, plain⟩ := head_padZeros (by decide) month
  have noWeek : (padZeros 2 date.month).toList.head? ≠ some 'W' := by
    rw [shape]
    exact fun same => ne_of_isDigit plain rfl (Option.some.inj same)
  have last := exactDigits?_padZeros (by decide) day []
  rw [List.append_nil] at last
  rw [Date.isoText_toList, readDateFields?, exactDigits?_padZeros (by decide) year]
  simp only [Option.bind_eq_bind, Option.bind_some, List.head?_cons, List.drop_one, List.tail_cons,
    ↓reduceIte]
  rw [if_neg, exactDigits?_padZeros (by decide) month]
  · simp only [Option.bind_some, List.head?_cons, ↓reduceIte, List.tail_cons, last,
      Date.ofParts?_self]
  · simpa [shape] using noWeek

end Date

section Clock

variable {final : Bool} {colons : Option Bool} {fields : List Nat} {fuel value micro : Nat}

theorem readFraction?_padZeros (small : micro < 10 ^ 6) :
    readFraction? final (padZeros 6 micro).toList = some (micro, final) := by
  have read := exactDigits?_padZeros (by decide) small []
  rw [List.append_nil] at read
  simp [readFraction?, length_padZeros (by decide) small, read, Number.tenTo]

theorem readClockFrom?_last (small : value < 10 ^ 2) :
    readClockFrom? final (fuel + 1) colons fields (padZeros 2 value).toList
      = some (value :: fields, 0, final) := by
  have read := exactDigits?_padZeros (by decide) small []
  rw [List.append_nil] at read
  rw [readClockFrom?, read]
  rfl

theorem readClockFrom?_colon (small : value < 10 ^ 2) {tail : List Char} (more : tail ≠ [])
    (extended : colons ≠ some false) :
    readClockFrom? final (fuel + 1) colons fields ((padZeros 2 value).toList ++ ':' :: tail)
      = readClockFrom? final fuel (some true) (value :: fields) tail := by
  rw [readClockFrom?, exactDigits?_padZeros (by decide) small]
  cases colons with
  | none => simp [more]
  | some given => cases given <;> simp_all

theorem readClockFrom?_micro (small : value < 10 ^ 2) (tiny : micro < 10 ^ 6) :
    readClockFrom? final (fuel + 1) (some true) fields
        ((padZeros 2 value).toList ++ (microText micro).toList)
      = some (value :: fields, micro, final) := by
  unfold microText
  split
  · next whole =>
    subst whole
    rw [String.toList_empty, List.append_nil, readClockFrom?_last small]
  · obtain ⟨digit, rest, shape, _⟩ := head_padZeros (by decide) tiny
    have point : ("." ++ padZeros 6 micro).toList = '.' :: (padZeros 6 micro).toList := by simp
    rw [point, readClockFrom?, exactDigits?_padZeros (by decide) small]
    have filled : (padZeros 6 micro).toList ≠ [] := shape ▸ List.cons_ne_nil digit rest
    simp [readFraction?_padZeros tiny, filled]

theorem spells_microText {marks : List Char} (point : '.' ∈ marks) (micro : Nat) :
    Spells marks (microText micro) := by
  unfold microText
  split
  · exact spells_empty
  · exact spells_append.mpr ⟨spells_mark rfl point, spells_padZeros 6 micro⟩

/-- Hours, minutes and seconds, with or without a fraction. -/
theorem readClockFields?_seconds {hour minute second : Nat} (hours : hour < 10 ^ 2)
    (minutes : minute < 10 ^ 2) (seconds : second < 10 ^ 2) (tiny : micro < 10 ^ 6) :
    readClockFields? final ((padZeros 2 hour).toList ++ ':' :: ((padZeros 2 minute).toList
        ++ ':' :: ((padZeros 2 second).toList ++ (microText micro).toList)))
      = some ⟨hour, minute, second, micro, final⟩ := by
  rw [readClockFields?, readClockFrom?_colon hours (by simp) (by simp),
    readClockFrom?_colon minutes _ (by simp), readClockFrom?_micro seconds tiny]
  · rfl
  · obtain ⟨digit, rest, shape, _⟩ := head_padZeros (by decide) seconds
    simp [shape]

theorem readClockFields?_minutes {hour minute : Nat} (hours : hour < 10 ^ 2)
    (minutes : minute < 10 ^ 2) :
    readClockFields? final ((padZeros 2 hour).toList ++ ':' :: (padZeros 2 minute).toList)
      = some ⟨hour, minute, 0, 0, final⟩ := by
  obtain ⟨digit, rest, shape, _⟩ := head_padZeros (by decide) minutes
  rw [readClockFields?, readClockFrom?_colon hours _ (by simp), readClockFrom?_last minutes]
  · rfl
  · simp [shape]

theorem Clock.isoText_toList (clock : Clock) :
    clock.isoText.toList = (padZeros 2 clock.hour).toList ++ ':' :: ((padZeros 2 clock.minute).toList
      ++ ':' :: ((padZeros 2 clock.second).toList ++ (microText clock.micro).toList)) := by
  simp [Clock.isoText, Clock.secondsText]

theorem Clock.ofParts?_self (clock : Clock) :
    Clock.ofParts? clock.hour clock.minute clock.second clock.micro = some clock :=
  dif_pos ⟨clock.hour_lt, clock.minute_lt, clock.second_lt, clock.micro_lt⟩

theorem readClockFields?_isoText (clock : Clock) :
    readClockFields? final clock.isoText.toList
      = some ⟨clock.hour, clock.minute, clock.second, clock.micro, final⟩ := by
  have hour := clock.hour_lt
  have minute := clock.minute_lt
  have second := clock.second_lt
  rw [Clock.isoText_toList, readClockFields?_seconds (by omega) (by omega) (by omega) clock.micro_lt]

theorem Clock.spells_isoText {marks : List Char} (colon : ':' ∈ marks) (point : '.' ∈ marks)
    (clock : Clock) : Spells marks clock.isoText := by
  have colons : Spells marks ":" := spells_mark rfl colon
  simp [Clock.isoText, Clock.secondsText, colons, spells_microText point]

end Clock

section Offset

namespace Offset

/-- What is left of an offset when it is written and read: one of less than a second counts as
none. -/
def kept (offset : Offset) : Offset := if offset.micros.natAbs < 1000000 then utc else offset

/-- The text of an offset after its sign. -/
def sizeText (offset : Offset) : String :=
  let size := offset.micros.natAbs
  let seconds := size / 1000000
  let micro := size % 1000000
  padZeros 2 (seconds / 3600) ++ ":" ++ padZeros 2 (seconds / 60 % 60)
    ++ if seconds % 60 = 0 ∧ micro = 0 then "" else ":" ++ padZeros 2 (seconds % 60) ++ microText micro

def sign (offset : Offset) : Char := if offset.micros < 0 then '-' else '+'

theorem sign_eq_minus (offset : Offset) :
    decide (offset.sign = '-') = decide (offset.micros < 0) := by
  unfold sign
  split <;> simp [*]

theorem isoText_toList (offset : Offset) :
    offset.isoText.toList = offset.sign :: offset.sizeText.toList := by
  unfold isoText sizeText sign
  simp only [String.toList_append]
  split <;> simp

theorem spells_isoText {marks : List Char} (colon : ':' ∈ marks) (point : '.' ∈ marks)
    (plus : '+' ∈ marks) (minus : '-' ∈ marks) (offset : Offset) : Spells marks offset.isoText := by
  have colons : Spells marks ":" := spells_mark rfl colon
  have signs : Spells marks (if offset.micros < 0 then "-" else "+") := by
    split
    · exact spells_mark rfl minus
    · exact spells_mark rfl plus
  simp only [isoText, spells_append, spells_padZeros, and_true, signs, colons, true_and]
  split
  · exact spells_empty
  · simp [colons, spells_microText point]

theorem ofMicros?_self (offset : Offset) : ofMicros? offset.micros = some offset :=
  dif_pos ⟨offset.lower, offset.upper⟩

end Offset

theorem readClockFields?_sizeText (offset : Offset) :
    readClockFields? true offset.sizeText.toList
      = some ⟨offset.micros.natAbs / 1000000 / 3600, offset.micros.natAbs / 1000000 / 60 % 60,
          offset.micros.natAbs / 1000000 % 60, offset.micros.natAbs % 1000000, true⟩ := by
  have lower := offset.lower
  have upper := offset.upper
  have bound : offset.micros.natAbs < 86400000000 := by
    unfold dayMicros at lower upper
    omega
  have hours : offset.micros.natAbs / 1000000 / 3600 < 10 ^ 2 := by omega
  have minutes : offset.micros.natAbs / 1000000 / 60 % 60 < 10 ^ 2 := by omega
  have seconds : offset.micros.natAbs / 1000000 % 60 < 10 ^ 2 := by omega
  have tiny : offset.micros.natAbs % 1000000 < 10 ^ 6 := by omega
  simp only [Offset.sizeText]
  split
  · next whole =>
    have read : readClockFields? true _ = _ := readClockFields?_minutes hours minutes
    simpa [whole] using read
  · have read : readClockFields? true _ = _ :=
      readClockFields?_seconds hours minutes seconds tiny
    simpa using read

theorem readOffset?_sizeText (offset : Offset) :
    readOffset? (decide (offset.micros < 0)) offset.sizeText.toList = some offset.kept := by
  have total : offset.micros.natAbs / 1000000 / 3600 * 3600
      + offset.micros.natAbs / 1000000 / 60 % 60 * 60 + offset.micros.natAbs / 1000000 % 60
      = offset.micros.natAbs / 1000000 := by omega
  simp only [readOffset?, readClockFields?_sizeText, Option.bind_eq_bind, Option.bind_some, total,
    Bool.not_true, Bool.false_eq_true, ↓reduceIte, decide_eq_true_eq]
  -- No whole seconds are read as universal time, whatever stands after the point.
  by_cases small : offset.micros.natAbs < 1000000
  · rw [if_pos (Nat.div_eq_of_lt small), Offset.kept, if_pos small]
  · have signed : (if offset.micros < 0 then
          -(((offset.micros.natAbs / 1000000 : Nat) : Int) * 1000000
            + ((offset.micros.natAbs % 1000000 : Nat) : Int))
        else ((offset.micros.natAbs / 1000000 : Nat) : Int) * 1000000
          + ((offset.micros.natAbs % 1000000 : Nat) : Int)) = offset.micros := by
      split <;> omega
    rw [if_neg (by omega), signed, Offset.ofMicros?_self, Offset.kept, if_neg small]

end Offset

section Moment

/-- What is left of a moment when it is written and read. -/
def DateTime.kept (moment : DateTime) : DateTime :=
  { moment with offset := moment.offset.map Offset.kept }

theorem readTime?_isoText (clock : Clock) (offset : Option Offset) :
    readTime? (clock.isoText.toList ++ ((offset.map Offset.isoText).getD "").toList)
      = some (clock, offset.map Offset.kept) := by
  have unsigned : ∀ c ∈ clock.isoText.toList, (!(decide (c = '+') || decide (c = '-'))) = true := by
    intro c member
    have spells : Spells [':', '.'] clock.isoText :=
      clock.spells_isoText (by decide) (by decide)
    have plus : c ≠ '+' := fun same => spells.notMem rfl (by decide) (same ▸ member)
    have minus : c ≠ '-' := fun same => spells.notMem rfl (by decide) (same ▸ member)
    simp [plus, minus]
  rw [readTime?]
  rw [List.takeWhile_append_of_pos unsigned, List.dropWhile_append_of_pos unsigned]
  cases offset with
  | none =>
    simp [readClockFields?_isoText, Clock.ofParts?_self]
  | some offset =>
    have signed : (!(decide (offset.sign = '+') || decide (offset.sign = '-'))) = false := by
      unfold Offset.sign
      split <;> rfl
    simp only [Option.map_some, Option.getD_some, Offset.isoText_toList, List.takeWhile_cons, signed,
      List.dropWhile_cons, Bool.false_eq_true, ↓reduceIte, List.append_nil, readClockFields?_isoText,
      Clock.ofParts?_self, Option.bind_eq_bind, Option.bind_some]
    rw [Offset.sign_eq_minus, readOffset?_sizeText]
    rfl

theorem dateLength_extended {cs : List Char} (long : cs.length ≠ 7) (dash : cs[4]? = some '-')
    (noWeek : cs[5]? ≠ some 'W') : dateLength cs = 10 := by
  simp only [dateLength]
  rw [if_neg long, if_pos dash, if_neg noWeek]

theorem dateLength_isoText (date : Date) (rest : List Char) :
    dateLength (date.isoText.toList ++ rest) = 10 := by
  obtain ⟨year, month, day⟩ := date.parts_lt
  have four := length_padZeros (by decide) year
  obtain ⟨digit, others, shape, plain⟩ := head_padZeros (by decide) month
  apply dateLength_extended
  · rw [List.length_append, Date.length_isoText]
    omega
  · simp [Date.isoText_toList, four]
  · have week : digit ≠ 'W' := ne_of_isDigit plain rfl
    simp [Date.isoText_toList, List.getElem?_append_right, four, shape, week]

theorem DateTime.isoText_toList (moment : DateTime) :
    moment.isoText.toList = moment.date.isoText.toList ++ 'T' :: (moment.clock.isoText.toList
      ++ ((moment.offset.map Offset.isoText).getD "").toList) := by
  simp [DateTime.isoText, DateTime.textWith]

theorem DateTime.read?_isoText (moment : DateTime) : read? moment.isoText = some moment.kept := by
  have count := Date.length_isoText moment.date
  simp only [read?, DateTime.isoText_toList, dateLength_isoText, List.take_left' count,
    List.drop_left' count, readDateFields?_isoText, readTime?_isoText, Option.bind_eq_bind,
    Option.bind_some]
  rfl

theorem DateTime.spells_isoText (moment : DateTime) :
    Spells ['-', 'T', ':', '.', '+'] moment.isoText := by
  have dash : Spells ['-', 'T', ':', '.', '+'] "-" := spells_mark rfl (by decide)
  have between : Spells ['-', 'T', ':', '.', '+'] "T" := spells_mark rfl (by decide)
  have clock : Spells ['-', 'T', ':', '.', '+'] moment.clock.isoText :=
    moment.clock.spells_isoText (by decide) (by decide)
  have zone : Spells ['-', 'T', ':', '.', '+'] ((moment.offset.map Offset.isoText).getD "") := by
    cases moment.offset with
    | none => exact spells_empty
    | some offset => exact offset.spells_isoText (by decide) (by decide) (by decide) (by decide)
  simp [DateTime.isoText, DateTime.textWith, Date.isoText, dash, between, clock, zone]

end Moment

section Fine

/-- The moment has an offset of less than a second, but not none. -/
def DateTime.FineOffset (moment : DateTime) : Prop :=
  ∃ offset, moment.offset = some offset ∧ offset.micros ≠ 0 ∧ offset.micros.natAbs < 1000000

theorem Offset.kept_eq_self_iff (offset : Offset) :
    offset.kept = offset ↔ ¬ (offset.micros ≠ 0 ∧ offset.micros.natAbs < 1000000) := by
  unfold Offset.kept
  split
  · next small =>
    constructor
    · intro same fine
      exact fine.1 (congrArg Offset.micros same).symm
    · intro coarse
      have zero : offset.micros = 0 := by
        by_contra nonzero
        exact coarse ⟨nonzero, small⟩
      obtain ⟨micros, lower, upper⟩ := offset
      cases zero
      rfl
  · next large => exact iff_of_true rfl fun fine => large fine.2

theorem DateTime.kept_eq_self_iff (moment : DateTime) :
    moment.kept = moment ↔ ¬ moment.FineOffset := by
  obtain ⟨date, clock, offset⟩ := moment
  cases offset with
  | none =>
    refine iff_of_true rfl fun fine => ?_
    obtain ⟨offset, given, _⟩ := fine
    cases given
  | some offset =>
    simp only [DateTime.kept, DateTime.FineOffset, Option.map_some, DateTime.mk.injEq, true_and,
      Option.some.injEq, exists_eq_left', Offset.kept_eq_self_iff]

theorem Offset.micros_of_ofMicros? {micros : Int} {offset : Offset}
    (within : ofMicros? micros = some offset) : offset.micros = micros := by
  unfold ofMicros? at within
  split at within
  · cases within
    rfl
  · cases within

/-- An offset that is read is none at all or has a whole second. -/
theorem readOffset?_coarse {negative : Bool} {cs : List Char} {offset : Offset}
    (read : readOffset? negative cs = some offset) :
    offset.micros = 0 ∨ 1000000 ≤ offset.micros.natAbs := by
  obtain ⟨fields, _, read⟩ := Option.bind_eq_some_iff.mp read
  simp only at read
  split at read
  · cases read
  · split at read
    · cases read
      exact .inl rfl
    · next seconds =>
      rw [Offset.micros_of_ofMicros? read]
      refine .inr ?_
      split <;> omega

theorem readTime?_coarse {cs : List Char} {clock : Clock} {offset : Offset}
    (read : readTime? cs = some (clock, some offset)) :
    offset.micros = 0 ∨ 1000000 ≤ offset.micros.natAbs := by
  unfold readTime? at read
  simp only at read
  split at read
  · obtain ⟨fields, _, read⟩ := Option.bind_eq_some_iff.mp read
    obtain ⟨clock, _, read⟩ := Option.bind_eq_some_iff.mp read
    split at read <;> cases read
  · obtain ⟨fields, _, read⟩ := Option.bind_eq_some_iff.mp read
    obtain ⟨clock, _, read⟩ := Option.bind_eq_some_iff.mp read
    obtain ⟨zone, zoned, read⟩ := Option.bind_eq_some_iff.mp read
    cases read
    exact readOffset?_coarse zoned

/-- No moment that is read has an offset of less than a second. -/
theorem DateTime.not_fine_of_read? {s : String} {moment : DateTime}
    (read : DateTime.read? s = some moment) : ¬ moment.FineOffset := by
  unfold DateTime.read? at read
  obtain ⟨date, _, read⟩ := Option.bind_eq_some_iff.mp read
  intro fine
  obtain ⟨offset, zoned, nonzero, small⟩ := fine
  split at read
  · cases read
    cases zoned
  · obtain ⟨⟨clock, zone⟩, timed, read⟩ := Option.bind_eq_some_iff.mp read
    cases read
    cases zoned
    rcases readTime?_coarse timed with zero | large
    · exact nonzero zero
    · omega

end Fine

end LoanDispatch.Calendar
