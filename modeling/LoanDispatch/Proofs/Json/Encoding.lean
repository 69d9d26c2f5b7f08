import LoanDispatch.Json.Encoding
import LoanDispatch.Proofs.Json.Scanning

/-!
Bodies are read as they were encoded.  Each encoding decodes its own bytes, and the encoding of a
written document is told from its byte order mark, or from the zero bytes around its first character,
which is ASCII.
-/

set_option autoImplicit false

namespace LoanDispatch.Json

open Text

namespace Encoding

/-- The units of a character: its own code, or those of a surrogate pair. -/
def units (c : Char) : List Nat :=
  if c.toNat < 0x10000 then [c.toNat]
  else [0xD800 + (c.toNat - 0x10000) / 0x400, 0xDC00 + (c.toNat - 0x10000) % 0x400]

def unitBytes (bigEndian : Bool) (unit : Nat) : List UInt8 :=
  let high := UInt8.ofNat (unit / 256)
  let low := UInt8.ofNat (unit % 256)
  if bigEndian then [high, low] else [low, high]

def encodeChar : Encoding → Char → List UInt8
  | .utf8, c => String.utf8EncodeChar c
  | .utf16 bigEndian, c => (units c).flatMap (unitBytes bigEndian)
  | .utf32 true, c => unitBytes true (c.toNat / 0x10000) ++ unitBytes true (c.toNat % 0x10000)
  | .utf32 false, c => unitBytes false (c.toNat % 0x10000) ++ unitBytes false (c.toNat / 0x10000)

def orderMark : Char := Char.ofNat 0xFEFF

/-- The bytes of a text, with or without a byte order mark in front. -/
def encode (encoding : Encoding) (marked : Bool) (cs : List Char) : List UInt8 :=
  (if marked then orderMark :: cs else cs).flatMap encoding.encodeChar

end Encoding

section Decoding

open Encoding

theorem toNat_byte {n : Nat} (small : n < 256) : (UInt8.ofNat n).toNat = n :=
  UInt8.toNat_ofNat_of_lt small

theorem toNat_lt_top (c : Char) : c.toNat < 0x110000 := by
  rcases c.valid with low | high
  · exact Nat.lt_trans low (by decide)
  · exact high.2

theorem continuation?_byte (n : Nat) :
    continuation? (UInt8.ofNat (n % 64 + 128)) = some (n % 64) := by
  have value := toNat_byte (n := n % 64 + 128) (by omega)
  rw [continuation?, if_pos (by omega), value, Nat.add_sub_cancel]

section Forms

variable {a b c d : UInt8} {x y z : Nat} {point : Point} (rest : List UInt8)

theorem decodeUtf8?_one (first : a.toNat < 0x80) (whole : Point.ofNat? a.toNat = some point) :
    decodeUtf8? (a :: rest) = (decodeUtf8? rest).map (point :: ·) := by
  rw [decodeUtf8?.eq_def]
  dsimp only
  rw [if_pos first, whole]
  cases decodeUtf8? rest <;> rfl

theorem decodeUtf8?_two (first : 0xC2 ≤ a.toNat ∧ a.toNat < 0xE0)
    (second : continuation? b = some x)
    (whole : Point.ofNat? ((a.toNat - 0xC0) * 64 + x) = some point) :
    decodeUtf8? (a :: b :: rest) = (decodeUtf8? rest).map (point :: ·) := by
  rw [decodeUtf8?.eq_def]
  dsimp only
  rw [if_neg (by omega), if_pos first, second]
  simp only [Option.bind_eq_bind, Option.bind_some, whole]
  cases decodeUtf8? rest <;> rfl

theorem decodeUtf8?_three (first : 0xE0 ≤ a.toNat ∧ a.toNat < 0xF0)
    (second : continuation? b = some x) (third : continuation? c = some y)
    (long : 0x800 ≤ ((a.toNat - 0xE0) * 64 + x) * 64 + y)
    (whole : Point.ofNat? (((a.toNat - 0xE0) * 64 + x) * 64 + y) = some point) :
    decodeUtf8? (a :: b :: c :: rest) = (decodeUtf8? rest).map (point :: ·) := by
  rw [decodeUtf8?.eq_def]
  dsimp only
  rw [if_neg (by omega), if_neg (by omega), if_pos first, second, third]
  simp only [Option.bind_eq_bind, Option.bind_some, if_neg (Nat.not_lt.mpr long), whole]
  cases decodeUtf8? rest <;> rfl

theorem decodeUtf8?_four (first : 0xF0 ≤ a.toNat ∧ a.toNat < 0xF5)
    (second : continuation? b = some x) (third : continuation? c = some y)
    (fourth : continuation? d = some z)
    (long : 0x10000 ≤ (((a.toNat - 0xF0) * 64 + x) * 64 + y) * 64 + z)
    (whole : Point.ofNat? ((((a.toNat - 0xF0) * 64 + x) * 64 + y) * 64 + z) = some point) :
    decodeUtf8? (a :: b :: c :: d :: rest) = (decodeUtf8? rest).map (point :: ·) := by
  rw [decodeUtf8?.eq_def]
  dsimp only
  rw [if_neg (by omega), if_neg (by omega), if_neg (by omega), if_pos first, second, third, fourth]
  simp only [Option.bind_eq_bind, Option.bind_some, if_neg (Nat.not_lt.mpr long), whole]
  cases decodeUtf8? rest <;> rfl

end Forms

-- One case for each count of bytes; the first byte decides it.
theorem decodeUtf8?_encodeChar (c : Char) (rest : List UInt8) :
    decodeUtf8? (String.utf8EncodeChar c ++ rest) = (decodeUtf8? rest).map (.char c :: ·) := by
  have top := toNat_lt_top c
  have code : c.val.toNat = c.toNat := rfl
  have spelled {n : Nat} (whole : n = c.toNat) : Point.ofNat? n = some (.char c) :=
    whole ▸ Point.ofNat?_toNat c
  rw [String.utf8EncodeChar]
  simp only [code]
  split_ifs with one two three
  · have first := toNat_byte (n := c.toNat) (by omega)
    exact decodeUtf8?_one rest (by omega) (spelled first)
  · have first := toNat_byte (n := c.toNat / 64 % 32 + 192) (by omega)
    exact decodeUtf8?_two rest (by omega) (continuation?_byte _) (spelled (by omega))
  · have first := toNat_byte (n := c.toNat / 4096 % 16 + 224) (by omega)
    exact decodeUtf8?_three rest (by omega) (continuation?_byte _) (continuation?_byte _)
      (by omega) (spelled (by omega))
  · have first := toNat_byte (n := c.toNat / 262144 % 8 + 240) (by omega)
    exact decodeUtf8?_four rest (by omega) (continuation?_byte _) (continuation?_byte _)
      (continuation?_byte _) (by omega) (spelled (by omega))

theorem decodeUnits?_unitBytes (bigEndian : Bool) {unit : Nat} (small : unit < 0x10000)
    (rest : List UInt8) :
    decodeUnits? bigEndian (unitBytes bigEndian unit ++ rest)
      = (decodeUnits? bigEndian rest).map (unit :: ·) := by
  have high := toNat_byte (n := unit / 256) (by omega)
  have low := toNat_byte (n := unit % 256) (by omega)
  have whole : unit / 256 * 256 + unit % 256 = unit := Nat.div_add_mod' unit 256
  cases bigEndian <;> simp [unitBytes, decodeUnits?, pairValue, high, low, whole]

theorem units_small {c : Char} {unit : Nat} (member : unit ∈ units c) : unit < 0x10000 := by
  have top := toNat_lt_top c
  unfold units at member
  split at member
  · obtain rfl := List.mem_singleton.mp member
    assumption
  · simp only [List.mem_cons, List.not_mem_nil, or_false] at member
    omega

theorem decodeUnits?_flatMap (bigEndian : Bool) {codes : List Nat}
    (small : ∀ unit ∈ codes, unit < 0x10000) :
    decodeUnits? bigEndian (codes.flatMap (unitBytes bigEndian)) = some codes := by
  induction codes with
  | nil => rfl
  | cons unit rest ih =>
    obtain ⟨own, later⟩ := List.forall_mem_cons.mp small
    rw [List.flatMap_cons, decodeUnits?_unitBytes bigEndian own, ih later]
    rfl

theorem joinUnits?_units (c : Char) (rest : List Nat) :
    joinUnits? (units c ++ rest) = (joinUnits? rest).map (.char c :: ·) := by
  have top := toNat_lt_top c
  have point := Point.ofNat?_toNat c
  unfold units
  split
  · have whole : c.toNat < 0xD800 ∨ 0xE000 ≤ c.toNat := c.valid.imp id And.left
    cases rest with
    | nil => simp [joinUnits?, point]
    | cons second rest =>
      rw [List.singleton_append, joinUnits?, if_neg (by omega), point]
      cases joinUnits? (second :: rest) <;> rfl
  · have whole : 0x10000 + (0xD800 + (c.toNat - 0x10000) / 0x400 - 0xD800) * 0x400
        + (0xDC00 + (c.toNat - 0x10000) % 0x400 - 0xDC00) = c.toNat := by omega
    rw [List.cons_append, List.singleton_append, joinUnits?, if_pos (by omega), whole, point]
    cases joinUnits? rest <;> rfl

theorem decodeUtf32?_encodeChar (bigEndian : Bool) (c : Char) (rest : List UInt8) :
    decodeUtf32? bigEndian ((Encoding.utf32 bigEndian).encodeChar c ++ rest)
      = (decodeUtf32? bigEndian rest).map (.char c :: ·) := by
  have top := toNat_lt_top c
  have point := Point.ofNat?_toNat c
  have pair {n : Nat} (small : n < 0x10000) :
      (UInt8.ofNat (n / 256)).toNat * 256 + (UInt8.ofNat (n % 256)).toNat = n := by
    rw [toNat_byte (by omega), toNat_byte (by omega), Nat.div_add_mod']
  have high := pair (n := c.toNat / 0x10000) (by omega)
  have low := pair (n := c.toNat % 0x10000) (by omega)
  have whole : c.toNat / 0x10000 * 65536 + c.toNat % 0x10000 = c.toNat := Nat.div_add_mod' _ _
  cases bigEndian <;>
    · simp only [encodeChar, unitBytes, if_true, Bool.false_eq_true, if_false, List.cons_append,
        List.nil_append, decodeUtf32?, pairValue, high, low, whole, point, Option.bind_eq_bind,
        Option.bind_some]
      cases decodeUtf32? _ rest <;> rfl

theorem decoded_flatMap {α : Type} (decode : List α → Option (List Point))
    {image : Char → List α} (empty : decode [] = some [])
    (each : ∀ c rest, decode (image c ++ rest) = (decode rest).map (.char c :: ·))
    (cs : List Char) : decode (cs.flatMap image) = some (Point.ofChars cs) := by
  induction cs with
  | nil => exact empty
  | cons c cs ih =>
    rw [List.flatMap_cons, each, ih]
    rfl

/-- Each encoding decodes its own bytes. -/
theorem decode?_flatMap (encoding : Encoding) (cs : List Char) :
    encoding.decode? (cs.flatMap encoding.encodeChar) = some (Point.ofChars cs) := by
  cases encoding with
  | utf8 => exact decoded_flatMap decodeUtf8? rfl decodeUtf8?_encodeChar cs
  | utf16 bigEndian =>
    have gathered : cs.flatMap (Encoding.utf16 bigEndian).encodeChar
        = (cs.flatMap units).flatMap (unitBytes bigEndian) := List.flatMap_assoc.symm
    have small : ∀ unit ∈ cs.flatMap units, unit < 0x10000 := by
      intro unit member
      obtain ⟨c, -, among⟩ := List.mem_flatMap.mp member
      exact units_small among
    rw [decode?, gathered, decodeUnits?_flatMap bigEndian small]
    exact decoded_flatMap joinUnits? rfl joinUnits?_units cs
  | utf32 bigEndian =>
    exact decoded_flatMap (decodeUtf32? bigEndian) rfl (decodeUtf32?_encodeChar bigEndian) cs

end Decoding

section Detection

open Encoding

/-- The text begins with an ASCII character, and none of its characters is null. -/
structure Detectable (cs : List Char) : Prop where
  ascii : ∃ c rest, cs = c :: rest ∧ c.toNat < 128
  filled : ∀ c ∈ cs, c.toNat ≠ 0

variable {a b c d : UInt8} {tail : List UInt8}

theorem byte_ne_zero {n : Nat} (small : n < 256) (positive : n ≠ 0) : UInt8.ofNat n ≠ 0 := by
  intro zero
  have value := toNat_byte small
  rw [zero] at value
  exact positive value.symm

theorem utf8_first {c : Char} (filled : c.toNat ≠ 0) :
    ∃ byte rest, Encoding.utf8.encodeChar c = byte :: rest ∧ byte ≠ 0 := by
  have code : c.val.toNat = c.toNat := rfl
  rw [encodeChar, String.utf8EncodeChar]
  simp only [code]
  split_ifs <;> exact ⟨_, _, rfl, byte_ne_zero (by omega) (by omega)⟩

theorem utf16_first (bigEndian : Bool) {c : Char} (filled : c.toNat ≠ 0) :
    ∃ x y rest, (Encoding.utf16 bigEndian).encodeChar c = x :: y :: rest ∧ ¬ (x = 0 ∧ y = 0) := by
  have first : ∃ unit others, units c = unit :: others ∧ unit ≠ 0 ∧ unit < 0x10000 := by
    have small := @units_small c
    unfold units at small ⊢
    split
    · exact ⟨_, _, rfl, filled, by assumption⟩
    · exact ⟨_, _, rfl, by omega, by have top := toNat_lt_top c; omega⟩
  obtain ⟨unit, others, shape, positive, small⟩ := first
  have bytes : ¬ (UInt8.ofNat (unit / 256) = 0 ∧ UInt8.ofNat (unit % 256) = 0) := by
    rintro ⟨high, low⟩
    by_cases zero : unit / 256 = 0
    · exact byte_ne_zero (by omega) (by omega) low
    · exact byte_ne_zero (by omega) zero high
  rw [encodeChar, shape, List.flatMap_cons]
  cases bigEndian with
  | true => exact ⟨_, _, _, rfl, bytes⟩
  | false => exact ⟨_, _, _, rfl, fun zero => bytes zero.symm⟩

/-- A body that begins with an ASCII character has no byte order mark. -/
theorem detectEncoding_ascii (ascii : a.toNat < 128) (filled : a ≠ 0) :
    detectEncoding (a :: tail) = (unmarkedEncoding (a :: tail), a :: tail) := by
  have other {mark : UInt8} (high : 128 ≤ mark.toNat) : mark ≠ a := by
    rintro rfl
    omega
  have none : (marks.find? fun mark => mark.2.isPrefixOf (a :: tail)) = none := by
    simp [marks, filled.symm, @other 0xFE (by decide), @other 0xFF (by decide),
      @other 0xEF (by decide)]
  rw [detectEncoding, none]

theorem detectEncoding_utf8 (ascii : a.toNat < 128) (filled : a ≠ 0)
    (next : tail = [] ∨ ∃ byte rest, tail = byte :: rest ∧ byte ≠ 0) :
    detectEncoding (a :: tail) = (.utf8, a :: tail) := by
  rw [detectEncoding_ascii ascii filled]
  rcases next with rfl | ⟨b, rest, rfl, second⟩
  · rfl
  · match rest with
    | [] | [_] | _ :: _ :: _ => simp [unmarkedEncoding, filled, second]

/-- Two bytes follow in pairs that are not both zero, or no more follow. -/
def Paired (tail : List UInt8) : Prop :=
  tail = [] ∨ ∃ x y rest, tail = x :: y :: rest ∧ ¬ (x = 0 ∧ y = 0)

theorem detectEncoding_utf16Big (filled : a ≠ 0) (next : Paired tail) :
    detectEncoding (0 :: a :: tail) = (.utf16 true, 0 :: a :: tail) := by
  have none : (marks.find? fun mark => mark.2.isPrefixOf (0 :: a :: tail)) = none := by
    simp [marks, filled.symm]
  rw [detectEncoding, none]
  rcases next with rfl | ⟨x, y, rest, rfl, -⟩
  · rfl
  · simp [unmarkedEncoding, filled]

theorem detectEncoding_utf16Little (ascii : a.toNat < 128) (filled : a ≠ 0)
    (next : Paired tail) :
    detectEncoding (a :: 0 :: tail) = (.utf16 false, a :: 0 :: tail) := by
  rw [detectEncoding_ascii ascii filled]
  rcases next with rfl | ⟨x, y, rest, rfl, second⟩
  · simp [unmarkedEncoding, filled]
  · simp [unmarkedEncoding, filled, second]

theorem detectEncoding_utf32Big :
    detectEncoding (0 :: 0 :: 0 :: a :: tail) = (.utf32 true, 0 :: 0 :: 0 :: a :: tail) := rfl

theorem detectEncoding_utf32Little (ascii : a.toNat < 128) (filled : a ≠ 0) :
    detectEncoding (a :: 0 :: 0 :: 0 :: tail) = (.utf32 false, a :: 0 :: 0 :: 0 :: tail) := by
  rw [detectEncoding_ascii ascii filled]
  simp [unmarkedEncoding, filled]

theorem paired_flatMap (bigEndian : Bool) {cs : List Char} (filled : ∀ c ∈ cs, c.toNat ≠ 0) :
    Paired (cs.flatMap (Encoding.utf16 bigEndian).encodeChar) := by
  cases cs with
  | nil => exact .inl rfl
  | cons c rest =>
    obtain ⟨x, y, others, shape, apart⟩ := utf16_first bigEndian (filled c List.mem_cons_self)
    exact .inr ⟨x, y, _, by rw [List.flatMap_cons, shape]; rfl, apart⟩

/-- The bytes of an ASCII character that has the code of this byte. -/
def asciiBytes : Encoding → UInt8 → List UInt8
  | .utf8, byte => [byte]
  | .utf16 true, byte => [0, byte]
  | .utf16 false, byte => [byte, 0]
  | .utf32 true, byte => [0, 0, 0, byte]
  | .utf32 false, byte => [byte, 0, 0, 0]

theorem encodeChar_ascii (encoding : Encoding) {c : Char} (ascii : c.toNat < 128) :
    encoding.encodeChar c = asciiBytes encoding (UInt8.ofNat c.toNat) := by
  have low : c.toNat % 256 = c.toNat := Nat.mod_eq_of_lt (by omega)
  have high : c.toNat / 256 = 0 := Nat.div_eq_of_lt (by omega)
  cases encoding with
  | utf8 =>
    have few : c.val.toNat ≤ 127 := Nat.le_of_lt_succ ascii
    rw [encodeChar, String.utf8EncodeChar]
    simp only [few, if_true]
    rfl
  | utf16 bigEndian =>
    have single : units c = [c.toNat] := if_pos (by omega)
    cases bigEndian <;> simp [encodeChar, single, unitBytes, low, high, asciiBytes]
  | utf32 bigEndian =>
    have whole : c.toNat % 0x10000 = c.toNat := Nat.mod_eq_of_lt (by omega)
    have plane : c.toNat / 0x10000 = 0 := Nat.div_eq_of_lt (by omega)
    cases bigEndian <;> simp [encodeChar, unitBytes, whole, plane, low, high, asciiBytes]

theorem detectEncoding_unmarked (encoding : Encoding) {cs : List Char} (detectable : Detectable cs) :
    detectEncoding (cs.flatMap encoding.encodeChar)
      = (encoding, cs.flatMap encoding.encodeChar) := by
  obtain ⟨⟨c, rest, rfl, ascii⟩, filled⟩ := detectable
  obtain ⟨own, later⟩ := List.forall_mem_cons.mp filled
  have value := toNat_byte (n := c.toNat) (by omega)
  have low : (UInt8.ofNat c.toNat).toNat < 128 := by omega
  have nonzero := byte_ne_zero (n := c.toNat) (by omega) own
  rw [List.flatMap_cons, encodeChar_ascii encoding ascii]
  cases encoding with
  | utf8 =>
    refine detectEncoding_utf8 low nonzero ?_
    cases rest with
    | nil => exact .inl rfl
    | cons other others =>
      obtain ⟨byte, bytes, shape, second⟩ := utf8_first (later other List.mem_cons_self)
      exact .inr ⟨byte, _, by rw [List.flatMap_cons, shape]; rfl, second⟩
  | utf16 bigEndian =>
    have next := paired_flatMap bigEndian later
    cases bigEndian with
    | true => exact detectEncoding_utf16Big nonzero next
    | false => exact detectEncoding_utf16Little low nonzero next
  | utf32 bigEndian =>
    cases bigEndian with
    | true => exact detectEncoding_utf32Big
    | false => exact detectEncoding_utf32Little low nonzero

theorem detectEncoding_marked (encoding : Encoding) {cs : List Char} (detectable : Detectable cs) :
    detectEncoding ((orderMark :: cs).flatMap encoding.encodeChar)
      = (encoding, cs.flatMap encoding.encodeChar) := by
  rw [List.flatMap_cons]
  cases encoding with
  | utf8 => rfl
  | utf16 bigEndian =>
    cases bigEndian with
    | true => rfl
    | false =>
      -- The mark is also the front of a longer one, whose other half is a null character.
      have mark : (Encoding.utf16 false).encodeChar orderMark = [0xFF, 0xFE] := rfl
      rw [mark]
      rcases paired_flatMap false detectable.filled with none | ⟨x, y, rest, shape, second⟩
      · rw [none]
        rfl
      · rw [shape]
        have found : (marks.find? fun mark => mark.2.isPrefixOf (0xFF :: 0xFE :: x :: y :: rest))
            = some (.utf16 false, [0xFF, 0xFE]) := by
          have apart : ¬ (0 = x ∧ 0 = y) := fun zero => second ⟨zero.1.symm, zero.2.symm⟩
          simp [marks, List.isPrefixOf, apart]
        rw [List.cons_append, List.singleton_append, detectEncoding, found]
        rfl
  | utf32 bigEndian => cases bigEndian <;> rfl

/-- A text is decoded from the bytes of any encoding. -/
theorem decodeBody?_encode (encoding : Encoding) (marked : Bool) {cs : List Char}
    (detectable : Detectable cs) :
    decodeBody? (encoding.encode marked cs) = some (Point.ofChars cs) := by
  rw [decodeBody?]
  cases marked with
  | true =>
    rw [show encoding.encode true cs = (orderMark :: cs).flatMap encoding.encodeChar from rfl,
      detectEncoding_marked encoding detectable]
    exact decode?_flatMap encoding cs
  | false =>
    rw [show encoding.encode false cs = cs.flatMap encoding.encodeChar from rfl,
      detectEncoding_unmarked encoding detectable]
    exact decode?_flatMap encoding cs

end Detection

section Bodies

variable {style : Style}

theorem not_null_of_mem_separator {separator blanks : List Char} {mark : Char}
    (shape : separator = mark :: blanks) (each : ∀ c ∈ blanks, isJsonBlank c = true)
    (filled : mark.toNat ≠ 0) : ∀ c ∈ separator, c.toNat ≠ 0 := by
  rw [shape]
  refine List.forall_mem_cons.mpr ⟨filled, fun c member zero => ?_⟩
  have null : c = Char.ofNat 0 := by rw [← zero, Char.ofNat_toNat]
  rw [null] at member
  exact absurd (each _ member) (by decide)

theorem detectable_render (standard : style.Standard) (document : Json) :
    Detectable (document.render style) where
  ascii := by
    obtain ⟨c, tail, shape, -, -, ascii⟩ := render_starts style document
    exact ⟨c, tail, shape, ascii⟩
  filled := by
    obtain ⟨_, item, itemBlanks⟩ := standard.item
    obtain ⟨_, key, keyBlanks⟩ := standard.key
    have parts : HoldsOfParts style fun cs => ∀ c ∈ cs, c.toNat ≠ 0 := {
      append := fun front back first second => List.forall_mem_append.mpr ⟨first, second⟩
      tokens := fun cs tokens c member => Nat.ne_of_gt (Nat.zero_lt_of_lt (tokens c member).1.1)
      quoted := fun cs c member =>
        Nat.ne_of_gt (Nat.zero_lt_of_lt (isWritten_of_mem_quoteChars member).1)
      item := not_null_of_mem_separator item itemBlanks (by decide)
      key := not_null_of_mem_separator key keyBlanks (by decide) }
    exact parts.render document

/-- What is read of the bytes of a written document depends on the room for its brackets alone. -/
theorem readBody_encode_render (encoding : Encoding) (marked : Bool) (standard : style.Standard)
    {document : Json} (readable : document.Readable) (room : Nat) :
    readBody room (encoding.encode marked (document.render style)) = document.asRead room := by
  rw [readBody, decodeBody?_encode encoding marked (detectable_render standard document)]
  exact readWithin_render standard readable room

end Bodies

end LoanDispatch.Json
