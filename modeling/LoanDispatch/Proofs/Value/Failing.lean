import LoanDispatch.Cell
import LoanDispatch.Proofs.FieldPath.Resolution
import LoanDispatch.Proofs.Result.Steps
import LoanDispatch.Value.Sequence

/-!
How the readings of a value fail.  Their misfits are worded by themselves: none of the wordings
begins with a capital `A`, so none is a message about the application or its identifier.
-/

set_option autoImplicit false

namespace LoanDispatch

open Result

namespace Misfit

/-- The wording of the misfit does not begin with a capital `A`. -/
def Apart (cause : Misfit) : Prop := cause.text.toList.head? ≠ some 'A'

theorem head?_ofList {c : Char} {cs : List Char} :
    (String.ofList (c :: cs)).toList.head? = some c := by
  rw [String.toList_ofList, List.head?_cons]

theorem head?_append {first rest : String} {c : Char} (initial : first.toList.head? = some c) :
    (first ++ rest).toList.head? = some c := by
  rw [String.toList_append, List.head?_append, initial, Option.some_or]

theorem apart_of_head? {cause : Misfit} {c : Char} (initial : cause.text.toList.head? = some c)
    (other : c ≠ 'A') : cause.Apart := by
  rw [Apart, initial]
  simpa using other

-- A wording begins with its first literal; what is put into it comes later.
theorem apart {cause : Misfit} (position : ∀ kind key, cause ≠ .badPosition kind key)
    (key : ∀ shown, cause ≠ .missingKey shown) : cause.Apart := by
  cases cause with
  | badPosition kind shown => exact absurd rfl (position kind shown)
  | missingKey shown => exact absurd rfl (key shown)
  | noIntegerPart infinite =>
    cases infinite with
    | false => exact apart_of_head? head?_ofList (by decide)
    | true => exact apart_of_head? head?_ofList (by decide)
  | emptySequence | tooLarge | notFinite | wrongArguments | badTemplate | badConversion | badLevel
  | notLevel | badCredential => exact apart_of_head? head?_ofList (by decide)
  | badInteger _ | badMoment _ | negativeColumn _ =>
    exact apart_of_head? (head?_append head?_ofList) (by decide)
  | notIterable _ | notContainer _ | notSubscriptable _ | unhashable _ | notIntegral _ | notPair _
  | notText _ | badHeader _ | notJoinable _ | notSerializable _ | tooDeep _ | notAscii _ _ _ =>
    exact apart_of_head? (head?_append (head?_append head?_ofList)) (by decide)
  | unprintable _ | badAddress _ _ =>
    exact apart_of_head? (head?_append (head?_append (head?_append head?_ofList))) (by decide)
  | noAttribute _ _ | tooManyDigits _ _ | pairLength _ _ =>
    exact apart_of_head?
      (head?_append (head?_append (head?_append (head?_append head?_ofList)))) (by decide)
  | notOrdered _ _ _ =>
    exact apart_of_head? (head?_append (head?_append (head?_append (head?_append (head?_append
      (head?_append head?_ofList)))))) (by decide)

theorem failsOnly_apart {α : Type} {cause : Misfit}
    (position : ∀ kind key, cause ≠ .badPosition kind key)
    (key : ∀ shown, cause ≠ .missingKey shown) :
    FailsOnly Apart (.error cause : Except Misfit α) :=
  failsOnly_error (apart position key)

end Misfit

open Misfit

theorem Number.apart_integerMisfit (words : String) : (integerMisfit words).Apart := by
  unfold integerMisfit
  dsimp only
  split
  · split
    · exact apart nofun nofun
    · exact apart nofun nofun
  · exact apart nofun nofun

theorem Number.failsOnly_readInteger (words : String) :
    FailsOnly Apart (readInteger words) := by
  unfold readInteger
  split
  · exact failsOnly_ok _
  · exact failsOnly_error (apart_integerMisfit words)

theorem FieldPath.failsOnly_resolve (source : Value) (path : String) :
    FailsOnly Apart (resolve source path) := by
  intro cause failed
  obtain ⟨segment, _, rfl⟩ := resolve_eq_error_iff.mp failed
  exact Number.apart_integerMisfit segment

namespace Value

section Sequences

theorem failsOnly_first (value : Value) : FailsOnly Apart value.first := by
  unfold first
  split
  · exact failsOnly_ok _
  · exact failsOnly_apart nofun nofun
  · split
    · exact failsOnly_error (apart_of_head? head?_ofList (by decide))
    · exact failsOnly_apart nofun nofun

theorem failsOnly_afterFirst (value : Value) : FailsOnly Apart value.afterFirst := by
  unfold afterFirst
  split
  · exact failsOnly_ok _
  · split
    · exact failsOnly_apart nofun nofun
    · exact failsOnly_apart nofun nofun

theorem failsOnly_includes (words : String) (value : Value) :
    FailsOnly Apart (value.includes words) := by
  unfold includes
  split
  · exact failsOnly_ok _
  · exact failsOnly_ok _
  · exact failsOnly_ok _
  · split
    · exact failsOnly_ok _
    · exact failsOnly_apart nofun nofun

theorem failsOnly_iterate (value : Value) : FailsOnly Apart value.iterate := by
  cases value with
  | list items => exact failsOnly_ok _
  | tuple items => exact failsOnly_ok _
  | map entries => exact failsOnly_ok _
  | text words => exact failsOnly_ok _
  | channel member => exact failsOnly_ok _
  | _ => exact failsOnly_apart nofun nofun

end Sequences

section Entries

theorem failsOnly_keyText (value : Value) : FailsOnly Apart value.keyText := by
  unfold keyText
  split
  · exact failsOnly_apart nofun nofun
  · exact failsOnly_ok _

theorem failsOnly_asEntry (index : Nat) (value : Value) :
    FailsOnly Apart (value.asEntry index) := by
  unfold asEntry
  split
  · split
    · exact failsOnly_ok _
    · exact failsOnly_apart nofun nofun
  · exact failsOnly_apart nofun nofun
  · exact (failsOnly_keyText _).map _
  · exact (failsOnly_keyText _).map _
  · exact failsOnly_apart nofun nofun
  · exact failsOnly_apart nofun nofun
  · exact failsOnly_ok _
  · exact failsOnly_apart nofun nofun
  · exact failsOnly_apart nofun nofun

theorem failsOnly_asEntriesFrom (items : List Value) (index : Nat)
    (entries : List (String × Value)) :
    FailsOnly Apart (asEntriesFrom index entries items) := by
  induction items generalizing index entries with
  | nil => exact failsOnly_ok _
  | cons item rest ih =>
    rw [asEntriesFrom]
    split
    · exact ih _ _
    · next cause failed => exact failsOnly_error (failsOnly_asEntry index item cause failed)

theorem failsOnly_asEntries (value : Value) : FailsOnly Apart value.asEntries := by
  cases value with
  | map entries => exact failsOnly_ok _
  | list items => exact failsOnly_asEntriesFrom items 0 []
  | tuple items => exact failsOnly_asEntriesFrom items 0 []
  | text words =>
    rw [asEntries]
    split
    · exact failsOnly_ok _
    · exact failsOnly_apart nofun nofun
  | _ => exact failsOnly_apart nofun nofun

theorem failsOnly_isoText (value : Value) : FailsOnly Apart value.isoText := by
  cases value with
  | dateTime moment => exact failsOnly_ok _
  | date day => exact failsOnly_ok _
  | _ => exact failsOnly_apart nofun nofun

end Entries

mutual

theorem failsOnly_toDictionary : (value : Value) → FailsOnly Apart value.toDictionary
  | .record kind fields => by
    rw [toDictionary]
    split
    · exact failsOnly_apart nofun nofun
    · split
      · exact failsOnly_ok _
      · next cause failed =>
        exact failsOnly_error (failsOnly_dictionaryFields kind fields cause failed)
  | .null | .bool _ | .int _ | .float _ | .text _ | .list _ | .tuple _ | .map _ | .dateTime _
  | .date _ | .channel _ | .foreign _ => failsOnly_apart nofun nofun

theorem failsOnly_dictionaryFields (kind : RecordKind) :
    (fields : List (String × Value)) → FailsOnly Apart (dictionaryFields kind fields)
  | [] => failsOnly_ok _
  | (field, value) :: rest => by
    rw [dictionaryFields]
    have others : ∀ part, FailsOnly Apart
        (dictionaryFields kind rest >>= fun parts => pure ((field, part) :: parts)) :=
      fun part => (failsOnly_dictionaryFields kind rest).bind fun _ => failsOnly_ok _
    split
    · exact (failsOnly_ok value).bind others
    · exact ((failsOnly_asEntries value).map _).bind others
    · exact (failsOnly_toDictionary value).bind others
    · exact ((failsOnly_itemDictionaries value).map _).bind others
    · exact ((failsOnly_isoText value).map _).bind others
    · exact (failsOnly_ok value.plainChannel).bind others

theorem failsOnly_itemDictionaries :
    (value : Value) → FailsOnly Apart value.itemDictionaries
  | .list items => failsOnly_dictionaries items
  | .tuple items => failsOnly_dictionaries items
  | .map entries => by
    rw [itemDictionaries]
    split
    · exact failsOnly_ok _
    · exact failsOnly_apart nofun nofun
  | .text words => by
    rw [itemDictionaries]
    split
    · exact failsOnly_ok _
    · exact failsOnly_apart nofun nofun
  | .null | .bool _ | .int _ | .float _ | .dateTime _ | .date _ | .channel _ | .foreign _
  | .record .. => failsOnly_apart nofun nofun

theorem failsOnly_dictionaries :
    (items : List Value) → FailsOnly Apart (dictionaries items)
  | [] => failsOnly_ok _
  | item :: rest =>
    (failsOnly_toDictionary item).bind fun _ =>
      (failsOnly_dictionaries rest).bind fun _ => failsOnly_ok _

end

theorem failsOnly_apply (policy : ForeignPolicy) (described displayed kind : String) :
    FailsOnly Apart (policy.apply described displayed kind) := by
  cases policy with
  | describe fieldsOnly => exact failsOnly_ok _
  | display => exact failsOnly_ok _
  | refuse => exact failsOnly_apart nofun nofun

theorem failsOnly_printed (value : Value) : FailsOnly Apart value.printed := by
  unfold printed
  split
  · exact failsOnly_apart nofun nofun
  · exact failsOnly_ok _

theorem failsOnly_keyedJson {key : Except Misfit String} {document : Except Misfit Json}
    (named : FailsOnly Apart key) (written : FailsOnly Apart document) :
    FailsOnly Apart (keyedJson key document) := by
  cases key with
  | error cause => exact failsOnly_error (named cause rfl)
  | ok words =>
    cases document with
    | error cause => exact failsOnly_error (written cause rfl)
    | ok value => exact failsOnly_ok _

mutual

theorem failsOnly_toJson (policy : ForeignPolicy) :
    (value : Value) → FailsOnly Apart (value.toJson policy)
  | .null => failsOnly_ok _
  | .bool _ => failsOnly_ok _
  | .int number => by
    rw [toJson]
    split
    · exact failsOnly_apart nofun nofun
    · exact failsOnly_ok _
  | .float number => by
    rw [toJson]
    split
    · exact failsOnly_apart nofun nofun
    · exact failsOnly_ok _
  | .text _ => failsOnly_ok _
  | .list items => (failsOnly_itemsJson policy items).map _
  | .tuple items => (failsOnly_itemsJson policy items).map _
  | .map entries => (failsOnly_entriesJson policy entries).map _
  | .dateTime _ => failsOnly_apply policy _ _ _
  | .date _ => failsOnly_apply policy _ _ _
  | .channel _ => failsOnly_ok _
  | .foreign _ => failsOnly_apply policy _ _ _
  | .record kind fields => by
    cases policy with
    | display => exact (failsOnly_printed _).map _
    | refuse => exact failsOnly_apart nofun nofun
    | describe fieldsOnly =>
      cases fieldsOnly with
      | true => exact (failsOnly_entriesJson _ fields).map _
      | false =>
        rw [toJson]
        split
        · exact (failsOnly_entriesJson _ fields).map _
        · split
          · next cause failed => exact failsOnly_error (failsOnly_toDictionary _ cause failed)
          · exact (failsOnly_fieldsJson kind fields).map _

theorem failsOnly_itemsJson (policy : ForeignPolicy) :
    (items : List Value) → FailsOnly Apart (itemsJson policy items)
  | [] => failsOnly_ok _
  | item :: rest =>
    (failsOnly_toJson policy item).bind fun _ =>
      (failsOnly_itemsJson policy rest).bind fun _ => failsOnly_ok _

theorem failsOnly_entriesJson (policy : ForeignPolicy) :
    (entries : List (String × Value)) → FailsOnly Apart (entriesJson policy entries)
  | [] => failsOnly_ok _
  | (_, value) :: rest =>
    (failsOnly_toJson policy value).bind fun _ =>
      (failsOnly_entriesJson policy rest).bind fun _ => failsOnly_ok _

theorem failsOnly_fieldsJson (kind : RecordKind) :
    (fields : List (String × Value)) → FailsOnly Apart (fieldsJson kind fields)
  | [] => failsOnly_ok _
  | (field, value) :: rest => by
    rw [fieldsJson]
    have others : ∀ first, FailsOnly Apart
        (fieldsJson kind rest >>= fun others => pure ((field, first) :: others)) :=
      fun first => (failsOnly_fieldsJson kind rest).bind fun _ => failsOnly_ok _
    split
    · exact ((failsOnly_mappingJson value).map _).bind others
    · exact ((failsOnly_isoText value).map _).bind others
    · exact (failsOnly_toJson _ value).bind others

theorem failsOnly_mappingJson : (value : Value) → FailsOnly Apart (mappingJson value)
  | .map entries => failsOnly_entriesJson _ entries
  | .list items => failsOnly_pairsJson 0 [] items
  | .tuple items => failsOnly_pairsJson 0 [] items
  | .null | .bool _ | .int _ | .float _ | .text _ | .dateTime _ | .date _ | .channel _ | .foreign _
  | .record .. => by
    unfold mappingJson
    exact (failsOnly_asEntries _).map _

theorem failsOnly_pairsJson (index : Nat) (entries : List (String × Json)) :
    (items : List Value) → FailsOnly Apart (pairsJson index entries items)
  | [] => failsOnly_ok _
  | item :: rest => by
    rw [pairsJson]
    split
    · next cause failed => exact failsOnly_error (failsOnly_pairJson index item cause failed)
    · exact failsOnly_pairsJson _ _ rest

theorem failsOnly_pairJson (index : Nat) : (value : Value) → FailsOnly Apart (pairJson index value)
  | .list [key, value] => failsOnly_keyedJson (failsOnly_keyText key) (failsOnly_toJson _ value)
  | .tuple [key, value] => failsOnly_keyedJson (failsOnly_keyText key) (failsOnly_toJson _ value)
  | .list [] | .list [_] | .list (_ :: _ :: _ :: _) | .tuple [] | .tuple [_]
  | .tuple (_ :: _ :: _ :: _) | .null | .bool _ | .int _ | .float _ | .text _ | .map _
  | .dateTime _ | .date _ | .channel _ | .foreign _ | .record .. => by
    unfold pairJson
    exact (failsOnly_asEntry index _).map _

end

theorem failsOnly_toCell (value : Value) : FailsOnly Apart value.toCell := by
  cases value with
  | list items => exact (failsOnly_toJson _ _).map _
  | tuple items => exact (failsOnly_toJson _ _).map _
  | map entries => exact (failsOnly_toJson _ _).map _
  | record kind fields => exact (failsOnly_toJson _ _).map _
  | _ => exact failsOnly_ok _

end Value

theorem failsOnly_resolveCell (source : Value) (path : Option String) :
    FailsOnly Apart (resolveCell source path) := by
  unfold resolveCell
  split
  · exact failsOnly_ok _
  · split
    · exact failsOnly_ok _
    · split
      · exact Value.failsOnly_toCell _
      · next cause failed =>
        exact failsOnly_error (FieldPath.failsOnly_resolve source _ cause failed)

end LoanDispatch
