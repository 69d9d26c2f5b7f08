import LoanDispatch.Proofs.Payload.RoundTrip
import LoanDispatch.Proofs.Profile.Readiness

/-!
Profiles as normal forms of rows.  A row has a profile exactly when it gives what its channel needs,
and otherwise the first field that lacks something is reported.  A profile that is stored as a row
again has itself as its profile, and the configuration of a sheet is read back from its serialised
form.
-/

set_option autoImplicit false

namespace LoanDispatch

namespace Value

/-- The value is a text of more than blanks. -/
def IsFilledText (value : Value) : Prop :=
  ∃ words, value.text? = some words ∧ Text.Filled words

theorem trim_text?_ne_empty_iff {value : Value} :
    Text.trim (value.text?.getD "") ≠ "" ↔ value.IsFilledText := by
  rw [IsFilledText]
  cases value.text? with
  | none =>
    have blank : Text.trim "" = "" := by decide
    simp [blank]
  | some words => simp [Text.trim_ne_empty_iff]

end Value

namespace Ledger.SheetConfig

/-- The fields of a serialised configuration. -/
def entries (sheet : SheetConfig) : List (String × Value) :=
  [("spreadsheetId", .text sheet.spreadsheetId), ("sheetName", sheet.sheetNameValue),
   ("columnMapVersion", .text sheet.columnMapVersion)]

theorem toDictionary_toValue (sheet : SheetConfig) :
    sheet.toValue.toDictionary = .ok (.map sheet.entries) := rfl

theorem getD_spreadsheetId (sheet : SheetConfig) :
    Value.getD "spreadsheetId" sheet.entries = .text sheet.spreadsheetId := by
  simp [Value.getD, entries, Entries.lookup]

theorem getD_columnMapVersion (sheet : SheetConfig) :
    Value.getD "columnMapVersion" sheet.entries = .text sheet.columnMapVersion := by
  simp [Value.getD, entries, Entries.lookup]

theorem getD_sheetName (sheet : SheetConfig) :
    Value.getD "sheetName" sheet.entries = sheet.sheetNameValue := by
  simp [Value.getD, entries, Entries.lookup]

/-- No field has a blank at either end, and none is empty. -/
structure Trimmed (sheet : SheetConfig) : Prop where
  spreadsheetId : Text.Clear sheet.spreadsheetId ∧ sheet.spreadsheetId ≠ ""
  columnMapVersion : Text.Clear sheet.columnMapVersion ∧ sheet.columnMapVersion ≠ ""
  sheetName : ∀ name, sheet.sheetName = some name → Text.Clear name ∧ name ≠ ""

end Ledger.SheetConfig

namespace Profile

open Ledger (SheetConfig)

/-- The channel that a stored method stands for. -/
inductive Denotes (method : Value) : Channel → Prop where
  | code {words : String} {channel : Channel} :
      method.text? = some words → Text.lower (Text.trim words) = channel.code →
        Denotes method channel
  | formerCode {words : String} :
      method.text? = some words → Text.lower (Text.trim words) = "google_sheets" →
        Denotes method .googleSheet
  | unknown :
      (∀ words, method.text? = some words → Text.lower (Text.trim words) ≠ "google_sheets" ∧
        ∀ channel : Channel, Text.lower (Text.trim words) ≠ channel.code) →
        Denotes method .email

/-- What a channel needs of a row. -/
def Suffices (row : LenderRow) : Channel → Prop
  | .email => row.email.IsFilledText
  | .api => row.config ≠ .null
  | .googleSheet => ∃ entries, row.config = .map entries ∧
      (Value.getD "spreadsheetId" entries).IsFilledText ∧
        (Value.getD "columnMapVersion" entries).IsFilledText

/-- The problem of the first field, in the order of the checks, that lacks what a channel needs. -/
inductive FirstLack (lenderId : Value) (row : LenderRow) : Channel → ConfigProblem → Prop where
  | email : ¬ row.email.IsFilledText → FirstLack lenderId row .email (.emailMissing lenderId)
  | apiConfig : row.config = .null → FirstLack lenderId row .api (.apiConfigMissing lenderId)
  | sheetConfig :
      (∀ entries, row.config ≠ .map entries) →
        FirstLack lenderId row .googleSheet .sheetConfigMissing
  | spreadsheetId {entries : List (String × Value)} :
      row.config = .map entries → ¬ (Value.getD "spreadsheetId" entries).IsFilledText →
        FirstLack lenderId row .googleSheet .spreadsheetIdMissing
  | columnMapVersion {entries : List (String × Value)} :
      row.config = .map entries → (Value.getD "spreadsheetId" entries).IsFilledText →
        ¬ (Value.getD "columnMapVersion" entries).IsFilledText →
          FirstLack lenderId row .googleSheet .columnMapVersionMissing

section Method

variable {method : Value} {channel : Channel}

theorem channelOf_of_denotes (denotes : Denotes method channel) : channelOf method = channel := by
  cases denotes with
  | @code words channel given coded =>
    have current : channel.code ≠ formerSheetCode := by cases channel <;> decide
    simp only [channelOf, given, coded, if_neg current, Channel.ofCode?_code, Option.getD_some]
  | formerCode given coded => simp only [channelOf, given, coded, formerSheetCode, if_true]
  | unknown other =>
    unfold channelOf
    cases given : method.text? with
    | none => rfl
    | some words =>
      obtain ⟨former, current⟩ := other words given
      cases found : Channel.ofCode? (Text.lower (Text.trim words)) with
      | none => simp only [formerSheetCode, if_neg former, found, Option.getD_none]
      | some channel => exact absurd (Channel.code_of_ofCode? found).symm (current channel)

theorem denotes_channelOf (method : Value) : Denotes method (channelOf method) := by
  unfold channelOf
  cases given : method.text? with
  | none => exact .unknown fun words text => nomatch given.symm.trans text
  | some words =>
    by_cases former : Text.lower (Text.trim words) = formerSheetCode
    · simp only [if_pos former]
      exact .formerCode given former
    · simp only [if_neg former]
      cases found : Channel.ofCode? (Text.lower (Text.trim words)) with
      | some channel => exact .code given (Channel.code_of_ofCode? found).symm
      | none =>
        refine .unknown fun other text => ?_
        cases given.symm.trans text
        refine ⟨former, fun channel coded => ?_⟩
        rw [coded, Channel.ofCode?_code] at found
        cases found

/-- Every method stands for one channel. -/
theorem denotes_iff : Denotes method channel ↔ channel = channelOf method :=
  ⟨fun denotes => (channelOf_of_denotes denotes).symm, fun same => same ▸ denotes_channelOf method⟩

end Method

section Sheet

variable {config : Value} {sheet : SheetConfig}

theorem sheetConfig_eq_ok (read : sheetConfig config = .ok sheet) :
    ∃ entries, config = .map entries ∧ trimmedEntry "spreadsheetId" entries ≠ "" ∧
      trimmedEntry "columnMapVersion" entries ≠ "" ∧
      sheet = ⟨trimmedEntry "spreadsheetId" entries, trimmedEntry "columnMapVersion" entries,
        if trimmedEntry "sheetName" entries = "" then none
        else some (trimmedEntry "sheetName" entries)⟩ := by
  unfold sheetConfig at read
  split at read
  · next entries =>
    by_cases identified : trimmedEntry "spreadsheetId" entries = ""
    · rw [if_pos identified] at read
      cases read
    by_cases versioned : trimmedEntry "columnMapVersion" entries = ""
    · rw [if_neg identified, if_pos versioned] at read
      cases read
    rw [if_neg identified, if_neg versioned] at read
    cases read
    exact ⟨entries, rfl, identified, versioned, rfl⟩
  · cases read

theorem trimmed_of_sheetConfig (read : sheetConfig config = .ok sheet) : sheet.Trimmed := by
  obtain ⟨entries, rfl, identified, versioned, rfl⟩ := sheetConfig_eq_ok read
  refine ⟨⟨Text.clear_trim _, identified⟩, ⟨Text.clear_trim _, versioned⟩, fun name titled => ?_⟩
  dsimp only at titled
  split_ifs at titled with blank
  cases titled
  exact ⟨Text.clear_trim _, blank⟩

/-- A configuration without blanks at the ends of its fields is read back from its serialised form. -/
theorem sheetConfig_entries (trimmed : sheet.Trimmed) :
    sheetConfig (.map sheet.entries) = .ok sheet := by
  obtain ⟨identified, filled⟩ := trimmed.spreadsheetId
  obtain ⟨versioned, given⟩ := trimmed.columnMapVersion
  have title : trimmedEntry "sheetName" sheet.entries = sheet.sheetName.getD "" := by
    simp only [trimmedEntry, SheetConfig.getD_sheetName, SheetConfig.sheetNameValue]
    cases titled : sheet.sheetName with
    | none => rfl
    | some name => exact (trimmed.sheetName name titled).1.trim_eq
  have name : (if sheet.sheetName.getD "" = "" then none else some (sheet.sheetName.getD ""))
      = sheet.sheetName := by
    cases titled : sheet.sheetName with
    | none => rfl
    | some name => exact if_neg (trimmed.sheetName name titled).2
  simp only [sheetConfig, title, name]
  simp only [trimmedEntry, SheetConfig.getD_spreadsheetId, SheetConfig.getD_columnMapVersion,
    Value.text?, Option.getD_some, identified.trim_eq, versioned.trim_eq, if_neg filled,
    if_neg given]

theorem sheetConfig_of_filled {entries : List (String × Value)}
    (identified : (Value.getD "spreadsheetId" entries).IsFilledText)
    (versioned : (Value.getD "columnMapVersion" entries).IsFilledText) :
    ∃ sheet, sheetConfig (.map entries) = .ok sheet := by
  have first : trimmedEntry "spreadsheetId" entries ≠ "" :=
    Value.trim_text?_ne_empty_iff.mpr identified
  have second : trimmedEntry "columnMapVersion" entries ≠ "" :=
    Value.trim_text?_ne_empty_iff.mpr versioned
  simp only [sheetConfig, if_neg first, if_neg second]
  exact ⟨_, rfl⟩

end Sheet

section Check

variable (lenderId : Value) {row : LenderRow}

theorem checkedEmail_of_suffices {channel : Channel} (chosen : channelOf row.method = channel)
    (enough : Suffices row channel) : ∃ email, checkedEmail lenderId row = .ok email := by
  rw [checkedEmail, chosen]
  cases channel with
  | email =>
    have filled : Text.trim (row.email.text?.getD "") ≠ "" :=
      Value.trim_text?_ne_empty_iff.mpr enough
    exact ⟨_, if_neg filled⟩
  | api =>
    cases given : row.config with
    | null => exact absurd given enough
    | _ => exact ⟨row.email, rfl⟩
  | googleSheet =>
    obtain ⟨entries, mapped, identified, versioned⟩ := enough
    obtain ⟨sheet, read⟩ := sheetConfig_of_filled identified versioned
    rw [mapped, read]
    exact ⟨row.email, rfl⟩

theorem sheetConfig_of_lacking (lacking : ¬ Suffices row .googleSheet) :
    ∃ problem, sheetConfig row.config = .error problem ∧
      FirstLack lenderId row .googleSheet problem := by
  cases given : row.config with
  | map entries =>
    by_cases identified : (Value.getD "spreadsheetId" entries).IsFilledText
    · have versionless : ¬ (Value.getD "columnMapVersion" entries).IsFilledText :=
        fun versioned => lacking ⟨entries, given, identified, versioned⟩
      have first : trimmedEntry "spreadsheetId" entries ≠ "" :=
        Value.trim_text?_ne_empty_iff.mpr identified
      have second : trimmedEntry "columnMapVersion" entries = "" :=
        not_not.mp (mt Value.trim_text?_ne_empty_iff.mp versionless)
      refine ⟨.columnMapVersionMissing, ?_, .columnMapVersion given identified versionless⟩
      simp only [sheetConfig, if_neg first, if_pos second]
    · have first : trimmedEntry "spreadsheetId" entries = "" :=
        not_not.mp (mt Value.trim_text?_ne_empty_iff.mp identified)
      refine ⟨.spreadsheetIdMissing, ?_, .spreadsheetId given identified⟩
      simp only [sheetConfig, if_pos first]
  | _ => exact ⟨.sheetConfigMissing, rfl, .sheetConfig fun entries => by rw [given]; nofun⟩

theorem checkedEmail_of_lacking {channel : Channel} (chosen : channelOf row.method = channel)
    (lacking : ¬ Suffices row channel) :
    ∃ problem, checkedEmail lenderId row = .error problem ∧
      FirstLack lenderId row channel problem := by
  rw [checkedEmail, chosen]
  cases channel with
  | email =>
    have blank : Text.trim (row.email.text?.getD "") = "" :=
      not_not.mp (mt Value.trim_text?_ne_empty_iff.mp lacking)
    exact ⟨_, if_pos blank, .email lacking⟩
  | api =>
    have absent : row.config = .null := not_not.mp lacking
    rw [absent]
    exact ⟨_, rfl, .apiConfig absent⟩
  | googleSheet =>
    obtain ⟨problem, failed, lack⟩ := sheetConfig_of_lacking lenderId lacking
    rw [failed]
    exact ⟨problem, rfl, lack⟩

end Check

/-- The row that stores a profile: its method by its code, and what it keeps of its own row. -/
def toRow (profile : Profile) : LenderRow :=
  ⟨profile.method.plainChannel, profile.email, profile.lenderName, profile.config⟩

section Rebuilding

variable {lenderId : Value} {row : LenderRow} {profile : Profile}

theorem channelOf_code (channel : Channel) : channelOf (.text channel.code) = channel := by
  cases channel <;> decide

/-- The check of a stored profile finds the email that it holds. -/
theorem checkedEmail_toRow (made : ofRow lenderId row = .ok profile) :
    checkedEmail lenderId profile.toRow = .ok profile.email := by
  obtain ⟨_, method, config, checked⟩ := ofRow_eq_ok made
  have chosen : channelOf profile.toRow.method = channelOf row.method := by
    rw [toRow, method]
    exact channelOf_code _
  unfold checkedEmail at checked ⊢
  rw [chosen]
  cases channel : channelOf row.method with
  | email =>
    rw [channel] at checked
    obtain ⟨words, _, filled, trimmed⟩ := emailAddress_eq_ok checked
    show emailAddress lenderId profile.email = _
    simp only [trimmed, emailAddress, Value.text?, Option.getD_some, Text.trim_trim, if_neg filled]
  | api =>
    rw [channel] at checked
    show (if profile.config.isNull then _ else Except.ok profile.email) = _
    rw [config]
    split_ifs at checked ⊢ with absent
    rfl
  | googleSheet =>
    rw [channel] at checked
    obtain ⟨sheet, read, _⟩ := Result.map_eq_ok checked
    show (sheetConfig profile.config).map _ = _
    rw [config, read]
    rfl

/-- A profile that is stored as a row again has itself as its profile. -/
theorem ofRow_toRow (made : ofRow lenderId row = .ok profile) :
    ofRow lenderId profile.toRow = .ok profile := by
  have checked := checkedEmail_toRow made
  obtain ⟨email, -, rfl⟩ := Result.map_eq_ok made
  rw [ofRow, checked]
  simp only [toRow, Value.plainChannel, channelOf_code, Value.orElse_orElse, Except.map]

/-- A row has a profile exactly when its channel is given what it needs, and otherwise the problem
of the first lacking field is the result.  A profile is a normal form: stored again it is its own
profile, and for a sheet the configuration has no blanks around its fields and is read back from its
serialised form. -/
theorem profiles_are_normal_forms (lenderId : Value) (row : LenderRow) :
    ∃ channel, (∀ other, Denotes row.method other ↔ other = channel) ∧
      ((∃ profile, ofRow lenderId row = .ok profile) ↔ Suffices row channel) ∧
      (¬ Suffices row channel →
        ∃ problem, ofRow lenderId row = .error problem ∧ FirstLack lenderId row channel problem) ∧
      ∀ profile, ofRow lenderId row = .ok profile →
        profile.method = .channel channel ∧ ofRow lenderId profile.toRow = .ok profile ∧
        (channel = .googleSheet → ∃ sheet dictionary, sheetConfig row.config = .ok sheet ∧
          sheet.Trimmed ∧ sheet.toValue.toDictionary = .ok dictionary ∧
            sheetConfig dictionary = .ok sheet) := by
  have lacking (short : ¬ Suffices row (channelOf row.method)) :
      ∃ problem, ofRow lenderId row = .error problem ∧
        FirstLack lenderId row (channelOf row.method) problem := by
    obtain ⟨problem, failed, lack⟩ := checkedEmail_of_lacking lenderId rfl short
    exact ⟨problem, by rw [ofRow, failed]; rfl, lack⟩
  refine ⟨channelOf row.method, fun other => denotes_iff, ⟨?_, ?_⟩, lacking, ?_⟩
  · intro accepted
    obtain ⟨profile, made⟩ := accepted
    by_contra short
    obtain ⟨problem, failed, _⟩ := lacking short
    cases made.symm.trans failed
  · intro enough
    obtain ⟨email, checked⟩ := checkedEmail_of_suffices lenderId rfl enough
    rw [ofRow, checked]
    exact ⟨_, rfl⟩
  · intro profile made
    obtain ⟨_, method, _, checked⟩ := ofRow_eq_ok made
    refine ⟨method, ofRow_toRow made, fun chosen => ?_⟩
    rw [checkedEmail, chosen] at checked
    obtain ⟨sheet, read, _⟩ := Result.map_eq_ok checked
    have trimmed := trimmed_of_sheetConfig read
    exact ⟨sheet, _, read, trimmed, sheet.toDictionary_toValue, sheetConfig_entries trimmed⟩

def paddedSheetRow : LenderRow where
  method := .text " Google_Sheets "
  email := .null
  name := .null
  config := .map [("columnMapVersion", .text "v1 "), ("sheetName", .text "  "),
    ("spreadsheetId", .text " sheet-1")]

theorem padded_sheet_row_is_normal :
    ∃ profile sheet, ofRow (.text "lender-1") paddedSheetRow = .ok profile ∧
      ofRow (.text "lender-1") profile.toRow = .ok profile ∧
      sheetConfig paddedSheetRow.config = .ok sheet ∧ sheet.Trimmed ∧
      sheetConfig (.map sheet.entries) = .ok sheet := by
  obtain ⟨channel, denotes, accepted, -, normal⟩ :=
    profiles_are_normal_forms (.text "lender-1") paddedSheetRow
  have chosen : channel = .googleSheet :=
    ((denotes .googleSheet).mp (.formerCode rfl (by decide))).symm
  subst chosen
  have enough : Suffices paddedSheetRow .googleSheet :=
    ⟨_, rfl, ⟨" sheet-1", rfl, 's', by decide, rfl⟩, ⟨"v1 ", rfl, 'v', by decide, rfl⟩⟩
  obtain ⟨profile, made⟩ := accepted.mpr enough
  obtain ⟨-, again, sheets⟩ := normal profile made
  obtain ⟨sheet, dictionary, read, trimmed, serialised, reread⟩ := sheets rfl
  cases serialised
  exact ⟨profile, sheet, made, again, read, trimmed, reread⟩

end Rebuilding

end Profile

end LoanDispatch
