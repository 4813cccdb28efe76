import Rubric.Proofs.Encoding.Label
import Rubric.Proofs.Settings.Sources
import Rubric.Proofs.Toml.Spelling

/-! Overriding a text by a variable. A text that is no truth value and no integer means the same in
a variable as in a file over all others. The others are retyped in a variable and then refused. -/
namespace Rubric.Settings

/-- The settings that are a text. -/
inductive TextSetting where
  | encoding
  | logFile
deriving DecidableEq, Repr

namespace TextSetting

def name : TextSetting → Text
  | encoding => "RULEDIT__ENCODING".toList
  | logFile => "RULEDIT__REPORT__LOG_FILE".toList

def table (v : Toml.Value) : TextSetting → Toml.Table
  | encoding => [("encoding".toList, v)]
  | logFile => [("report".toList, .table [("log_file".toList, v)])]

def value (settings : Settings) : TextSetting → Option Text
  | encoding => some settings.encoding
  | logFile => settings.report.logFile

end TextSetting

variable {α : Type} {setting : TextSetting} {v path content : Text} {w : Toml.Value}
  {lower fields : Toml.Table} {layer start : Layer} {stage : Stage} {strict : Bool}
  {files environment : List (Text × Text)} {tables : List Toml.Table} {settings : Settings}

theorem scalar_of_not_retyped (h : ¬Retyped v) : scalar v = .string v := by
  have hTaken := taken_scalar v
  generalize scalar v = w at hTaken ⊢
  cases hTaken with
  | flag hRetyped => exact absurd hRetyped h
  | integer hRetyped => exact absurd hRetyped h
  | text => rfl

/-- A retyped value is refused where a text is expected. -/
theorem text?_scalar_of_retyped (h : Retyped v) : text? .merged (scalar v) = none := by
  have hTaken := taken_scalar v
  generalize scalar v = w at hTaken ⊢
  cases hTaken with
  | flag => rfl
  | integer => rfl
  | text hText => exact absurd h hText

theorem ofEnvironment_name : ofEnvironment [(setting.name, v)] = setting.table (scalar v) := by
  cases setting with
  | encoding =>
      have hPath : keyPath? TextSetting.encoding.name = some ["encoding".toList] := by
        decide +kernel
      simp only [ofEnvironment, List.foldl_cons, List.foldl_nil, hPath]
      rw [variableValue, if_neg (by simp)]
      rfl
  | logFile =>
      have hPath : keyPath? TextSetting.logFile.name =
          some ["report".toList, "log_file".toList] := by
        decide +kernel
      simp only [ofEnvironment, List.foldl_cons, List.foldl_nil, hPath]
      rw [variableValue, if_neg (by simp)]
      rfl

theorem readFile_table (h : Toml.read? content = some (setting.table (.string v))) :
    readFile strict path content = .ok (setting.table (.string v)) := by
  rw [readFile, h]
  cases setting <;> cases strict <;> rfl

section Overlay

variable {take : Toml.Value → Option α} {key : String} {name : Text}

theorem optional_put : optional take (Fields.put name w fields) key =
    if key.toList = name then (take w).map some else optional take fields key := by
  rw [optional, Fields.find?_put]
  by_cases hName : key.toList = name
  · rw [if_pos hName, if_pos hName]
  · rw [if_neg hName, if_neg hName, optional]

def fieldsOf : Option Toml.Value → Toml.Table
  | some (.table fields) => fields
  | _ => []

/-- Laying a single field over a value puts the field into what fields the value has. -/
theorem overlaid_singleton {old : Option Toml.Value} (hTable : ∀ fields, w ≠ .table fields) :
    Toml.Value.overlaid old (.table [(name, w)]) = .table (Fields.put name w (fieldsOf old)) := by
  by_cases hOld : ∃ below, old = some (.table below)
  · obtain ⟨below, rfl⟩ := hOld
    rw [Toml.Value.overlaid, Toml.Value.overlaidFields, Toml.Value.overlaidFields,
      Toml.Value.overlaid_of_upper_ne_table hTable, fieldsOf]
  · have hNone : fieldsOf old = [] := by
      rw [fieldsOf.eq_def]
      split
      next => exact absurd ⟨_, rfl⟩ hOld
      next => rfl
    rw [Toml.Value.overlaid_of_lower_ne_table (by simpa using hOld), hNone, Fields.put]

/-- A report that is accepted has acceptable flags. -/
theorem exists_flags_of_withReport {old : Option Toml.Value}
    (h : Layer.withReport .merged start old = some layer) :
    (∃ stderr, optional flag? (fieldsOf old) "stderr" = some stderr) ∧
      ∃ pretty, optional flag? (fieldsOf old) "pretty" = some pretty := by
  rw [fieldsOf.eq_def]
  split
  next =>
    simp only [Layer.withReport, Option.bind_eq_bind, Option.bind_eq_some_iff] at h
    obtain ⟨stderr, hStderr, logFile, -, pretty, hPretty, -⟩ := h
    exact ⟨⟨stderr, hStderr⟩, pretty, hPretty⟩
  next => exact ⟨⟨none, rfl⟩, none, rfl⟩

theorem overlay_encoding (hTable : ∀ fields, w ≠ .table fields) :
    lower.overlay (TextSetting.encoding.table w) = Fields.put "encoding".toList w lower := by
  rw [TextSetting.table, Toml.Table.overlay, Toml.Value.overlaidFields, Toml.Value.overlaidFields,
    Toml.Value.overlaid_of_upper_ne_table hTable]

/-- The log file is put into the report of the lower table and leaves its other fields in place. -/
theorem overlay_logFile (hTable : ∀ fields, w ≠ .table fields) :
    lower.overlay (TextSetting.logFile.table w) = Fields.put "report".toList
      (.table (Fields.put "log_file".toList w (fieldsOf (lower.find? "report".toList)))) lower := by
  rw [TextSetting.table, Toml.Table.overlay, Toml.Value.overlaidFields, Toml.Value.overlaidFields,
    overlaid_singleton hTable]

/-- A text laid over an accepted table is accepted and becomes the value of its setting. -/
theorem ofTable?_overlay_string (setting : TextSetting) (v : Text)
    (h : Layer.ofTable? .merged lower = some layer) :
    ∃ changed, Layer.ofTable? .merged (lower.overlay (setting.table (.string v))) = some changed ∧
      setting.value changed.complete = some v := by
  obtain ⟨rules, hRules, h⟩ := Option.bind_eq_some_iff.mp h
  obtain ⟨encoding, hEncoding, h⟩ := Option.bind_eq_some_iff.mp h
  cases setting with
  | encoding =>
      obtain ⟨changed, hChanged, -, hEncodingGiven⟩ :=
        exists_withReport { Layer.empty with rules := rules, encoding := some v } h
      refine ⟨changed, ?_, ?_⟩
      · rw [overlay_encoding (by simp), Layer.ofTable?, optional_put, if_neg (by simp), hRules,
          optional_put, if_pos rfl, Fields.find?_put, if_neg (by simp)]
        exact hChanged
      · rw [TextSetting.value, Layer.complete, hEncodingGiven]
        rfl
  | logFile =>
      obtain ⟨⟨stderr, hStderr⟩, pretty, hPretty⟩ := exists_flags_of_withReport h
      refine ⟨⟨rules, encoding, stderr, some v, pretty⟩, ?_, rfl⟩
      rw [overlay_logFile (by simp), Layer.ofTable?, optional_put, if_neg (by simp), hRules,
        optional_put, if_neg (by simp), hEncoding, Fields.find?_put, if_pos rfl]
      generalize fieldsOf (lower.find? "report".toList) = below at hStderr hPretty ⊢
      simp [Layer.withReport, optional_put, hStderr, hPretty, text?_string]

/-- A value that is no text spoils every table that it is laid over. -/
theorem ofTable?_overlay_eq_none (hTable : ∀ fields, w ≠ .table fields)
    (h : text? .merged w = none) :
    Layer.ofTable? .merged (lower.overlay (setting.table w)) = none := by
  rw [Layer.ofTable?, Option.bind_eq_bind, Option.bind_eq_none_iff]
  intro rules _
  rw [Option.bind_eq_bind, Option.bind_eq_none_iff]
  intro encoding hEncoding
  cases setting with
  | encoding =>
      rw [overlay_encoding hTable, optional_put, if_pos rfl, h] at hEncoding
      cases hEncoding
  | logFile =>
      rw [overlay_logFile hTable, Fields.find?_put, if_pos rfl]
      simp [Layer.withReport, optional_put, h]

end Overlay

/-- Some file gives any text for a setting. -/
theorem exists_content (setting : TextSetting) (v : Text) :
    ∃ content, Toml.read? content = some (setting.table (.string v)) := by
  cases setting with
  | encoding =>
      have hKey : ∀ rest, Toml.readDotted ("encoding".toList ++ '=' :: rest) =
          some ([], "encoding".toList, '=' :: rest) := fun _ => rfl
      exact ⟨_, Toml.read?_assignment ⟨'e', "ncoding".toList, rfl, rfl⟩ hKey⟩
  | logFile =>
      have hKey : ∀ rest, Toml.readDotted ("report.log_file".toList ++ '=' :: rest) =
          some (["report".toList], "log_file".toList, '=' :: rest) := fun _ => rfl
      exact ⟨_, Toml.read?_assignment ⟨'r', "eport.log_file".toList, rfl, rfl⟩ hKey⟩

/-- Of all labels only the one of digits is retyped. -/
theorem not_retyped_of_ofLabel? (hLabel : (Encoding.ofLabel? v).isSome)
    (hOther : v ≠ "866".toList) : ¬Retyped v := by
  rintro (hTrue | hFalse | hInt)
  · exact (Encoding.lower_ne_of_ofLabel? hLabel).1 hTrue
  · exact (Encoding.lower_ne_of_ofLabel? hLabel).2 hFalse
  · exact hOther (Encoding.eq_of_readInt? hLabel hInt)

/-- A variable for a text means what a file over all others means that gives the text, unless the
variable is taken for a truth value or an integer. Then the variable is refused, and only the file
gives the text. Some file does for any text, and among the labels of encodings only one is taken for
something else. -/
theorem resolve_variable (h : resolve ⟨files, [], strict⟩ = .ok settings) (setting : TextSetting)
    (v : Text) :
    (∃ content, Toml.read? content = some (setting.table (.string v))) ∧
      (∀ path content, Toml.read? content = some (setting.table (.string v)) →
        ∃ changed, setting.value changed = some v ∧
          resolve ⟨files ++ [(path, content)], [], strict⟩ = .ok changed ∧
          resolve ⟨files, [(setting.name, v)], strict⟩ =
            if Retyped v then .error (.invalidValue "<merged>".toList) else .ok changed) ∧
      ((Encoding.ofLabel? v).isSome → v ≠ "866".toList → ¬Retyped v) := by
  obtain ⟨tables, layer, hTables, hLayer, -⟩ := exists_tables_of_resolve h
  refine ⟨exists_content setting v, fun path content hRead => ?_, not_retyped_of_ofLabel?⟩
  obtain ⟨changed, hChanged, hValue⟩ := ofTable?_overlay_string setting v hLayer
  refine ⟨changed.complete, hValue, ?_, ?_⟩
  · have hFiles : (files ++ [(path, content)]).mapM (fun file => readFile strict file.1 file.2) =
        .ok (tables ++ [setting.table (.string v)]) := by
      rw [List.mapM_append, hTables, List.mapM_cons, readFile_table hRead]
      rfl
    rw [resolve_of_tables hFiles, List.foldl_concat]
    exact ofMerged_eq_ok_iff.mpr ⟨changed, hChanged, rfl⟩
  · rw [resolve_of_tables hTables, ofEnvironment_name]
    by_cases hRetyped : Retyped v
    · rw [if_pos hRetyped, ofMerged, ofTable?_overlay_eq_none (fun _ => (taken_scalar v).ne_table)
        (text?_scalar_of_retyped hRetyped)]
    · rw [if_neg hRetyped, scalar_of_not_retyped hRetyped]
      exact ofMerged_eq_ok_iff.mpr ⟨changed, hChanged, rfl⟩

def ruled : List (Text × Text) :=
  [("a.toml".toList, "rules = [\"r.json\"]\n".toList)]

/-- A path that starts with a digit stays a text. A word that reads as a flag is refused. -/
theorem resolve_variable_ruled :
    Toml.read? "report.log_file='7.json'".toList =
        some [("report".toList, .table [("log_file".toList, .string "7.json".toList)])] ∧
      resolve ⟨ruled, [("RULEDIT__REPORT__LOG_FILE".toList, "7.json".toList)], true⟩ =
        resolve ⟨ruled ++ [("b.toml".toList, "report.log_file='7.json'".toList)], [], true⟩ ∧
      resolve ⟨ruled, [("RULEDIT__REPORT__LOG_FILE".toList, "True".toList)], true⟩ =
        .error (.invalidValue "<merged>".toList) := by
  have hRuled : resolve ⟨ruled, [], true⟩ =
      .ok { default with rules := ["r.json".toList] } := by decide +kernel
  have hRead : Toml.read? "report.log_file='7.json'".toList =
      some (TextSetting.logFile.table (.string "7.json".toList)) := by
    simp only [String.reduceToList]
    rfl
  obtain ⟨changed, -, hFile, hVariable⟩ :=
    (resolve_variable hRuled .logFile "7.json".toList).2.1 "b.toml".toList _ hRead
  rw [if_neg (by decide +kernel)] at hVariable
  obtain ⟨content, hContent⟩ := (resolve_variable hRuled .logFile "True".toList).1
  obtain ⟨other, -, -, hRefused⟩ :=
    (resolve_variable hRuled .logFile "True".toList).2.1 [] content hContent
  rw [if_pos (by decide +kernel)] at hRefused
  exact ⟨hRead, hVariable.trans hFile.symm, hRefused⟩

/-- A label that names an encoding in a file and is refused in a variable. -/
theorem resolve_variable_integer_label :
    (Encoding.ofLabel? "866".toList).isSome ∧
      resolve ⟨[("a.toml".toList, "encoding = \"866\"\n".toList)], [], true⟩ =
        .ok { default with encoding := "866".toList } ∧
      resolve ⟨[], [("RULEDIT__ENCODING".toList, "866".toList)], true⟩ =
        .error (.invalidValue "<merged>".toList) := by
  decide +kernel

end Rubric.Settings
