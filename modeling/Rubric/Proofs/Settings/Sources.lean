import Rubric.Proofs.Except
import Rubric.Proofs.Settings.Layers
import Rubric.Proofs.Settings.Variables

/-! What files and environment variables give. Before it joins the others, the table of a file is
rid of marks and sorted, which keeps all that a strict file may give. What a variable says is only
known to be of the right kind once all layers together are accepted. -/
namespace Rubric.Settings

variable {α : Type} {stage : Stage} {t name : Text} {texts : List Text} {b : Bool} {v : Toml.Value}
  {fields inner : Toml.Table} {layer : Layer}

section Take

theorem text?_file_eq_some_iff : text? .file v = some t ↔ v = .string t := by
  cases v <;> simp [text?]

theorem flag?_eq_some_iff : flag? v = some b ↔ v = .boolean b := by
  cases v <;> simp [flag?]

theorem text?_string (stage : Stage) (t : Text) : text? stage (.string t) = some t :=
  rfl

theorem flag?_boolean (b : Bool) : flag? (.boolean b) = some b :=
  rfl

theorem texts?_strings (stage : Stage) (texts : List Text) :
    texts? stage (.array (texts.map .string)) = some texts := by
  induction texts with
  | nil => rfl
  | cons t texts ih =>
      rw [texts?] at ih ⊢
      rw [List.map_cons, List.mapM_cons, ih]
      rfl

theorem eq_strings_of_texts? (h : texts? .file v = some texts) :
    v = .array (texts.map .string) := by
  cases v with
  | array items =>
      rw [texts?] at h
      congr 1
      induction items generalizing texts with
      | nil =>
          obtain rfl : [] = texts := by simpa using h
          rfl
      | cons item items ih =>
          rw [List.mapM_cons] at h
          obtain ⟨t, hItem, h⟩ := Option.bind_eq_some_iff.mp h
          obtain ⟨rest, hRest, h⟩ := Option.bind_eq_some_iff.mp h
          obtain rfl : t :: rest = texts := Option.some.inj h
          rw [ih hRest, text?_file_eq_some_iff.mp hItem, List.map_cons]
  | _ => simp [texts?] at h

variable {take : Toml.Value → Option α} {plain : α → Toml.Value} {found : Option α} {key : String}

/-- A setting that was read stands in the table as it was read. -/
theorem find?_of_optional (hTake : ∀ {v a}, take v = some a → v = plain a)
    (h : optional take fields key = some found) :
    Fields.find? key.toList fields = found.map plain := by
  rw [optional] at h
  split at h
  next hNone =>
    obtain rfl := Option.some.inj h
    exact hNone
  next v hSome =>
    obtain ⟨a, hValue, rfl⟩ := Option.map_eq_some_iff.mp h
    rw [hSome, hTake hValue, Option.map_some]

/-- A setting that stands in the table is read as it stands. -/
theorem optional_of_find? (hTake : ∀ a, take (plain a) = some a)
    (h : Fields.find? key.toList fields = found.map plain) :
    optional take fields key = some found := by
  rw [optional, h]
  cases found with
  | none => rfl
  | some a => simp [hTake]

end Take

/-- How a value for the report is written. -/
def Form.of? : Toml.Value → Option Form
  | .table _ => some .named
  | .array _ => some .listed
  | _ => none

namespace Given

/-- What a file gives, taken alone. -/
def ofFile? (content : Text) : Option Given := do
  let fields ← Toml.read? content
  let layer ← Layer.ofTable? .file fields
  some ⟨layer, (fields.find? "report".toList).bind Form.of?⟩

/-- What environment variables give. The last variable for a setting counts, and any variable for
something in the report makes a table of it. -/
def ofVariables (environment : List (Text × Text)) : Given :=
  let given := assignments environment
  { layer :=
      { rules := (lastAt ["rules".toList] given).map listItems
        encoding := lastAt ["encoding".toList] given
        stderr := (lastAt ["report".toList, "stderr".toList] given).map truth
        logFile := lastAt ["report".toList, "log_file".toList] given
        pretty := (lastAt ["report".toList, "pretty".toList] given).map truth }
    form := if below "report".toList given = [] then none else some .named }
where
  truth (raw : Text) : Bool :=
    decide (lowerAscii raw = "true".toList)

end Given

section File

variable {kept : Toml.Table} {more : List Toml.Value}

/-- A report without unknown names has none but its own. -/
theorem names_of_unknownNames (h : unknownNames fields = [])
    (hReport : Fields.find? "report".toList fields = some (.table inner)) :
    ∀ field ∈ inner, field.1 ∈ reportNames := by
  intro field hField
  have hNone := List.flatMap_eq_nil_iff.mp h _ (Fields.mem_of_find? hReport)
  simp only [if_true, List.map_eq_nil_iff, List.filter_eq_nil_iff] at hNone
  simpa using hNone field hField

/-- A moment is refused as a report, since its mark is no name of one. -/
theorem ne_moment_of_unknownNames (h : unknownNames fields = []) :
    Fields.find? "report".toList fields ≠ some (.moment t) := by
  intro hReport
  have hNone := List.flatMap_eq_nil_iff.mp h _ (Fields.mem_of_find? hReport)
  simp at hNone

theorem momentMark_notMem_reportNames : Toml.momentMark ∉ reportNames := by
  decide +kernel

/-- In a table that is found, a plain value stands under a name just where it stood there before the
table was cleaned. -/
theorem find?_cleaned_plain {plain : α → Toml.Value} {found : Option α}
    (hPlain : ∀ a, (plain a).cleaned? = some (plain a)) (hNames : Fields.Distinct fields)
    (hKept : Toml.Value.unmarkFields? fields = some kept)
    (hFound : Fields.find? name fields = found.map plain) :
    Fields.find? name (Toml.Value.sortedFields [] kept) = found.map plain := by
  rw [Toml.Value.find?_sortedFields_of_unmarkFields? hNames hKept, hFound]
  cases found with
  | none => rfl
  | some a => exact hPlain a

/-- Whether a report is accepted does not depend on what else the layer gives, and it leaves the
rest of the layer as it is. -/
theorem exists_withReport {start : Layer} {value? : Option Toml.Value} (other : Layer)
    (h : Layer.withReport stage start value? = some layer) :
    ∃ changed, Layer.withReport stage other value? = some changed ∧
      changed.rules = other.rules ∧ changed.encoding = other.encoding := by
  rw [Layer.withReport.eq_def] at h ⊢
  split at h
  next => exact ⟨other, rfl, rfl, rfl⟩
  next =>
    simp only [Option.bind_eq_bind, Option.bind_eq_some_iff] at h ⊢
    obtain ⟨stderr, hStderr, logFile, hLogFile, pretty, hPretty, -⟩ := h
    exact ⟨{ other with stderr := stderr, logFile := logFile, pretty := pretty },
      ⟨stderr, hStderr, logFile, hLogFile, pretty, hPretty, rfl⟩, rfl, rfl⟩
  next =>
    simp only [Option.bind_eq_bind, Option.bind_eq_some_iff] at h ⊢
    obtain ⟨stderr, hStderr, logFile, hLogFile, pretty, hPretty, h⟩ := h
    split at h
    next => cases h
    next hFew =>
      exact ⟨{ other with stderr := some stderr, logFile := some logFile, pretty := some pretty },
        ⟨stderr, hStderr, logFile, hLogFile, pretty, hPretty, if_neg hFew⟩, rfl, rfl⟩
  next =>
    split at h
    next => cases h
    next hFile => exact ⟨other, if_neg hFile, rfl, rfl⟩
  next => cases h

theorem withReport_plain {start : Layer} {value? : Option Toml.Value}
    (h : Layer.withReport stage start value? = some layer) :
    layer.rules = start.rules ∧ layer.encoding = start.encoding := by
  obtain ⟨changed, hSame, hPlain⟩ := exists_withReport start h
  obtain rfl := Option.some.inj (h.symm.trans hSame)
  exact hPlain

/-- A report in a table is written with its names. -/
theorem written_of_withReport_table {start : Layer} (hNames : Fields.Distinct inner)
    (hKept : Toml.Value.unmarkFields? inner = some kept)
    (h : Layer.withReport .file start (some (.table inner)) = some layer) :
    layer.Written (some .named) (some (.table (Toml.Value.sortedFields [] kept))) := by
  simp only [Layer.withReport, Option.bind_eq_bind, Option.bind_eq_some_iff] at h
  obtain ⟨stderr, hStderr, logFile, hLogFile, pretty, hPretty, h⟩ := h
  obtain rfl := Option.some.inj h
  refine .named Toml.Value.ascending_sortedFields ?_ ?_ ?_
  · exact find?_cleaned_plain (fun _ => rfl) hNames hKept
      (find?_of_optional flag?_eq_some_iff.mp hStderr)
  · exact find?_cleaned_plain (fun _ => rfl) hNames hKept
      (find?_of_optional text?_file_eq_some_iff.mp hLogFile)
  · exact find?_cleaned_plain (fun _ => rfl) hNames hKept
      (find?_of_optional flag?_eq_some_iff.mp hPretty)

/-- A report in an array is written as a list, in which each place stands for a setting. -/
theorem written_of_withReport_array {start : Layer} {items : List Toml.Value}
    (hCleaned : Toml.Value.cleaned? (.array items) = some v)
    (h : Layer.withReport .file start (some (.array items)) = some layer) :
    layer.Written (some .listed) (some v) := by
  match items with
  | [] | [_] | [_, _] => simp [Layer.withReport] at h
  | stderr :: logFile :: pretty :: more =>
      simp only [Layer.withReport, Option.bind_eq_bind, Option.bind_eq_some_iff] at h
      obtain ⟨stderr, hStderr, logFile, hLogFile, pretty, hPretty, h⟩ := h
      rw [if_neg (by simp)] at h
      obtain rfl := Option.some.inj h
      rw [flag?_eq_some_iff] at hStderr hPretty
      rw [text?_file_eq_some_iff] at hLogFile
      subst hStderr hLogFile hPretty
      rw [Toml.Value.cleaned?_array] at hCleaned
      obtain ⟨kept, hKept, rfl⟩ := Option.map_eq_some_iff.mp hCleaned
      obtain ⟨rest, -, rfl⟩ : ∃ rest, Toml.Value.unmarkItems? more = some rest ∧
          .boolean stderr :: .string logFile :: .boolean pretty :: rest = kept := by
        simpa [Toml.Value.unmarkItems?, Toml.Value.unmark?, Option.bind_eq_some_iff] using hKept
      exact .listed rfl rfl rfl

/-- Whatever report a file has, its layer holds what is written there. -/
theorem written_of_withReport {start : Layer}
    (hEmpty : start.stderr = none ∧ start.logFile = none ∧ start.pretty = none)
    (hFields : fields.Tidy) (hKept : fields.unmark? = some kept)
    (hKnown : unknownNames fields = [])
    (h : Layer.withReport .file start (Fields.find? "report".toList fields) = some layer) :
    layer.Written ((Fields.find? "report".toList fields).bind Form.of?)
      (Fields.find? "report".toList kept.sorted) := by
  rw [Toml.Table.sorted, Toml.Value.find?_sortedFields_of_unmarkFields? hFields.names hKept]
  cases hFound : Fields.find? "report".toList fields with
  | none =>
      rw [hFound] at h
      obtain rfl := Option.some.inj h
      exact .absent hEmpty.1 hEmpty.2.1 hEmpty.2.2
  | some v =>
      rw [hFound] at h
      obtain ⟨w, hUnmark, -⟩ := Toml.Value.exists_unmark?_of_find? hKept hFound
      simp only [Option.bind_some, Toml.Value.cleaned?, hUnmark, Option.map_some]
      cases v with
      | table inner =>
          have hNames := hFields.inner _ (Fields.mem_of_find? hFound) inner rfl
          have hMark : ∀ field ∈ inner, field.1 ≠ Toml.momentMark := fun field hField hSame =>
            momentMark_notMem_reportNames (hSame ▸ names_of_unknownNames hKnown hFound field hField)
          rw [Toml.Value.unmark?_table hMark] at hUnmark
          obtain ⟨innerKept, hInnerKept, rfl⟩ := Option.map_eq_some_iff.mp hUnmark
          exact written_of_withReport_table hNames hInnerKept h
      | array items =>
          refine written_of_withReport_array ?_ h
          rw [Toml.Value.cleaned?, hUnmark, Option.map_some]
      | moment t => exact absurd hFound (ne_moment_of_unknownNames hKnown)
      | _ => simp [Layer.withReport] at h

/-- A file that passes its check has settings of the right types and no unknown names. -/
theorem of_check_eq_ok {path content : Text} (h : check path content fields = .ok ()) :
    (∃ layer, Layer.ofTable? .file fields = some layer) ∧ unknownNames fields = [] := by
  rw [check] at h
  split at h
  next => cases h
  next hSome =>
    split at h
    next hUnknown =>
      refine ⟨Option.ne_none_iff_exists'.mp (by simpa using hSome), ?_⟩
      simpa [unknownKeys] using hUnknown
    next => cases h

/-- A file that passes gives to the table it leaves just what it gives alone. -/
theorem fits_of_readFile {path content : Text} {left : Toml.Table}
    (h : readFile true path content = .ok left) :
    ∃ given, Given.ofFile? content = some given ∧ given.Fits left ∧ left.Ascending := by
  rw [readFile] at h
  split at h
  next => cases h
  next fields hRead =>
    obtain ⟨⟨⟩, hCheck, h⟩ := bind_eq_ok_iff.mp h
    obtain ⟨⟨layer, hLayer⟩, hKnown⟩ := of_check_eq_ok hCheck
    split at h
    next => cases h
    next kept hKept =>
      obtain rfl : kept.sorted = left := Except.ok.inj h
      have hFields := Toml.tidy_of_read? hRead
      refine ⟨⟨layer, (Fields.find? "report".toList fields).bind Form.of?⟩, ?_, ?_,
        Toml.Value.ascending_sortedFields⟩
      · rw [Given.ofFile?, hRead, Option.bind_eq_bind, Option.bind_some, hLayer]
        rfl
      · obtain ⟨rules, hRules, hLayer⟩ := Option.bind_eq_some_iff.mp hLayer
        obtain ⟨encoding, hEncoding, hLayer⟩ := Option.bind_eq_some_iff.mp hLayer
        have hRules := find?_of_optional eq_strings_of_texts? hRules
        have hEncoding := find?_of_optional text?_file_eq_some_iff.mp hEncoding
        have hPlain := withReport_plain hLayer
        refine ⟨?_, ?_, written_of_withReport ⟨rfl, rfl, rfl⟩ hFields hKept hKnown hLayer⟩
        · rw [hPlain.1]
          exact find?_cleaned_plain (fun _ => Toml.Value.cleaned?_strings) hFields.names hKept
            hRules
        · rw [hPlain.2]
          exact find?_cleaned_plain (fun _ => rfl) hFields.names hKept hEncoding

end File

section Merged

/-- A merged report is accepted only as what was written, so types and names need no second
check. -/
theorem eq_of_written {start written : Layer} {form : Option Form} {value? : Option Toml.Value}
    (hEmpty : start.stderr = none ∧ start.logFile = none ∧ start.pretty = none)
    (hWritten : written.Written form value?)
    (h : Layer.withReport .merged start value? = some layer) :
    layer = { written with rules := start.rules, encoding := start.encoding } := by
  cases hWritten with
  | absent hStderr hLogFile hPretty =>
      obtain rfl := Option.some.inj h
      rw [hStderr, hLogFile, hPretty]
      obtain ⟨rules, encoding, stderr, logFile, pretty⟩ := start
      obtain ⟨rfl, rfl, rfl⟩ := hEmpty
      rfl
  | named _ hStderr hLogFile hPretty =>
      rw [Layer.withReport, optional_of_find? flag?_boolean hStderr,
        optional_of_find? (text?_string _) hLogFile, optional_of_find? flag?_boolean hPretty] at h
      exact (Option.some.inj h).symm
  | listed hStderr hLogFile hPretty =>
      simp only [Layer.withReport, flag?_boolean, text?_string, Option.bind_eq_bind,
        Option.bind_some] at h
      split at h
      next => cases h
      next =>
        obtain rfl := Option.some.inj h
        rw [hStderr, hLogFile, hPretty]

/-- What a table gives is all that is read from it once all layers are in it. -/
theorem Given.Fits.eq_layer {given : Given} (hFits : given.Fits fields)
    (h : Layer.ofTable? .merged fields = some layer) : layer = given.layer := by
  rw [Layer.ofTable?, optional_of_find? (texts?_strings _) hFits.rules,
    optional_of_find? (text?_string _) hFits.encoding] at h
  have hLayer := eq_of_written ⟨rfl, rfl, rfl⟩ hFits.report h
  exact hLayer

end Merged

section Variables

variable {raw : Text} {environment : List (Text × Text)} {lower shown : Toml.Table}
  {given : List (List Text × Toml.Value)} {take : Toml.Value → Option α} {found : Option α}
  {key : String}

/-- A variable is accepted as a text only if it was not retyped. -/
theorem scalar_of_text? (h : (text? stage (scalar raw)).isSome) : scalar raw = .string raw := by
  have hTaken := taken_scalar raw
  generalize scalar raw = v at h hTaken ⊢
  cases hTaken with
  | text => rfl
  | _ => simp [text?] at h

/-- A variable is accepted as a flag only if it is one of the two words for one. -/
theorem scalar_of_flag? (h : (flag? (scalar raw)).isSome) :
    scalar raw = .boolean (Given.ofVariables.truth raw) := by
  have hTaken := taken_scalar raw
  generalize scalar raw = v at h hTaken ⊢
  cases hTaken with
  | flag _ hFlag => rw [hFlag, Given.ofVariables.truth]
  | _ => simp [flag?] at h

/-- Where a table is accepted that shows what is assigned, a name that may not lead to a table leads
to what is assigned to it last, and that is of the right kind. -/
theorem find?_of_accepted (hTake : ∀ fields, take (.table fields) = none) (hPlain : Plain given)
    (hShows : Toml.Value.Shows shown (ofAssignments given))
    (h : optional take shown key = some found) :
    Fields.find? key.toList (ofAssignments given) = lastAt [key.toList] given ∧
      ∀ v, lastAt [key.toList] given = some v → (take v).isSome := by
  have hFind := find?_ofAssignments key.toList hPlain
  cases hLast : lastAt [key.toList] given with
  | some v =>
      rw [hLast, Option.some_or] at hFind
      obtain ⟨old, hShown⟩ := hShows _ _ hFind
      rw [Toml.Value.overlaid_of_upper_ne_table (hPlain _ (mem_of_lastAt hLast))] at hShown
      refine ⟨hFind, fun other hOther => ?_⟩
      obtain rfl := Option.some.inj hOther
      simp only [optional, hShown] at h
      obtain ⟨a, hTaken, -⟩ := Option.map_eq_some_iff.mp h
      exact Option.isSome_of_eq_some hTaken
  | none =>
      rw [hLast, Option.none_or] at hFind
      split at hFind
      next => exact ⟨hFind, by simp⟩
      next =>
        have hNames : Fields.Distinct (ofAssignments (below key.toList given)) :=
          ascending_ofAssignments.distinct
        obtain ⟨old, hShown⟩ := hShows _ _ hFind
        obtain ⟨t, hTable, -⟩ := Toml.Value.exists_shows_of_overlaid old hNames
        simp [optional, hShown, hTable, hTake] at h

/-- Where every value that is given for a setting is of the right kind, the values are what the
variables say. -/
theorem lastAt_valued_of_accepted {β : Type} {path : List Text} (plain : β → Toml.Value)
    (read : Text → β) (hPath : path ≠ ["rules".toList])
    (hRead : ∀ raw, (take (scalar raw)).isSome → scalar raw = plain (read raw))
    (hAccepted : ∀ v, lastAt path (valued environment) = some v → (take v).isSome) :
    lastAt path (valued environment) =
      ((lastAt path (assignments environment)).map read).map plain := by
  rw [lastAt_valued] at hAccepted ⊢
  cases hLast : lastAt path (assignments environment) with
  | none => rfl
  | some raw =>
      have hTaken := hAccepted (variableValue path raw) (by rw [hLast, Option.map_some])
      rw [variableValue, if_neg hPath] at hTaken
      simp only [Option.map_some, variableValue, if_neg hPath, hRead raw hTaken]

/-- A setting of the report that was accepted from a variable is what the last variable for it
says. -/
theorem find?_report_of_accepted {β : Type} (plain : β → Toml.Value) (read : Text → β)
    (hTake : ∀ fields, take (.table fields) = none)
    (hRead : ∀ raw, (take (scalar raw)).isSome → scalar raw = plain (read raw))
    (hShows : Toml.Value.Shows shown (ofAssignments (below name (valued environment))))
    (h : optional take shown key = some found) :
    Fields.find? key.toList (ofAssignments (below name (valued environment))) =
      ((lastAt [name, key.toList] (assignments environment)).map read).map plain := by
  obtain ⟨hFound, hAccepted⟩ := find?_of_accepted hTake (plain_below plain_valued) hShows h
  rw [lastAt_below (by simp)] at hFound hAccepted
  rw [hFound]
  exact lastAt_valued_of_accepted plain read (by simp) hRead hAccepted

/-- A variable for the report as a whole is never accepted. -/
theorem withReport_scalar {start : Layer} :
    Layer.withReport stage start (some (scalar raw)) = none := by
  have hTaken := taken_scalar raw
  generalize scalar raw = v at hTaken ⊢
  cases hTaken <;> rfl

/-- The layer of the variables holds what they assign below the report. -/
theorem written_ofVariables {start : Layer}
    (hShows : Toml.Value.Shows shown (ofAssignments (valued environment)))
    (h : Layer.withReport .merged start (Fields.find? "report".toList shown) = some layer) :
    (Given.ofVariables environment).layer.Written (Given.ofVariables environment).form
      (Fields.find? "report".toList (ofAssignments (valued environment))) := by
  have hPlain : Plain (valued environment) := plain_valued
  have hFind := find?_ofAssignments "report".toList hPlain
  cases hLast : lastAt ["report".toList] (valued environment) with
  | some v =>
      -- A variable for the report as a whole is not accepted, so there is no such layer.
      rw [hLast, Option.some_or] at hFind
      obtain ⟨old, hShown⟩ := hShows _ _ hFind
      rw [Toml.Value.overlaid_of_upper_ne_table (hPlain _ (mem_of_lastAt hLast))] at hShown
      rw [lastAt_valued] at hLast
      obtain ⟨raw, -, rfl⟩ := Option.map_eq_some_iff.mp hLast
      rw [hShown, variableValue, if_neg (by simp), withReport_scalar] at h
      cases h
  | none =>
      rw [hLast, Option.none_or] at hFind
      by_cases hNone : below "report".toList (valued environment) = []
      · rw [if_pos hNone] at hFind
        have hNothing := below_valued_eq_nil_iff.mp hNone
        have hMissing : ∀ key, lastAt ["report".toList, key] (assignments environment) = none := by
          intro key
          rw [← lastAt_below (by simp), hNothing]
          rfl
        rw [hFind]
        simp only [Given.ofVariables, if_pos hNothing, hMissing]
        exact .absent rfl rfl rfl
      · rw [if_neg hNone] at hFind
        have hSomething := mt below_valued_eq_nil_iff.mpr hNone
        have hInner : (ofAssignments (below "report".toList (valued environment))).Ascending :=
          ascending_ofAssignments
        obtain ⟨old, hShown⟩ := hShows _ _ hFind
        obtain ⟨t, hTable, hShowsInner⟩ :=
          Toml.Value.exists_shows_of_overlaid old hInner.distinct
        rw [hShown, hTable] at h
        simp only [Layer.withReport, Option.bind_eq_bind, Option.bind_eq_some_iff] at h
        obtain ⟨stderr, hStderr, logFile, hLogFile, pretty, hPretty, -⟩ := h
        rw [hFind]
        simp only [Given.ofVariables, if_neg hSomething]
        refine .named hInner ?_ ?_ ?_
        · exact find?_report_of_accepted _ _ (fun _ => rfl) (fun _ => scalar_of_flag?)
            hShowsInner hStderr
        · have hFound := find?_report_of_accepted .string id (fun _ => rfl)
            (fun _ => scalar_of_text?) hShowsInner hLogFile
          rwa [Option.map_id] at hFound
        · exact find?_report_of_accepted _ _ (fun _ => rfl) (fun _ => scalar_of_flag?)
            hShowsInner hPretty

/-- If the variables are accepted over some table then their layer fits the table they make. -/
theorem fits_ofVariables
    (h : Layer.ofTable? .merged (lower.overlay (ofEnvironment environment)) = some layer) :
    (Given.ofVariables environment).Fits (ofEnvironment environment) := by
  rw [ofEnvironment_eq_ofAssignments] at h ⊢
  have hShows : Toml.Value.Shows (lower.overlay (ofAssignments (valued environment)))
      (ofAssignments (valued environment)) :=
    Toml.Value.shows_overlaidFields ascending_ofAssignments.distinct
  obtain ⟨rules, hRules, h⟩ := Option.bind_eq_some_iff.mp h
  obtain ⟨encoding, hEncoding, h⟩ := Option.bind_eq_some_iff.mp h
  constructor
  case rules =>
    rw [(find?_of_accepted (fun _ => rfl) plain_valued hShows hRules).1, lastAt_valued]
    simp only [Given.ofVariables, Option.map_map]
    rfl
  case encoding =>
    obtain ⟨hFound, hAccepted⟩ := find?_of_accepted (fun _ => rfl) plain_valued hShows hEncoding
    rw [hFound, lastAt_valued_of_accepted .string id (by simp) (fun raw => scalar_of_text?)
      hAccepted, Option.map_id]
    rfl
  case report => exact written_ofVariables hShows h

end Variables

section Resolve

variable {files environment : List (Text × Text)} {strict : Bool} {tables : List Toml.Table}
  {settings : Settings}

/-- The settings that are read from all layers together. -/
def ofMerged (merged : Toml.Table) : Except Error Settings :=
  match Layer.ofTable? .merged merged with
  | none => .error (.invalidValue "<merged>".toList)
  | some layer => .ok layer.complete

/-- Merged settings are accepted if they have the right types. What is missing gets its default. -/
theorem ofMerged_eq_ok_iff : ofMerged fields = .ok settings ↔
    ∃ layer, Layer.ofTable? .merged fields = some layer ∧ layer.complete = settings := by
  rw [ofMerged]
  cases Layer.ofTable? .merged fields <;> simp

/-- Once all files are read, their tables and that of the environment settle everything. -/
theorem resolve_of_tables
    (h : files.mapM (fun file => readFile strict file.1 file.2) = .ok tables) :
    resolve ⟨files, environment, strict⟩ =
      ofMerged ((tables.foldl Toml.Table.overlay []).overlay (ofEnvironment environment)) := by
  have hStages : resolve ⟨files, environment, strict⟩ = (do
      let tables ← files.mapM fun file => readFile strict file.1 file.2
      ofMerged ((tables ++ [ofEnvironment environment]).foldl Toml.Table.overlay [])) := rfl
  rw [hStages, h]
  exact congrArg ofMerged (List.foldl_concat _ _ _ _)

/-- Settings come of the files' tables, laid over each other, with the variables on top. -/
theorem exists_tables_of_resolve (h : resolve ⟨files, environment, strict⟩ = .ok settings) :
    ∃ tables layer,
      files.mapM (fun file => readFile strict file.1 file.2) = .ok tables ∧
      Layer.ofTable? .merged ((tables.foldl Toml.Table.overlay []).overlay
        (ofEnvironment environment)) = some layer ∧ layer.complete = settings := by
  obtain ⟨tables, hTables, -⟩ := bind_eq_ok_iff.mp h
  rw [resolve_of_tables hTables] at h
  obtain ⟨layer, hLayer, hSettings⟩ := ofMerged_eq_ok_iff.mp h
  exact ⟨tables, layer, hTables, hLayer, hSettings⟩

end Resolve

end Rubric.Settings
