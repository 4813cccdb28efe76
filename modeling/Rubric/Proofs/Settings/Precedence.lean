import Rubric.Proofs.Settings.Loading
import Rubric.Proofs.Settings.Sources

/-! Which layer decides on a setting. The layers are merged one over the other from the lowest on,
and their merge gives each setting as the topmost layer has it that gives it. The report is the only
exception: a table of it covers an array below it, and with that all that lies below the array. -/
namespace Rubric.Settings

namespace Given

/-- The layers whose report counts, from the topmost layer on. Layers without one are passed over.
An array is the last to count, and under a table it does not count either. -/
def reporting (covered : Bool) : List Given → List Layer
  | [] => []
  | given :: rest =>
    match given.form with
    | none => reporting covered rest
    | some .named => given.layer :: reporting true rest
    | some .listed => if covered then [] else [given.layer]

/-- The settings of layers with the topmost first, each from the first layer that gives it. -/
def topmost (layers : List Given) : Layer where
  rules := layers.findSome? (·.layer.rules)
  encoding := layers.findSome? (·.layer.encoding)
  stderr := layers.findSome? (·.layer.stderr)
  logFile := layers.findSome? (·.layer.logFile)
  pretty := layers.findSome? (·.layer.pretty)

/-- The settings of layers with the topmost first, those of the report from the layers whose report
counts. -/
def settled (layers : List Given) : Layer :=
  let reports := reporting false layers
  { topmost layers with
    stderr := reports.findSome? (·.stderr)
    logFile := reports.findSome? (·.logFile)
    pretty := reports.findSome? (·.pretty) }

/-- No layer has a table for the report over one with an array. -/
def Uncovered (layers : List Given) : Prop :=
  layers.Pairwise fun upper lower => upper.form = some .named → lower.form ≠ some .listed

instance (layers : List Given) : Decidable (Uncovered layers) :=
  inferInstanceAs (Decidable (List.Pairwise _ _))

section Merge

variable {α : Type} {layers : List Given} {upper lower given : Given} {field : Layer → Option α}

/-- A setting of the report. An array of the report always gives it. Where two layers meet, their
forms tell whose it is. -/
structure Reports (field : Layer → Option α) : Prop where
  empty : field Layer.empty = none
  absent : ∀ {layer value?}, layer.Written none value? → field layer = none
  listed : ∀ {layer value?}, layer.Written (some .listed) value? → (field layer).isSome
  join : ∀ upper lower : Given, field (upper.laidOver lower).layer =
    match upper.form, lower.form with
    | none, _ => field lower.layer
    | some .named, some .named => (field upper.layer).or (field lower.layer)
    | some _, _ => field upper.layer

theorem reports_stderr : Reports (·.stderr) where
  empty := rfl
  absent h := by cases h with | absent hStderr => exact hStderr
  listed h := by cases h with | listed hStderr => exact Option.isSome_of_eq_some hStderr
  join := by rintro ⟨upper, _ | _ | _⟩ ⟨lower, _ | _ | _⟩ <;> rfl

theorem reports_logFile : Reports (·.logFile) where
  empty := rfl
  absent h := by cases h with | absent _ hLogFile => exact hLogFile
  listed h := by cases h with | listed _ hLogFile => exact Option.isSome_of_eq_some hLogFile
  join := by rintro ⟨upper, _ | _ | _⟩ ⟨lower, _ | _ | _⟩ <;> rfl

theorem reports_pretty : Reports (·.pretty) where
  empty := rfl
  absent h := by cases h with | absent _ _ hPretty => exact hPretty
  listed h := by cases h with | listed _ _ hPretty => exact Option.isSome_of_eq_some hPretty
  join := by rintro ⟨upper, _ | _ | _⟩ ⟨lower, _ | _ | _⟩ <;> rfl

theorem findSome?_cons_eq_or {β : Type} {f : β → Option α} {b : β} {rest : List β} :
    (b :: rest).findSome? f = (f b).or (rest.findSome? f) := by
  rw [List.findSome?_cons]
  cases f b <;> rfl

def merge (layers : List Given) : Given :=
  layers.foldr laidOver nothing

theorem merge_cons : merge (given :: layers) = given.laidOver (merge layers) :=
  rfl

/-- The topmost layer with a report decides the form of it. -/
theorem form_merge : (merge layers).form = layers.findSome? (·.form) := by
  induction layers with
  | nil => rfl
  | cons given layers ih =>
      rw [merge_cons, findSome?_cons_eq_or, ← ih]
      obtain ⟨upper, _ | _ | _⟩ := given <;> obtain ⟨lower, _ | _ | _⟩ := merge layers <;> rfl

theorem rules_merge : (merge layers).layer.rules = layers.findSome? (·.layer.rules) := by
  induction layers with
  | nil => rfl
  | cons given layers ih => rw [merge_cons, rules_laidOver, findSome?_cons_eq_or, ih]

theorem encoding_merge : (merge layers).layer.encoding = layers.findSome? (·.layer.encoding) := by
  induction layers with
  | nil => rfl
  | cons given layers ih => rw [merge_cons, encoding_laidOver, findSome?_cons_eq_or, ih]

namespace Reports

/-- If no layer has a report then no setting of it is there. -/
theorem eq_none_of_form (h : Reports field) (hForm : (merge layers).form = none) :
    field (merge layers).layer = none := by
  induction layers with
  | nil => exact h.empty
  | cons given layers ih =>
      rw [form_merge, findSome?_cons_eq_or, ← form_merge, Option.or_eq_none_iff] at hForm
      rw [merge_cons, h.join, hForm.1]
      exact ih hForm.2

/-- The merge has a setting of the report as the layers that count for it have it. Under a table the
array that the merge may come down to is not seen. -/
theorem findSome?_reporting (h : Reports field) :
    (reporting false layers).findSome? field = field (merge layers).layer ∧
      (reporting true layers).findSome? field =
        match (merge layers).form with
        | some .listed => none
        | _ => field (merge layers).layer := by
  induction layers with
  | nil => simp [reporting, merge, nothing, h.empty]
  | cons upper layers ih =>
      obtain ⟨ihSeen, ihCovered⟩ := ih
      have hForm : (merge (upper :: layers)).form = upper.form.or (merge layers).form := by
        rw [form_merge, findSome?_cons_eq_or, form_merge]
      rw [hForm, merge_cons, h.join]
      cases hUpper : upper.form with
      | none => simp only [reporting, hUpper, ihSeen, ihCovered, Option.none_or, and_self]
      | some form =>
          cases form with
          | listed => simp [reporting, hUpper]
          | named =>
              simp only [reporting, hUpper, findSome?_cons_eq_or, ihCovered, Option.some_or,
                and_self]
              cases hBelow : (merge layers).form with
              | none => simp [h.eq_none_of_form hBelow]
              | some form => cases form <;> simp

/-- Where no table covers an array, the topmost layer that gives a setting of the report decides. -/
theorem findSome?_layers (h : Reports field)
    (hWritten : ∀ given ∈ layers, ∃ value?, given.layer.Written given.form value?)
    (hUncovered : Uncovered layers) :
    layers.findSome? (field ·.layer) = field (merge layers).layer := by
  induction layers with
  | nil => exact h.empty.symm
  | cons upper layers ih =>
      obtain ⟨⟨value?, hUpper⟩, hWritten⟩ := List.forall_mem_cons.mp hWritten
      obtain ⟨hTop, hUncovered⟩ := List.pairwise_cons.mp hUncovered
      rw [findSome?_cons_eq_or, ih hWritten hUncovered, merge_cons, h.join]
      cases hForm : upper.form with
      | none => rw [h.absent (hForm ▸ hUpper), Option.none_or]
      | some form =>
          cases form with
          | listed =>
              obtain ⟨a, hGiven⟩ := Option.isSome_iff_exists.mp (h.listed (hForm ▸ hUpper))
              simp [hGiven]
          | named =>
              cases hBelow : (merge layers).form with
              | none => simp [h.eq_none_of_form hBelow]
              | some form =>
                  cases form with
                  | named => rfl
                  | listed =>
                      rw [form_merge] at hBelow
                      obtain ⟨lower, hLower, hListed⟩ := List.exists_of_findSome?_eq_some hBelow
                      exact absurd hListed (hTop lower hLower hForm)

end Reports

/-- The merged layer is the one that the rule of precedence settles on. -/
theorem layer_merge_eq_settled : (merge layers).layer = settled layers := by
  rw [settled, reports_stderr.findSome?_reporting.1, reports_logFile.findSome?_reporting.1,
    reports_pretty.findSome?_reporting.1, topmost, ← rules_merge, ← encoding_merge]

/-- If no report is covered by one of another form then each setting is that of the topmost layer
which has it. -/
theorem layer_merge_eq_topmost
    (hWritten : ∀ given ∈ layers, ∃ value?, given.layer.Written given.form value?)
    (hUncovered : Uncovered layers) : (merge layers).layer = topmost layers := by
  rw [topmost, reports_stderr.findSome?_layers hWritten hUncovered,
    reports_logFile.findSome?_layers hWritten hUncovered,
    reports_pretty.findSome?_layers hWritten hUncovered, ← rules_merge, ← encoding_merge]

end Merge

end Given

section Resolve

variable {files environment : List (Text × Text)} {settings : Settings}

/-- Laying tables over each other keeps them fitting the layers that are merged beside them. -/
theorem fits_foldl {layers : List Given} {tables : List Toml.Table} {start : Given} {t : Toml.Table}
    (h : List.Forall₂ (fun given u => given.Fits u ∧ Fields.Distinct u) layers tables)
    (hStart : start.Fits t) :
    (layers.foldl (fun lower upper => upper.laidOver lower) start).Fits
      (tables.foldl Toml.Table.overlay t) := by
  induction h generalizing start t with
  | nil => exact hStart
  | cons h _ ih => exact ih (hStart.overlay h.1 h.2)

/-- Files that pass give tables that together say what each of them gives alone. -/
theorem exists_given_of_readFiles {tables : List Toml.Table}
    (h : List.Forall₂ (fun file t => readFile true file.1 file.2 = .ok t) files tables) :
    ∃ given : List Given, files.map (Given.ofFile? ·.2) = given.map some ∧
      (∀ file ∈ given, ∃ t, file.Fits t) ∧
      List.Forall₂ (fun file t => file.Fits t ∧ Fields.Distinct t) given tables := by
  induction h with
  | nil => exact ⟨[], rfl, by simp, .nil⟩
  | cons hRead _ ih =>
      obtain ⟨others, hOthers, hEach, hFits⟩ := ih
      obtain ⟨file, hFile, hFileFits, hNames⟩ := fits_of_readFile hRead
      refine ⟨file :: others, ?_, List.forall_mem_cons.mpr ⟨⟨_, hFileFits⟩, hEach⟩,
        .cons ⟨hFileFits, hNames.distinct⟩ hFits⟩
      rw [List.map_cons, List.map_cons, hFile, hOthers]

/-- A file that passes the strict reading reads the same without it. -/
theorem readFile_lenient {path content : Text} {t : Toml.Table}
    (h : readFile true path content = .ok t) : readFile false path content = .ok t := by
  rw [readFile] at h ⊢
  split at h
  next => cases h
  next =>
    obtain ⟨⟨⟩, -, h⟩ := bind_eq_ok_iff.mp h
    exact h

/-- Every setting is that of the topmost layer which gives it, and otherwise its default. The
environment is the topmost layer, and a later file lies over an earlier one. Where a table of the
report lies over an array, the settings of the report are those of the layers whose report counts.
What is settled strictly is settled the same way without. The files are the standard ones that are
there and the given one. -/
theorem resolve_precedence {files environment : List (Text × Text)} {settings : Settings}
    (h : resolve ⟨files, environment, true⟩ = .ok settings) :
    (∃ given : List Given, files.map (Given.ofFile? ·.2) = given.map some ∧
      let layers := Given.ofVariables environment :: given.reverse
      settings = (Given.settled layers).complete ∧
        (Given.Uncovered layers → settings = (Given.topmost layers).complete)) ∧
      resolve ⟨files, environment, false⟩ = .ok settings ∧
      ∀ (tree : FileTree) (device : Device) (surroundings : Surroundings) (explicit : Option Text),
        tree.run device (load · surroundings explicit) =
          (do
            let found ← tree.settingsFiles surroundings explicit
            resolve ⟨found, surroundings.environment, true⟩, tree) := by
  obtain ⟨tables, layer, hTables, hLayer, rfl⟩ := exists_tables_of_resolve h
  have hRead := mapM_eq_ok_iff.mp hTables
  refine ⟨?_, ?_, fun tree device surroundings explicit => tree.run_load surroundings explicit⟩
  · obtain ⟨given, hGiven, hEach, hFits⟩ := exists_given_of_readFiles hRead
    have hBelow := fits_foldl hFits Given.fits_nothing
    have hVariables := fits_ofVariables hLayer
    have hAll := hBelow.overlay hVariables ascending_ofEnvironment.distinct
    rw [← List.foldr_reverse] at hAll
    have hSame : layer = (Given.merge (Given.ofVariables environment :: given.reverse)).layer :=
      hAll.eq_layer hLayer
    refine ⟨given, hGiven, ?_, fun hUncovered => ?_⟩
    · rw [hSame, Given.layer_merge_eq_settled]
    · rw [hSame, Given.layer_merge_eq_topmost ?_ hUncovered]
      refine List.forall_mem_cons.mpr ⟨⟨_, hVariables.report⟩, fun file hFile => ?_⟩
      obtain ⟨t, hFileFits⟩ := hEach file (List.mem_reverse.mp hFile)
      exact ⟨_, hFileFits.report⟩
  · have hLenient := mapM_eq_ok_iff.mpr (hRead.imp fun _ _ => readFile_lenient)
    rw [resolve_of_tables hLenient]
    exact ofMerged_eq_ok_iff.mpr ⟨layer, hLayer, rfl⟩

/-- A file with a table for the report over one with an encoding and another such table. -/
def tables : List (Text × Text) :=
  [("a.toml".toList, "encoding = \"latin1\"\n[report]\nlog_file = \"x.json\"\n".toList),
    ("b.toml".toList, "[report]\nstderr = false\nlog_file = \"y.json\"\n".toList)]

def compactly : List (Text × Text) :=
  [("RULEDIT__REPORT__PRETTY".toList, "False".toList)]

def settledTables : Settings :=
  ⟨[], "latin1".toList, ⟨false, some "y.json".toList, false⟩⟩

/-- Files and variables whose reports are all tables. -/
theorem resolve_precedence_tables :
    resolve ⟨tables, compactly, true⟩ = .ok settledTables ∧
      (∃ given : List Given, tables.map (Given.ofFile? ·.2) = given.map some ∧
        Given.Uncovered (Given.ofVariables compactly :: given.reverse) ∧
        settledTables = (Given.topmost (Given.ofVariables compactly :: given.reverse)).complete) ∧
      resolve ⟨tables, compactly, false⟩ = .ok settledTables := by
  have hResolve : resolve ⟨tables, compactly, true⟩ = .ok settledTables := by decide +kernel
  obtain ⟨⟨given, hGiven, hSettled⟩, hLenient, -⟩ := resolve_precedence hResolve
  have hUncovered : Given.Uncovered (Given.ofVariables compactly :: given.reverse) := by
    have hFiles : tables.map (Given.ofFile? ·.2) =
        [⟨⟨none, some "latin1".toList, none, some "x.json".toList, none⟩, some .named⟩,
          ⟨⟨none, none, some false, some "y.json".toList, none⟩, some .named⟩].map some := by
      decide +kernel
    obtain rfl := (List.map_inj_right fun _ _ => Option.some.inj).mp (hGiven.symm.trans hFiles)
    decide +kernel
  exact ⟨hResolve, ⟨given, hGiven, hUncovered, hSettled.2 hUncovered⟩, hLenient⟩

/-- A table of the report over an array takes away what only the array gives. -/
theorem resolve_table_over_array :
    let below := "report = [false, \"x.json\", false]\n".toList
    let above := "[report]\npretty = true\n".toList
    let lower : Given := ⟨⟨none, none, some false, some "x.json".toList, some false⟩, some .listed⟩
    let upper : Given := ⟨⟨none, none, none, none, some true⟩, some .named⟩
    Given.ofFile? below = some lower ∧ Given.ofFile? above = some upper ∧
      resolve ⟨[("a.toml".toList, below), ("b.toml".toList, above)], [], true⟩ =
        .ok ⟨[], "utf-8".toList, ⟨true, none, true⟩⟩ ∧
      (Given.topmost [Given.ofVariables [], upper, lower]).complete =
        ⟨[], "utf-8".toList, ⟨false, some "x.json".toList, true⟩⟩ := by
  decide +kernel

end Resolve

end Rubric.Settings
