import Rubric.Toml.Basic

/-! Settings, and the tables that give them. A table need not give every setting. -/
namespace Rubric

/-- How modifications are reported. -/
structure ReportSettings where
  stderr : Bool
  logFile : Option Text
  pretty : Bool
deriving DecidableEq, Repr

/-- What a run does where its command line says nothing. -/
structure Settings where
  rules : List Text
  encoding : Text
  report : ReportSettings
deriving DecidableEq, Repr

namespace Settings

def defaultEncoding : Text :=
  "utf-8".toList

def default : Settings where
  rules := []
  encoding := defaultEncoding
  report := ⟨true, none, true⟩

/-- A table is taken as one file has it, or as all layers together have it. -/
inductive Stage where
  | file
  | merged
deriving DecidableEq, Repr

/-- The settings that a table gives. -/
structure Layer where
  rules : Option (List Text)
  encoding : Option Text
  stderr : Option Bool
  logFile : Option Text
  pretty : Option Bool
deriving DecidableEq, Repr

/-- A text. In all layers together a moment counts as the text it is shown as. -/
def text? (stage : Stage) : Toml.Value → Option Text
  | .string t => some t
  | .moment t => if stage = .merged then some t else none
  | _ => none

def flag? : Toml.Value → Option Bool
  | .boolean b => some b
  | _ => none

def texts? (stage : Stage) : Toml.Value → Option (List Text)
  | .array items => items.mapM (text? stage)
  | _ => none

/-- Takes a field that may be missing, but may not be of another kind. -/
def optional {α : Type} (take : Toml.Value → Option α) (fields : Toml.Table) (name : String) :
    Option (Option α) :=
  match fields.find? name.toList with
  | none => some none
  | some v => (take v).map some

namespace Layer

def empty : Layer := ⟨none, none, none, none, none⟩

/-- Takes the settings of the report. They stand in a table, or in an array in a fixed order; in all
layers together the array has no more items. In one file a moment counts as a table without any
of them. -/
def withReport (stage : Stage) (layer : Layer) : Option Toml.Value → Option Layer
  | none => some layer
  | some (.table fields) => do
    let stderr ← optional flag? fields "stderr"
    let logFile ← optional (text? stage) fields "log_file"
    let pretty ← optional flag? fields "pretty"
    some { layer with stderr := stderr, logFile := logFile, pretty := pretty }
  | some (.array (stderr :: logFile :: pretty :: more)) => do
    let stderr ← flag? stderr
    let logFile ← text? stage logFile
    let pretty ← flag? pretty
    if stage = .merged && !more.isEmpty then none
    else some { layer with stderr := stderr, logFile := logFile, pretty := pretty }
  | some (.moment _) => if stage = .merged then none else some layer
  | some _ => none

/-- The settings that a table gives, unless one of them is of the wrong kind. -/
def ofTable? (stage : Stage) (fields : Toml.Table) : Option Layer := do
  let rules ← optional (texts? stage) fields "rules"
  let encoding ← optional (text? stage) fields "encoding"
  withReport stage { empty with rules := rules, encoding := encoding }
    (fields.find? "report".toList)

/-- Fills in the defaults for what a layer does not give. -/
def complete (layer : Layer) : Settings where
  rules := layer.rules.getD default.rules
  encoding := layer.encoding.getD default.encoding
  report :=
    { stderr := layer.stderr.getD default.report.stderr
      logFile := layer.logFile.orElse fun _ => default.report.logFile
      pretty := layer.pretty.getD default.report.pretty }

end Layer

end Settings

end Rubric
