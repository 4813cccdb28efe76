import Rubric.Settings.Environment
import Rubric.Settings.Unknown
import Rubric.Toml.Reader

/-! Settling the settings from all layers: later files over earlier ones, and the environment over
all files. -/
namespace Rubric.Settings

/-- Where settings come from: files with their paths, the least first, and environment variables. In
strict mode a file may have no unknown keys. -/
structure Sources where
  files : List (Text × Text)
  environment : List (Text × Text)
  strict : Bool

/-- Refuses a file with a setting of the wrong kind or with unknown keys. -/
def check (path content : Text) (fields : Toml.Table) : Except Error Unit :=
  if (Layer.ofTable? .file fields).isNone then .error (.malformedSettings path)
  else
    match unknownKeys path content fields with
    | [] => .ok ()
    | unknown => .error (.unknownKeys unknown)

def readFile (strict : Bool) (path content : Text) : Except Error Toml.Table :=
  match Toml.read? content with
  | none => .error (.malformedSettings path)
  | some fields => do
    if strict then
      check path content fields
    match Toml.Table.unmark? fields with
    | none => .error (.malformedSettings path)
    | some fields => return Toml.Table.sorted fields

/-- The settings that all sources together give. -/
def resolve (sources : Sources) : Except Error Settings := do
  let tables ← sources.files.mapM fun (path, content) => readFile sources.strict path content
  let merged := (tables ++ [ofEnvironment sources.environment]).foldl Toml.Table.overlay []
  match Layer.ofTable? .merged merged with
  | none => .error (.invalidValue "<merged>".toList)
  | some layer => .ok layer.complete

end Rubric.Settings
