import Rubric.Settings.Basic
import Rubric.Text.Digit
import Rubric.Unicode.Class

/-! Settings from environment variables. Two underscores part the names of nested tables. -/
namespace Rubric.Settings

/-- What the names of variables with settings start with. -/
def marker : Text :=
  "RULEDIT__".toList

/-- Splits at pairs of underscores, from the left. -/
def splitPairs : Text → List Text
  | [] => [[]]
  | '_' :: '_' :: rest => [] :: splitPairs rest
  | c :: rest =>
    match splitPairs rest with
    | [] => [[c]]
    | piece :: pieces => (c :: piece) :: pieces

/-- The path of the setting that a variable gives, in lower case, if it gives one. -/
def keyPath? (name : Text) : Option (List Text) :=
  if marker.isPrefixOf name then
    let path := (splitPairs (name.drop marker.length)).map Unicode.lower
    if path.any List.isEmpty then none else some path
  else none

/-- The characters of a text with the capitals among the first 128 made small. -/
def lowerAscii (t : Text) : Text :=
  t.map Char.toLower

/-- A truth value or an integer if the text is one, and otherwise the text. -/
def scalar (raw : Text) : Toml.Value :=
  if lowerAscii raw = "true".toList then .boolean true
  else if lowerAscii raw = "false".toList then .boolean false
  else
    match Text.readInt? raw with
    | some n => .integer n
    | none => .string raw

/-- The items of a list with commas between them. Empty ones are left out. -/
def listItems (raw : Text) : List Text :=
  ((Text.splitAll ',' raw).map Text.trim).filter (!·.isEmpty)

/-- The value of a variable. The list of rule files has commas between its items. -/
def variableValue (path : List Text) (raw : Text) : Toml.Value :=
  if path = ["rules".toList] then .array ((listItems raw).map .string) else scalar raw

/-- Puts a value at the end of a path, and makes the tables that are missing on the way. What stands
on the way and is no table stays, and the value is dropped. -/
def putAt (fields : Toml.Table) (v : Toml.Value) : List Text → Toml.Table
  | [] => fields
  | [name] => fields.put name v
  | name :: path =>
    match fields.find? name with
    | none => fields.put name (.table (putAt [] v path))
    | some (.table inner) => fields.put name (.table (putAt inner v path))
    | some _ => fields

def ofEnvironment (environment : List (Text × Text)) : Toml.Table :=
  environment.foldl (fun fields (name, raw) =>
    match keyPath? name with
    | none => fields
    | some path => putAt fields (variableValue path raw) path) []

end Rubric.Settings
