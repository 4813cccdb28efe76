import Rubric.Error
import Rubric.Settings.Basic
import Rubric.Toml.Mark

/-! Keys of settings files that are none of the settings, and the lines they stand in. -/
namespace Rubric.Settings

def names : List Text :=
  ["rules", "encoding", "report"].map String.toList

def reportNames : List Text :=
  ["stderr", "log_file", "pretty"].map String.toList

/-- The outermost keys that are no settings, in the order of the table. Those of the report have its
name and a point before them, and a moment in its place has its mark for a key. -/
def unknownNames (fields : Toml.Table) : List Text :=
  fields.flatMap fun (name, v) =>
    if name = "report".toList then
      match v with
      | .table inner =>
        (inner.filter fun field => !reportNames.contains field.1).map fun field =>
          "report.".toList ++ field.1
      | .moment _ => ["report.".toList ++ Toml.momentMark]
      | _ => []
    else if names.contains name then []
    else [name]

/-- Splits at the last point. What stands before it is empty if there is none. -/
def splitLastPoint (t : Text) : Text × Text :=
  let leaf := (t.reverse.takeWhile (· ≠ '.')).reverse
  (t.take (t.length - leaf.length - 1), leaf)

/-- The number of the first line that assigns to `leaf` under the header of `table`, counted from
`line`. Lines are taken for headers and assignments by their looks alone. -/
def findLine (table leaf current : Text) (line : Nat) : List Text → Nat
  | [] => 0
  | text :: rest =>
    let trimmed := Text.trim text
    match Text.stripBrackets trimmed with
    | some header => findLine table leaf (Text.trim header) (line + 1) rest
    | none =>
      if current = table && (Text.splitFirst '=' trimmed).any fun (key, _) => Text.trim key = leaf
      then line
      else findLine table leaf current (line + 1) rest

/-- The number of the line of a file that assigns to a dotted key, or zero if none seems to. -/
def keyLine (content dotted : Text) : Nat :=
  let (table, leaf) := splitLastPoint dotted
  findLine table leaf [] 1 (Text.splitAll '\n' content)

def unknownKeys (path content : Text) (fields : Toml.Table) : List UnknownKey :=
  (unknownNames fields).map fun name => ⟨name, path, keyLine content name⟩

end Rubric.Settings
