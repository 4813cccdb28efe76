import Rubric.Text.Fields

/-! TOML values, and laying one table over another. -/
namespace Rubric.Toml

/-- A TOML value. Numbers with a fraction and moments keep the text that they are shown as. -/
inductive Value where
  | string (t : Text)
  | integer (n : Int)
  | float (t : Text)
  | boolean (b : Bool)
  | moment (t : Text)
  | array (items : List Value)
  | table (fields : List (Text × Value))
deriving Repr

abbrev Table := Fields Value

namespace Value

mutual

/-- The value with the fields of every table in ascending order. -/
def sorted : Value → Value
  | array items => array (sortedItems items)
  | table fields => table (sortedFields [] fields)
  | value => value

def sortedItems : List Value → List Value
  | [] => []
  | item :: rest => sorted item :: sortedItems rest

def sortedFields (done : List (Text × Value)) : List (Text × Value) → List (Text × Value)
  | [] => done
  | (name, value) :: rest => sortedFields (Fields.put name (sorted value) done) rest

end

mutual

/-- What stands where an upper value is laid over a lower one. A table over a table leaves one
table; otherwise the upper value stays. -/
def overlaid : Option Value → Value → Value
  | some (table lower), table upper => table (overlaidFields lower upper)
  | _, upper => upper

def overlaidFields (lower : List (Text × Value)) : List (Text × Value) → List (Text × Value)
  | [] => lower
  | (name, value) :: rest =>
    overlaidFields (Fields.put name (overlaid (Fields.find? name lower) value) lower) rest

end

end Value

namespace Table

/-- The table with its fields, and those of every table in it, in ascending order. -/
def sorted (t : Table) : Table :=
  Value.sortedFields [] t

/-- Lays an upper table over a lower one. Where both have a table the two are laid over each other,
and elsewhere the upper value stays. -/
def overlay (lower upper : Table) : Table :=
  Value.overlaidFields lower upper

/-- The value at the end of a path. The empty path leads to the table itself. -/
def at? (t : Table) : List Text → Option Value
  | [] => some (.table t)
  | [name] => t.find? name
  | name :: rest =>
    match t.find? name with
    | some (.table fields) => at? fields rest
    | _ => none

end Table

end Rubric.Toml
