import Rubric.Toml.Moment

/-! Moments that are written as tables. A table whose first name is a certain mark stands for the
moment that the text under the mark says. -/
namespace Rubric.Toml

def momentMark : Text :=
  "$__toml_private_datetime".toList

namespace Value

mutual

/-- The value with a moment in the place of every table that is marked as one. What stands under the
mark must be the text of a moment. -/
def unmark? : Value → Option Value
  | array items => (unmarkItems? items).map array
  | table ((name, v) :: rest) =>
    if name = momentMark then
      match v with
      | string t => (shownMoment? t).map moment
      | _ => none
    else (unmarkFields? ((name, v) :: rest)).map table
  | value => some value

def unmarkItems? : List Value → Option (List Value)
  | [] => some []
  | item :: rest => do return (← unmark? item) :: (← unmarkItems? rest)

def unmarkFields? : List (Text × Value) → Option (List (Text × Value))
  | [] => some []
  | (name, v) :: rest => do return (name, ← unmark? v) :: (← unmarkFields? rest)

end

end Value

/-- The table with a moment in the place of every table in it that is marked as one. The table
itself is none, whatever its names. -/
def Table.unmark? (t : Table) : Option Table :=
  Value.unmarkFields? t

end Rubric.Toml
