import Rubric.Text.Basic

/-! Values under names. Fields are kept in a list, either in the order of writing or in ascending
order of their names; in ascending fields no name occurs twice. -/
namespace Rubric

/-- Whether one text comes before another, by the code points of their characters. -/
def Text.before : Text → Text → Bool
  | _, [] => false
  | [], _ :: _ => true
  | a :: as, b :: bs => if a = b then before as bs else a.toNat < b.toNat

/-- Values under names. -/
abbrev Fields (α : Type) := List (Text × α)

namespace Fields

variable {α : Type}

def find? (name : Text) : Fields α → Option α
  | [] => none
  | (other, value) :: rest => if name = other then some value else find? name rest

/-- Puts a value into ascending fields. It takes the place of a value of the same name. -/
def put (name : Text) (value : α) : Fields α → Fields α
  | [] => [(name, value)]
  | (other, old) :: rest =>
    if name = other then (name, value) :: rest
    else if Text.before name other then (name, value) :: (other, old) :: rest
    else (other, old) :: put name value rest

/-- Puts a value in the place of the first value of the same name, or behind all others. -/
def set (name : Text) (value : α) : Fields α → Fields α
  | [] => [(name, value)]
  | (other, old) :: rest =>
    if name = other then (name, value) :: rest else (other, old) :: set name value rest

def remove (name : Text) (fields : Fields α) : Fields α :=
  fields.filter fun field => field.1 ≠ name

end Fields

end Rubric
