import Rubric.Decimal.Shortest
import Rubric.Text.Fields

/-! JSON values. -/
namespace Rubric

/-- A number: an integer, or a floating-point number where the text has a point, an exponent, or an
integer that is out of range. -/
inductive JsonNumber where
  | int (n : Int)
  | float (x : Decimal.Binary)
deriving DecidableEq, Repr

/-- A JSON value. The fields of an object keep the order of writing, repeated ones included. -/
inductive Json where
  | null
  | bool (b : Bool)
  | number (n : JsonNumber)
  | string (t : Text)
  | array (items : List Json)
  | object (fields : List (Text × Json))
deriving Repr

def JsonNumber.text : JsonNumber → Text
  | int n => Text.ofInt n
  | float x => x.text

namespace Json

mutual

/-- The value with the fields of every object in ascending order. Of repeated fields the last one
stays. -/
def sorted : Json → Json
  | array items => array (sortedItems items)
  | object fields => object (sortedFields [] fields)
  | value => value

def sortedItems : List Json → List Json
  | [] => []
  | item :: rest => sorted item :: sortedItems rest

/-- Puts fields one by one into those sorted before. -/
def sortedFields (done : List (Text × Json)) : List (Text × Json) → List (Text × Json)
  | [] => done
  | (name, value) :: rest => sortedFields (Fields.put name (sorted value) done) rest

end

end Json

end Rubric
