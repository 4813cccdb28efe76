import Rubric.Json.Printer

/-! Records of what rules have written. -/
namespace Rubric

/-- One rule wrote one key in one section. There is no previous value when the key was new. -/
structure Modification where
  sectionName : Text
  ruleName : Text
  key : Text
  previous : Option Text
  value : Text
deriving DecidableEq, Repr

namespace Modification

/-- One line about a modification, without its end. -/
def describe (m : Modification) : Text :=
  '[' :: m.sectionName ++ "] ".toList ++ m.ruleName ++ ": ".toList ++ m.key ++ ' ' ::
    m.previous.getD "<none>".toList ++ " -> ".toList ++ m.value

def toJson (m : Modification) : Json :=
  .object [("section".toList, .string m.sectionName), ("rule".toList, .string m.ruleName),
    ("key".toList, .string m.key),
    ("previous_value".toList, (m.previous.map Json.string).getD .null),
    ("new_value".toList, .string m.value)]

/-- A list of modifications as JSON text, indented or not. -/
def logText (indent : Bool) (log : List Modification) : Text :=
  Json.print indent (.array (log.map toJson))

end Modification

end Rubric
