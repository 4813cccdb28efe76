import Rubric.Document.Basic

/-! Rules: a section pattern, conditions on the values in the section, and one key to
write. Rules of higher priority come first; rules of one priority keep the order in
which they were declared. -/
namespace Rubric

/-- How a condition compares a value with its operand. -/
inductive MatchType where
  | contains
  | equals
  | startsWith
  | endsWith
deriving DecidableEq, Repr

namespace MatchType

def name : MatchType → Text
  | contains => "contains".toList
  | equals => "equals".toList
  | startsWith => "startswith".toList
  | endsWith => "endswith".toList

def ofName? (name : Text) : Option MatchType :=
  [contains, equals, startsWith, endsWith].find? (·.name == name)

/-- The match type a name stands for. Every other name stands for `contains`. -/
def ofName (name : Text) : MatchType :=
  (ofName? name).getD contains

def holds (kind : MatchType) (candidate operand : Text) : Bool :=
  match kind with
  | contains => operand.occursIn candidate
  | equals => candidate == operand
  | startsWith => operand.isPrefixOf candidate
  | endsWith => operand.isSuffixOf candidate

end MatchType

/-- A test on the values of one key. -/
structure Condition where
  key : Text
  operand : Text
  kind : MatchType
deriving DecidableEq, Repr

namespace Condition

def holdsIn (condition : Condition) (s : Section) : Bool :=
  (s.find condition.key).any fun line =>
    condition.kind.holds (line.value.getD []) condition.operand

end Condition

/-- A rule writes `value` under `key` in each section whose name its pattern finds and in which
all its conditions hold. Names need not be unique. -/
structure Rule where
  name : Text
  pattern : Text
  key : Text
  value : Text
  priority : Int
  conditions : List Condition
deriving DecidableEq, Repr

namespace Rule

/-- The rules in the order in which they run: by descending priority, and in the order of
declaration where priorities are equal. -/
def ranked (rules : List Rule) : List Rule :=
  rules.mergeSort fun a b => decide (b.priority ≤ a.priority)

/-- One line of a listing. The priority is set flush right in five columns. -/
def listingLine (rule : Rule) : Text :=
  let digits := Text.ofInt rule.priority
  let bar := " | ".toList
  List.replicate (5 - digits.length) ' ' ++ digits ++ bar ++ rule.name ++ bar ++ rule.pattern ++
    " -> ".toList ++ rule.value ++ ['\n']

def listing (rules : List Rule) : Text :=
  rules.flatMap listingLine

end Rule

end Rubric
