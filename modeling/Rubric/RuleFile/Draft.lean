import Rubric.Event
import Rubric.Json.Printer
import Rubric.Rule.Basic
import Rubric.Text.Digit
import Rubric.Text.Quoted

/-! Rules as rule files write them. A rule or a condition is an object, or an array of its
fields in a fixed order. Its fields are taken one at a time, and the first that does not
fit decides the complaint. -/
namespace Rubric.RuleFile

/-- How a complaint names a value that does not fit. -/
def describe : Json → Text
  | .null => "null".toList
  | .bool b => "boolean `".toList ++ (if b then "true" else "false").toList ++ ['\x60']
  | .number (.int n) => "integer `".toList ++ Text.ofInt n ++ ['\x60']
  | .number (.float x) => "floating point `".toList ++ x.text ++ ['\x60']
  | .string t => "string ".toList ++ Text.quoted t
  | .array _ => "sequence".toList
  | .object _ => "map".toList

def misfit (value : Json) (expected : String) : Text :=
  "invalid type: ".toList ++ describe value ++ ", expected ".toList ++ expected.toList

def badLength (n : Nat) (expected : String) : Text :=
  "invalid length ".toList ++ Text.ofNat n ++ ", expected ".toList ++ expected.toList

def string : Json → Except Text Text
  | .string t => .ok t
  | value => .error (misfit value "a string")

def string? : Json → Except Text (Option Text)
  | .null => .ok none
  | value => (string value).map some

/-- The text of a string, a number or a truth value. -/
def scalar : Json → Except Text Text
  | .string t => .ok t
  | .number n => .ok n.text
  | .bool b => .ok (if b then "true" else "false").toList
  | value => .error ("expected a string, number or boolean, got ".toList ++ value.compact)

/-- The text of a scalar that may be missing. -/
def scalarOrEmpty : Json → Except Text Text
  | .null => .ok []
  | value => scalar value

/-- A priority is an integer, or a string that holds one and blanks around it. -/
def priority : Json → Except Text Int
  | .string t =>
    match Text.readInt? (Text.trim t) with
    | some n => .ok n
    | none => .error ("priority '".toList ++ t ++ "' is not an integer".toList)
  | .number (.int n) => if Text.inRange n then .ok n else .error noVariant
  | _ => .error noVariant
where
  /-- The complaint about what is neither an integer nor a string. -/
  noVariant : Text :=
    "data did not match any variant of untagged enum Priority".toList

/-- A condition as it is written. -/
structure ConditionDraft where
  key : Text
  operand : Text
  kind : Option Text
deriving DecidableEq, Repr

namespace ConditionDraft

def blank : ConditionDraft := ⟨[], [], none⟩

/-- Takes one field. Fields of other names are passed over. -/
def set (draft : ConditionDraft) (name : Text) (value : Json) : Except Text ConditionDraft :=
  match String.ofList name with
  | "key" => (string value).map fun t => { draft with key := t }
  | "value" => (scalarOrEmpty value).map fun t => { draft with operand := t }
  | "match_type" => (string? value).map fun t => { draft with kind := t }
  | _ => .ok draft

/-- The names of the fields in the order of an array. -/
def order : List Text :=
  ["key", "value", "match_type"].map String.toList

def read : Json → Except Text ConditionDraft
  | .object fields => fields.foldlM (fun draft field => draft.set field.1 field.2) blank
  | .array items => do
    let draft ← (order.zip items).foldlM (fun draft field => draft.set field.1 field.2) blank
    if order.length < items.length then
      throw (badLength items.length "fewer elements in array")
    return draft
  | value => .error (misfit value "struct RawCondition")

end ConditionDraft

def conditionDrafts : Json → Except Text (List ConditionDraft)
  | .array items => items.mapM ConditionDraft.read
  | value => .error (misfit value "a sequence")

/-- A rule as it is written. Three of its fields must be. -/
structure Draft where
  name : Option Text
  pattern : Option Text
  key : Option Text
  value : Option Text
  priority : Int
  conditions : List ConditionDraft
deriving DecidableEq, Repr

namespace Draft

def blank : Draft := ⟨none, none, none, none, 0, []⟩

/-- Takes one field. Fields of other names are passed over. -/
def set (draft : Draft) (name : Text) (value : Json) : Except Text Draft :=
  match String.ofList name with
  | "name" => (string value).map fun t => { draft with name := some t }
  | "section_pattern" => (string value).map fun t => { draft with pattern := some t }
  | "action_key" => (string? value).map fun t => { draft with key := t }
  | "action_value" => (scalar value).map fun t => { draft with value := some t }
  | "priority" => (RuleFile.priority value).map fun n => { draft with priority := n }
  | "conditions" => (conditionDrafts value).map fun cs => { draft with conditions := cs }
  | _ => .ok draft

/-- The names of the fields in the order of an array. -/
def order : List Text :=
  ["name", "section_pattern", "action_key", "action_value", "priority", "conditions"].map
    String.toList

/-- The complaint about a field that must be written, with its place in an array of fields. -/
def missing (name : String) (place : Nat) (fromArray : Bool) : Text :=
  if fromArray then badLength place "struct RawRule with 6 elements"
  else "missing field `".toList ++ name.toList ++ ['\x60']

end Draft

/-- The key that is written when a rule names none, or only blanks. -/
def defaultKey : Text :=
  "run".toList

/-- The condition a draft stands for, and what to report on it. A condition with an empty key or
operand is dropped. -/
def ConditionDraft.condition? (rule : Text) (draft : ConditionDraft) :
    Option Condition × List Event :=
  if draft.key.isEmpty || draft.operand.isEmpty then
    (none, [.conditionDropped rule draft.key])
  else
    match draft.kind with
    | none => (some ⟨draft.key, draft.operand, .contains⟩, [])
    | some name =>
      match MatchType.ofName? name with
      | some kind => (some ⟨draft.key, draft.operand, kind⟩, [])
      | none => (some ⟨draft.key, draft.operand, .contains⟩, [.unknownMatchType rule name])

/-- The rule a draft stands for, and what to report on it. -/
def Draft.rule (draft : Draft) (name pattern value : Text) : Rule × List Event :=
  let conditions := draft.conditions.map (·.condition? name)
  ({ name := name
     pattern := pattern
     key := match draft.key with
       | some key => if (Text.trim key).isEmpty then defaultKey else key
       | none => defaultKey
     value := value
     priority := draft.priority
     conditions := conditions.filterMap Prod.fst },
    conditions.flatMap Prod.snd)

/-- The rule a draft stands for, or the complaint about the first field that is missing. -/
def Draft.finish (draft : Draft) (fromArray : Bool) : Except Text (Rule × List Event) :=
  match draft.name, draft.pattern, draft.value with
  | none, _, _ => .error (missing "name" 0 fromArray)
  | _, none, _ => .error (missing "section_pattern" 1 fromArray)
  | _, _, none => .error (missing "action_value" 3 fromArray)
  | some name, some pattern, some value => .ok (draft.rule name pattern value)

/-- Reads a rule, and gives what to report on it. -/
def readEntry (entry : Json) : Except Text (Rule × List Event) :=
  match entry.sorted with
  | .object fields => do
    let draft ← fields.foldlM (fun draft field => draft.set field.1 field.2) Draft.blank
    draft.finish false
  | .array items => do
    let draft ← (Draft.order.zip items).foldlM (fun draft field => draft.set field.1 field.2)
      Draft.blank
    let result ← draft.finish true
    if Draft.order.length < items.length then
      throw (badLength items.length "fewer elements in array")
    return result
  | value => .error (misfit value "struct RawRule")

end Rubric.RuleFile
