import Rubric.Json.Reader
import Rubric.Outcome
import Rubric.RuleFile.Draft

/-! Rule files. A file is an array of rules, or an object that has such an array under
`rules`. It is loaded as a whole or not at all. -/
namespace Rubric.RuleFile

/-- The entries of a rule file. The refusal tells whether the text was JSON. -/
def entries (content : Text) : Except Bool (List Json) :=
  match Json.readStart content with
  | none => .error false
  | some (value, rest) =>
    match listed value with
    | none => .error true
    | some items => if (Json.skipSpace rest).isEmpty then .ok items else .error false
where
  /-- The entries a value holds. An object may have one list of rules, and none counts as empty. -/
  listed : Json → Option (List Json)
    | .array items => some items
    | .object fields =>
      match fields.filter (·.1 == "rules".toList) with
      | [] => some []
      | [(_, .array items)] => some items
      | _ => none
    | _ => none

/-- Loads entries in order, the first of which has the given index, up to one that is no rule. -/
def loadEntries (path : Text) (index : Nat) : List Json → Outcome (List Rule)
  | [] => ⟨.ok [], []⟩
  | entry :: rest =>
    match readEntry entry with
    | .error reason => .fail (.invalidRule path index reason)
    | .ok (rule, events) =>
      let others := loadEntries path (index + 1) rest
      ⟨others.result.map (rule :: ·), events ++ others.events⟩

/-- Loads the rules of a file with the given content. The path only serves complaints. -/
def load (path content : Text) : Outcome (List Rule) :=
  match entries content with
  | .error wellFormed => .fail (.ruleFile path wellFormed)
  | .ok items => loadEntries path 0 items

end Rubric.RuleFile
