import Rubric.Text.Basic

/-! Events that a run leaves behind for whoever follows it. They report; no result depends
on them. -/
namespace Rubric

inductive Severity where
  | warning
  | information
  | detail
deriving DecidableEq, Repr

/-- What a run reports. -/
inductive Event where
  /-- A rule wrote its key in a section. -/
  | applied (section_ rule key : Text)
  /-- A rule matched a section in which a better ranked rule had written its key. -/
  | alreadyWritten (section_ rule key : Text)
  /-- All rules have been applied to all sections. -/
  | finished (sections rules modifications : Nat)
  /-- A rule was loaded without a condition whose key or operand is empty. -/
  | conditionDropped (rule key : Text)
  /-- A condition was loaded with the default in place of a match type that has no such name. -/
  | unknownMatchType (rule name : Text)
deriving DecidableEq, Repr

namespace Event

def severity : Event → Severity
  | applied .. | alreadyWritten .. => .detail
  | finished .. => .information
  | conditionDropped .. | unknownMatchType .. => .warning

def message : Event → String
  | applied .. => "rule applied"
  | alreadyWritten .. => "key already written by a higher-priority rule"
  | finished .. => "rules applied"
  | conditionDropped .. => "dropping condition with empty key or value"
  | unknownMatchType .. => "unknown match type, using contains"

/-- What an event is about, by name. -/
def details : Event → List (String × Text)
  | applied s rule key | alreadyWritten s rule key => [("section", s), ("rule", rule), ("key", key)]
  | finished sections rules modifications =>
    [("sections", Text.ofNat sections), ("rules", Text.ofNat rules),
      ("modifications", Text.ofNat modifications)]
  | conditionDropped rule key => [("rule", rule), ("key", key)]
  | unknownMatchType rule name => [("rule", rule), ("match_type", name)]

/-- The line about an event that warns. -/
def warning (e : Event) : Text :=
  "WARN ".toList ++ e.message.toList ++
    e.details.flatMap fun (name, t) => ' ' :: name.toList ++ '=' :: t

end Event

end Rubric
