import Rubric.Document.Text
import Rubric.Modification
import Rubric.Outcome
import Rubric.Rule.Matching

/-! Applying rules to a document. In one section a key is written by at most one rule, the
best ranked one that matches at its turn. All patterns are compiled before any section
is touched, so a pattern that does not compile leaves the document as it was. -/
namespace Rubric

/-- A rule together with its compiled pattern. -/
structure ReadyRule where
  rule : Rule
  pattern : Pattern.Expr

/-- Compiles the patterns of rules. The first one that does not compile decides. -/
def ReadyRule.ofRules : List Rule → Except Error (List ReadyRule)
  | [] => .ok []
  | rule :: rest =>
    match Pattern.compile? rule.pattern with
    | none => .error (.invalidPattern rule.name rule.pattern)
    | some pattern => (ofRules rest).map (⟨rule, pattern⟩ :: ·)

/-- Writes a value under a key: over the value of the first line with that key, or in a new line at
the end. The answer has the value that was replaced. There is none when the line that was found
has no value to replace. -/
def Section.write (s : Section) (key value : Text) : Except Error (Section × Option Text) :=
  match h : s.position? key with
  | none => .ok (s.append key value, none)
  | some i =>
    have := lt_of_position? h
    let line := s.lines[i]
    (line.setValue value).map fun fresh =>
      ({ s with lines := s.lines.set i fresh }, line.value)

/-- A section under the rules: as it stands, the keys written in it, and what to record and report,
the latest first in all three. -/
structure Visit where
  current : Section
  written : List Text
  log : List Modification
  events : List Event

namespace Visit

/-- A section before the first rule. -/
def start (s : Section) : Visit :=
  ⟨s, [], [], []⟩

def turn (v : Visit) (ready : ReadyRule) : Except Error Visit :=
  let rule := ready.rule
  let name := v.current.name
  if !rule.matchesWith ready.pattern v.current then .ok v
  else if v.written.contains rule.key then
    .ok { v with events := .alreadyWritten name rule.name rule.key :: v.events }
  else
    (v.current.write rule.key rule.value).map fun (after, previous) =>
      { current := after
        written := rule.key :: v.written
        log := ⟨name, rule.name, rule.key, previous, rule.value⟩ :: v.log
        events := .applied name rule.name rule.key :: v.events }

/-- Gives rules their turns in order. A turn that fails is the last, and the section stays as the
turn found it. -/
def turns (v : Visit) : List ReadyRule → Visit × Option Error
  | [] => (v, none)
  | ready :: rest =>
    match v.turn ready with
    | .error e => (v, some e)
    | .ok after => after.turns rest

end Visit

def Section.visit (rules : List ReadyRule) (s : Section) : Visit × Option Error :=
  if s.isPreamble then (.start s, none) else (Visit.start s).turns rules

/-- A document after the rules, with the record of their writes or the reason why they stopped, and
the report on them. -/
structure Edited where
  document : Document
  result : Except Error (List Modification)
  events : List Event

namespace Document

/-- Takes rules in order through the sections of a document, up to the first section in which they
stop. -/
def edit (rules : List ReadyRule) : Document → Edited
  | [] => ⟨[], .ok [], []⟩
  | s :: rest =>
    match s.visit rules with
    | (v, some e) => ⟨v.current :: rest, .error e, v.events.reverse⟩
    | (v, none) =>
      let others := edit rules rest
      { document := v.current :: others.document
        result := others.result.map (v.log.reverse ++ ·)
        events := v.events.reverse ++ others.events }

def apply (rules : List Rule) (document : Document) : Edited :=
  match ReadyRule.ofRules (Rule.ranked rules) with
  | .error e => ⟨document, .error e, []⟩
  | .ok ready =>
    let edited := document.edit ready
    match edited.result with
    | .error _ => edited
    | .ok log => { edited with events := edited.events ++
        [.finished document.length rules.length log.length] }

end Document

structure Transformed where
  text : Text
  log : List Modification

/-- A text as it is shown, with a line feed at the end unless it is empty or has one. -/
def Transformed.shown (text : Text) : Text :=
  if text.isEmpty || text.getLast? == some '\n' then text else text ++ ['\n']

def transform (rules : List Rule) (text : Text) : Outcome Transformed :=
  let edited := (Document.read text).apply rules
  ⟨edited.result.map fun log => ⟨edited.document.print, log⟩, edited.events⟩

end Rubric
