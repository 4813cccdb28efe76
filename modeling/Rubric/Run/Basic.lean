import Rubric.Edit
import Rubric.Encoding.Label
import Rubric.Outcome
import Rubric.Settings.Template

/-! Runs: what they are asked for, what they go by, and what they result in. -/
namespace Rubric

/-- What a run is asked for. -/
inductive Action where
  /-- Applies rules to a document. Without an input the standard input is read, without an output
  the text goes to the caller, and without a log the settings decide. -/
  | apply (input output log : Option Text)
  | listRules
  | settingsTemplate
deriving DecidableEq, Repr

/-- Whether an action goes by the settings. The template can be had where they are broken. -/
def Action.readsSettings : Action → Bool
  | settingsTemplate => false
  | _ => true

/-- Where an edited text has gone. -/
inductive Output where
  | text (t : Text)
  | written (path : Text)
deriving DecidableEq, Repr

inductive Result where
  | listing (ranked : List Rule)
  | template (t : Text)
  | applied (output : Output) (modifications : List Modification) (log : Option Text)
deriving DecidableEq, Repr

/-- What a result shows. A text that was written to a file is not shown. -/
def Result.shown : Result → Text
  | listing ranked => Rule.listing ranked
  | template t => t
  | applied (.text t) _ _ => Transformed.shown t
  | applied (.written _) _ _ => []

/-- What a run goes by: rule files and rules behind those of the files, and what overrides the
settings. -/
structure Job where
  ruleFiles : List Text
  rules : List Rule
  settings : Option Settings
  encoding : Option Text
  report : Option Bool

namespace Job

def encoding? (job : Job) : Except Error Encoding :=
  let label := job.encoding.getD ((job.settings.map (·.encoding)).getD Settings.defaultEncoding)
  match Encoding.ofLabel? label with
  | none => .error (.unknownEncoding label)
  | some encoding => .ok encoding

/-- The rule files. Those of the settings count where no others are given. -/
def rulePaths (job : Job) : List Text :=
  if job.ruleFiles.isEmpty then (job.settings.map (·.rules)).getD [] else job.ruleFiles

/-- The file for the log. That of the settings counts where no other is requested. -/
def logPath (job : Job) (requested : Option Text) : Option Text :=
  requested.orElse fun _ => job.settings.bind (·.report.logFile)

def indents (job : Job) : Bool :=
  (job.settings.map (·.report.pretty)).getD true

def reports (job : Job) : Bool :=
  job.report.getD ((job.settings.map (·.report.stderr)).getD true)

end Job

end Rubric
