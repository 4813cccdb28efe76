import Rubric.RuleFile.Basic
import Rubric.Run.Basic
import Rubric.Settings.Load

/-! Handling an action. All that can fail before the first write is done before it, and a log whose
output cannot be written is removed. -/
namespace Rubric

variable {m : Type → Type} [Monad m]

def RuleFile.loadFile (host : Host m) (path : Text) : m (Outcome (List Rule)) := do
  match ← host.readText path with
  | .error fault => return .fail (.file path fault)
  | .ok content => return RuleFile.load path content

/-- The rules of files, in order. The first file that does not load decides. -/
def RuleFile.loadFiles (host : Host m) : List Text → m (Outcome (List Rule))
  | [] => return ⟨.ok [], []⟩
  | path :: rest => do
    let first ← RuleFile.loadFile host path
    match first.result with
    | .error e => return ⟨.error e, first.events⟩
    | .ok rules =>
      let others ← RuleFile.loadFiles host rest
      return ⟨others.result.map (rules ++ ·), first.events ++ others.events⟩

/-- What an application of rules is about to deliver: the text, the record of the writes, and the
bytes of the files to write, with their paths. -/
structure Plan where
  text : Text
  modifications : List Modification
  output : Option (Text × Bytes)
  log : Option (Text × Bytes)
deriving DecidableEq, Repr

/-- Applies rules to a text and encodes what is to be written. -/
def Plan.make (encoding : Encoding) (indent : Bool) (output log : Option Text) (rules : List Rule)
    (t : Text) : Outcome Plan :=
  let made := transform rules t
  match made.result with
  | .error e => ⟨.error e, made.events⟩
  | .ok edited =>
    let plan : Plan :=
      { text := edited.text
        modifications := edited.log
        output := none
        log := log.map fun path => (path, Utf8.encode (Modification.logText indent edited.log)) }
    match output with
    | none => ⟨.ok plan, made.events⟩
    | some path =>
      match encoding.encode? edited.text with
      | none => ⟨.error (.unencodable path encoding.name), made.events⟩
      | some bytes => ⟨.ok { plan with output := some (path, bytes) }, made.events⟩

/-- Writes the output, if there is one. The log is removed again if the output cannot be written. -/
def Plan.writeOutput (host : Host m) (plan : Plan) : m (Except Error Output) := do
  match plan.output with
  | none => return .ok (.text plan.text)
  | some (path, bytes) =>
    match ← host.save path bytes with
    | .ok () => return .ok (.written path)
    | .error e =>
      match plan.log with
      | none => return .error e
      | some (logPath, _) =>
        host.remove logPath
        return .error e

/-- Writes the log and then the output. -/
def Plan.deliver (host : Host m) (plan : Plan) : m (Except Error Output) := do
  match plan.log with
  | none => plan.writeOutput host
  | some (path, bytes) =>
    match ← host.save path bytes with
    | .error e => return .error e
    | .ok () => plan.writeOutput host

namespace Job

/-- All rules: those of the files and those of the job behind them. There must be a source of
rules. -/
def loadRules (host : Host m) (job : Job) : m (Outcome (List Rule)) := do
  if job.rulePaths.isEmpty && job.rules.isEmpty then
    return .fail .noRules
  else
    return (← RuleFile.loadFiles host job.rulePaths).map (· ++ job.rules)

def readInput (host : Host m) (encoding : Encoding) (input : Option Text) :
    m (Except Error Text) := do
  match input with
  | none =>
    match ← host.input with
    | .error fault => return .error (.streams "read".toList fault)
    | .ok bytes => return decode "stdin".toList bytes
  | some path =>
    match ← host.read path with
    | .error fault => return .error (.file path fault)
    | .ok bytes => return decode path bytes
where
  /-- The text of bytes from an origin. -/
  decode (origin : Text) (bytes : Bytes) : Except Error Text :=
    match encoding.decode? bytes with
    | none => .error (.undecodable origin encoding.name)
    | some t => .ok t

/-- Reads all that an application of rules needs, and makes what it is to deliver. -/
def prepare (host : Host m) (job : Job) (input output log : Option Text) : m (Outcome Plan) := do
  match job.encoding? with
  | .error e => return .fail e
  | .ok encoding =>
    let loaded ← job.loadRules host
    match loaded.result with
    | .error e => return ⟨.error e, loaded.events⟩
    | .ok rules =>
      match ← readInput host encoding input with
      | .error e => return ⟨.error e, loaded.events⟩
      | .ok t =>
        let made := Plan.make encoding job.indents output (job.logPath log) rules t
        return ⟨made.result, loaded.events ++ made.events⟩

def handle (host : Host m) (job : Job) : Action → m (Outcome Result)
  | .listRules => return (← job.loadRules host).map fun rules => .listing (Rule.ranked rules)
  | .settingsTemplate => return ⟨.ok (.template Settings.template), []⟩
  | .apply input output log => do
    let prepared ← job.prepare host input output log
    match prepared.result with
    | .error e => return ⟨.error e, prepared.events⟩
    | .ok plan =>
      let delivered ← plan.deliver host
      return ⟨delivered.map fun output =>
        .applied output plan.modifications (plan.log.map Prod.fst), prepared.events⟩

end Job

end Rubric
