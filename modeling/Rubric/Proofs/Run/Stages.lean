import Rubric.Proofs.Edit.Failure
import Rubric.Proofs.Except
import Rubric.Proofs.Run.Handling

/-! The stages of an application of rules, and how each of them fails by itself. A run goes through
them in order, so the first that fails is the one it reports, whatever is wrong behind it. Up to the
log nothing is written. A log that cannot be opened leaves directories at most, and one that cannot
be written to its end leaves its beginning. -/
namespace Rubric

def Outcome.reason? {α : Type} : Except Error α → Option Error
  | .error e => some e
  | .ok _ => none

@[simp] theorem Outcome.reason?_error {α : Type} (e : Error) :
    reason? (.error e : Except Error α) = some e := rfl

@[simp] theorem Outcome.reason?_ok {α : Type} (a : α) : reason? (.ok a) = none := rfl

/-- A result, unless there is a reason against it. -/
def Outcome.resultUnless {α : Type} (reason? : Option Error) (a : α) : Except Error α :=
  match reason? with
  | some e => .error e
  | none => .ok a

@[simp] theorem Outcome.resultUnless_some {α : Type} (e : Error) (a : α) :
    resultUnless (some e) a = .error e := rfl

@[simp] theorem Outcome.resultUnless_none {α : Type} (a : α) : resultUnless none a = .ok a := rfl

theorem Outcome.eq_of_resultUnless {α : Type} {found? : Option Error} {a b : α}
    (h : resultUnless found? a = .ok b) : a = b := by
  cases found? with
  | none => exact Except.ok.inj h
  | some e => simp at h

@[simp] theorem Outcome.reason?_resultUnless {α : Type} (found? : Option Error) (a : α) :
    reason? (resultUnless found? a) = found? := by
  cases found? <;> rfl

namespace FileTree

/-- Why a file cannot be saved, if it cannot: it cannot be opened, or writing its content falls
short. Where there is no content yet, only the first of these counts. -/
def saveFailure? (tree : FileTree) (device : Device) (path : Text) (content? : Option Bytes) :
    Option Error :=
  match tree.opening path with
  | (.error e, _) => some e
  | (.ok _, made) => do
    let short ← device.shortfall? made path (← content?)
    some (.file path short.fault)

def rulesOf (tree : FileTree) (path : Text) : Except Error (List Rule) :=
  match tree.read path with
  | .error fault => .error (.file path fault)
  | .ok bytes =>
    match Utf8.decode? bytes with
    | none => .error (.file path .invalidData)
    | some content => (RuleFile.load path content).result

end FileTree

/-- The stages of an application of rules up to its log. -/
inductive Stage where
  | encodingLabel
  | ruleSource
  | ruleFiles
  | input
  | decoding
  | patterns
  | encoding
  | log
deriving DecidableEq, Repr

/-- The stages before anything is written, in the order in which a run goes through them. -/
def Stage.preparing : List Stage :=
  [encodingLabel, ruleSource, ruleFiles, input, decoding, patterns, encoding]

/-- All stages, in the order in which a run goes through them. -/
def Stage.order : List Stage :=
  preparing ++ [log]

/-- An application of rules: the files and the device that it finds, its job, and the paths it is
asked for. -/
structure Application where
  tree : FileTree
  device : Device
  job : Job
  input : Option Text
  output : Option Text
  log : Option Text

namespace Application

def run (a : Application) : Outcome Result × FileTree :=
  a.tree.run a.device (a.job.handle · (.apply a.input a.output a.log))

/-- The rules of all files that load, and those of the job behind them. -/
def rules (a : Application) : List Rule :=
  (a.job.rulePaths.flatMap fun path => (a.tree.rulesOf path).toOption.getD []) ++ a.job.rules

def bytes (a : Application) : Except Error Bytes :=
  match a.input with
  | none => a.device.input.mapError (.streams "read".toList)
  | some path =>
    match a.tree.read path with
    | .error fault => .error (.file path fault)
    | .ok bytes => .ok bytes

/-- What the rules make of the input, if the input can be decoded and their patterns compile. -/
def made? (a : Application) : Option Transformed := do
  let encoding ← a.job.encoding?.toOption
  let text ← encoding.decode? (← a.bytes.toOption)
  (transform a.rules text).result.toOption

/-- The content of the log, if there is something to record. -/
def record? (a : Application) : Option Bytes :=
  a.made?.map fun made => Utf8.encode (Modification.logText a.job.indents made.log)

/-- Why a stage fails, if it does. A stage to which an earlier one hands nothing on does not fail by
itself. -/
def failure? (a : Application) : Stage → Option Error
  | .encodingLabel => Outcome.reason? a.job.encoding?
  | .ruleSource => if a.job.rulePaths = [] ∧ a.job.rules = [] then some .noRules else none
  | .ruleFiles => a.job.rulePaths.findSome? fun path => Outcome.reason? (a.tree.rulesOf path)
  | .input => Outcome.reason? a.bytes
  | .decoding => do
    let encoding ← a.job.encoding?.toOption
    match encoding.decode? (← a.bytes.toOption) with
    | none => some (.undecodable (a.input.getD "stdin".toList) encoding.name)
    | some _ => none
  | .patterns =>
    ((Rule.ranked a.rules).find? (¬·.Compiles)).map fun r => .invalidPattern r.name r.pattern
  | .encoding => do
    let encoding ← a.job.encoding?.toOption
    let path ← a.output
    match encoding.encode? (← a.made?).text with
    | none => some (.unencodable path encoding.name)
    | some _ => none
  | .log => (a.job.logPath a.log).bind (a.tree.saveFailure? a.device · a.record?)

end Application

namespace FileTree

variable {device : Device} {tree : FileTree} {path : Text} {content : Bytes}

/-- Rules are loaded as the tree and the path tell. -/
theorem run_loadFile :
    (tree.run device (RuleFile.loadFile · path)).1.result = tree.rulesOf path := by
  have hRead : tree.run device (·.read path) = (tree.read path, tree) := rfl
  unfold RuleFile.loadFile Host.readText
  rw [rulesOf, run_bind, run_bind, hRead]
  cases tree.read path with
  | error fault => rfl
  | ok bytes =>
      dsimp only
      cases Utf8.decode? bytes with
      | none => rfl
      | some content => rfl

/-- Of several files the first one that fails is told. -/
theorem run_loadFiles (paths : List Text) :
    (tree.run device (RuleFile.loadFiles · paths)).1.result =
      Outcome.resultUnless (paths.findSome? fun path => Outcome.reason? (tree.rulesOf path))
        (paths.flatMap fun path => (tree.rulesOf path).toOption.getD []) := by
  induction paths with
  | nil => rfl
  | cons path paths ih =>
      have hFirst : (tree.run device (RuleFile.loadFile · path)).1.result = tree.rulesOf path :=
        run_loadFile
      unfold RuleFile.loadFiles
      rw [(reads_loadFile path).run_bind, List.findSome?_cons]
      cases hRules : tree.rulesOf path with
      | error e =>
          rw [hRules] at hFirst
          simp [hFirst]
      | ok rules =>
          rw [hRules] at hFirst
          simp only [hFirst, Outcome.reason?_ok, List.flatMap_cons, hRules]
          rw [(reads_loadFiles paths).run_bind, run_pure, ih]
          cases paths.findSome? fun path => Outcome.reason? (tree.rulesOf path) <;> rfl

end FileTree

namespace Application

variable {a : Application}

/-- Rules are loaded unless there is no source of any, or one of their files fails. -/
theorem run_loadRules : (a.tree.run a.device (a.job.loadRules ·)).1.result = (do
    Outcome.resultUnless (a.failure? .ruleSource) ()
    Outcome.resultUnless (a.failure? .ruleFiles) a.rules) := by
  unfold Job.loadRules
  by_cases hNone : a.job.rulePaths = [] ∧ a.job.rules = []
  · have hSource : a.failure? .ruleSource = some .noRules := if_pos hNone
    simp only [hNone, hSource, List.isEmpty_nil, Bool.and_self, if_true]
    rfl
  · have hSource : a.failure? .ruleSource = none := if_neg hNone
    have hGuard : (a.job.rulePaths.isEmpty && a.job.rules.isEmpty) = false := by
      simpa using hNone
    simp only [hGuard, Bool.false_eq_true, if_false, hSource]
    rw [(FileTree.reads_loadFiles _).run_bind, FileTree.run_pure, Outcome.map,
      FileTree.run_loadFiles, failure?, rules]
    cases a.job.rulePaths.findSome? fun path => Outcome.reason? (a.tree.rulesOf path) <;> rfl

theorem run_readInput (encoding : Encoding) :
    (a.tree.run a.device (Job.readInput · encoding a.input)).1 =
      a.bytes.bind (Job.readInput.decode encoding (a.input.getD "stdin".toList)) := by
  unfold Job.readInput
  rw [bytes]
  cases a.input with
  | none =>
      have hInput : a.tree.run a.device (·.input) = (a.device.input, a.tree) := rfl
      simp only [FileTree.run_bind, hInput]
      cases a.device.input <;> rfl
  | some path =>
      have hRead : a.tree.run a.device (·.read path) = (a.tree.read path, a.tree) := rfl
      simp only [FileTree.run_bind, hRead]
      cases a.tree.read path with
      | error fault => rfl
      | ok bytes => rfl

def prepared (a : Application) : Except Error Plan :=
  (a.tree.run a.device (a.job.prepare · a.input a.output a.log)).1.result

/-- The preparation is its stages in a row. -/
theorem prepared_eq (a : Application) : a.prepared = (do
    let encoding ← a.job.encoding?
    Outcome.resultUnless (a.failure? .ruleSource) ()
    let rules ← Outcome.resultUnless (a.failure? .ruleFiles) a.rules
    let bytes ← a.bytes
    let text ← Job.readInput.decode encoding (a.input.getD "stdin".toList) bytes
    (Plan.make encoding a.job.indents a.output (a.job.logPath a.log) rules text).result) := by
  have hRules := a.run_loadRules
  unfold prepared Job.prepare
  cases a.job.encoding? with
  | error e => rfl
  | ok encoding =>
      have hText := a.run_readInput encoding
      change _ = Outcome.resultUnless (a.failure? .ruleSource) () >>= fun _ =>
        Outcome.resultUnless (a.failure? .ruleFiles) a.rules >>= _
      rw [← bind_assoc, ← hRules]
      dsimp only
      rw [(FileTree.reads_loadRules a.job).run_bind]
      cases (a.tree.run a.device (a.job.loadRules ·)).1.result with
      | error e => rfl
      | ok rules =>
          dsimp only
          rw [(FileTree.reads_readInput encoding a.input).run_bind, hText]
          cases a.bytes with
          | error e => rfl
          | ok bytes =>
              change _ = (Job.readInput.decode encoding
                (a.input.getD "stdin".toList) bytes).bind fun text =>
                  (Plan.make encoding a.job.indents a.output (a.job.logPath a.log) rules
                    text).result
              simp only [Except.bind]
              cases Job.readInput.decode encoding (a.input.getD "stdin".toList) bytes <;> rfl

/-- A result is decided by stages: the first of them that fails is the reason why there is none, and
where none fails there is one. -/
def Decides {α : Type} (a : Application) (stages : List Stage) (result : Except Error α) : Prop :=
  Outcome.reason? result = stages.findSome? a.failure?

/-- If the first stage is decided, and the others are once it went through, then all of them are. -/
theorem Decides.bind {α β : Type} {first : Except Error α} {next : α → Except Error β}
    {stage : Stage} {stages : List Stage} (h : Outcome.reason? first = a.failure? stage)
    (hNext : ∀ x, first = .ok x → a.Decides stages (next x)) :
    a.Decides (stage :: stages) (first >>= next) := by
  rw [Decides, List.findSome?_cons, ← h]
  cases first with
  | error e => rfl
  | ok x => exact hNext x rfl

/-- A transform fails for its patterns only. -/
theorem reason?_transform (t : Text) :
    Outcome.reason? (transform a.rules t).result = a.failure? .patterns := by
  rw [failure?]
  cases hFind : (Rule.ranked a.rules).find? (¬·.Compiles) with
  | some r =>
      have hLeads := Rule.find?_ranked_eq_some_iff.mp hFind
      simp [transform, Document.apply_of_leads _ hLeads, Except.map]
  | none =>
      have hCompiles : ∀ r ∈ a.rules, r.Compiles := by
        intro r hr
        simpa using List.find?_eq_none.mp hFind r (Rule.mem_ranked.mpr hr)
      simp [transform, Document.apply_result hCompiles, Except.map]

/-- The input fails to decode just when that stage fails. -/
theorem reason?_decode {encoding : Encoding} {bytes : Bytes}
    (hEncoding : a.job.encoding? = .ok encoding) (hBytes : a.bytes = .ok bytes) :
    Outcome.reason? (Job.readInput.decode encoding (a.input.getD "stdin".toList) bytes) =
      a.failure? .decoding := by
  have hFailure : a.failure? .decoding = match encoding.decode? bytes with
      | none => some (.undecodable (a.input.getD "stdin".toList) encoding.name)
      | some _ => none := by
    rw [failure?, hEncoding, hBytes]
    rfl
  rw [hFailure, Job.readInput.decode]
  cases encoding.decode? bytes <;> rfl

/-- Behind the input, the rules alone decide whether anything is made. -/
theorem made?_eq {encoding : Encoding} {bytes : Bytes} {text : Text}
    (hEncoding : a.job.encoding? = .ok encoding) (hBytes : a.bytes = .ok bytes)
    (hText : encoding.decode? bytes = some text) :
    a.made? = (transform a.rules text).result.toOption := by
  rw [made?, hEncoding, hBytes]
  change ((encoding.decode? bytes).bind fun text => (transform a.rules text).result.toOption) = _
  rw [hText, Option.bind_some]

/-- Making a plan decides the stages of the patterns and of the encoding. -/
theorem decides_make {encoding : Encoding} {bytes : Bytes} {text : Text}
    (hEncoding : a.job.encoding? = .ok encoding) (hBytes : a.bytes = .ok bytes)
    (hText : encoding.decode? bytes = some text) : a.Decides [.patterns, .encoding]
      (Plan.make encoding a.job.indents a.output (a.job.logPath a.log) a.rules text).result := by
  have hPatterns := a.reason?_transform text
  have hMade := made?_eq hEncoding hBytes hText
  rw [Decides, List.findSome?_cons, ← hPatterns, Plan.make]
  cases hTransform : (transform a.rules text).result with
  | error e => simp
  | ok made =>
      have hEncode : a.failure? .encoding = a.output.bind fun path =>
          match encoding.encode? made.text with
          | none => some (.unencodable path encoding.name)
          | some _ => none := by
        rw [failure?, hEncoding, hMade, hTransform]
        rfl
      simp only [Outcome.reason?_ok, List.findSome?_cons, List.findSome?_nil, hEncode]
      cases a.output with
      | none => rfl
      | some path =>
          simp only [Option.bind_some]
          cases encoding.encode? made.text <;> rfl

/-- The preparation decides all stages but the last one. -/
theorem decides_prepared (a : Application) : a.Decides Stage.preparing a.prepared := by
  rw [prepared_eq]
  refine Decides.bind rfl fun encoding hEncoding => ?_
  refine Decides.bind (Outcome.reason?_resultUnless _ _) fun _ _ => ?_
  refine Decides.bind (Outcome.reason?_resultUnless _ _) fun rules hRules => ?_
  refine Decides.bind rfl fun bytes hBytes => ?_
  refine Decides.bind (reason?_decode hEncoding hBytes) fun text hText => ?_
  obtain rfl := Outcome.eq_of_resultUnless hRules
  rw [Job.readInput.decode] at hText
  cases hDecode : encoding.decode? bytes with
  | none => simp [hDecode] at hText
  | some t =>
      obtain rfl : t = text := by simpa [hDecode] using hText
      exact decides_make hEncoding hBytes hDecode

/-- A path is what is left of the path of the log without some names at its end. -/
def AboveLog (a : Application) (above : Text) : Prop :=
  ∃ path, a.job.logPath a.log = some path ∧ Path.Above path above

theorem decode_eq_ok_iff {encoding : Encoding} {origin text : Text} {bytes : Bytes} :
    Job.readInput.decode encoding origin bytes = .ok text ↔ encoding.decode? bytes = some text := by
  rw [Job.readInput.decode]
  cases encoding.decode? bytes <;> simp

/-- What a run is to deliver is the record of the edit, for the log, and the edited text. -/
theorem exists_record_of_prepared {plan : Plan} (h : a.prepared = .ok plan) :
    ∃ record, a.record? = some record ∧ plan.log = (a.job.logPath a.log).map (·, record) ∧
      plan.output.map Prod.fst = a.output := by
  obtain ⟨encoding, rules, text, made, hEncoding, hLoaded, hText, hMade, hFits⟩ :=
    Job.exists_made_of_prepare h
  rw [run_loadRules] at hLoaded
  obtain ⟨_, -, hRules⟩ := bind_eq_ok_iff.mp hLoaded
  obtain rfl := Outcome.eq_of_resultUnless hRules
  rw [run_readInput] at hText
  obtain ⟨bytes, hBytes, hDecoded⟩ := bind_eq_ok_iff.mp hText
  have hFound : a.made? = some made := by
    rw [made?_eq hEncoding hBytes (decode_eq_ok_iff.mp hDecoded), hMade, Except.toOption]
  exact ⟨_, congrArg (Option.map _) hFound, hFits.log, hFits.target⟩

/-- A run that has nothing to write succeeds where none of its stages fails. -/
theorem exists_run_eq_ok (hOutput : a.output = none)
    (hLog : a.job.logPath a.log = none) (h : ∀ stage, a.failure? stage = none) :
    ∃ result events, a.run = (⟨.ok result, events⟩, a.tree) := by
  have hDecides : Outcome.reason? a.prepared = none := by
    rw [a.decides_prepared]
    exact List.findSome?_eq_none_iff.mpr fun stage _ => h stage
  cases hPrepared : a.prepared with
  | error e => simp [hPrepared] at hDecides
  | ok plan =>
      obtain ⟨record, -, hPlanLog, hPlanOutput⟩ := exists_record_of_prepared hPrepared
      rw [hLog, Option.map_none] at hPlanLog
      rw [hOutput, Option.map_eq_none_iff] at hPlanOutput
      obtain ⟨events, hRun⟩ := Job.run_handle_of_ok hPrepared
      have hDelivered : a.tree.run a.device plan.deliver = (.ok (.text plan.text), a.tree) := by
        simp only [Plan.deliver, Plan.writeOutput, hPlanLog, hPlanOutput, FileTree.run_pure]
      rw [hDelivered] at hRun
      exact ⟨_, events, hRun⟩

/-- What a run leaves behind that a stage has stopped: directories above the log at most, unless the
log could be opened but not written to its end. Then a beginning of it stands in its file. -/
inductive Leaves (a : Application) : FileTree → Prop
  | unopened {after : FileTree} (hDeepens : FileTree.Deepens a.AboveLog a.tree after) :
      Leaves a after
  | begun {path : Text} {record : Bytes} {place : Place} {made : FileTree} {short : Shortfall}
      (hLog : a.job.logPath a.log = some path) (hRecord : a.record? = some record)
      (hOpening : a.tree.opening path = (.ok place, made))
      (hShort : a.device.shortfall? made path record = some short) :
      Leaves a (made.put place (.file (record.take short.written)))

/-- On a device that writes what it opens, nothing is left of a failed log but directories above
it. -/
theorem Leaves.deepens {after : FileTree} (h : a.Leaves after) (hWrites : a.device.WritesOpened) :
    FileTree.Deepens a.AboveLog a.tree after := by
  cases h with
  | unopened hDeepens => exact hDeepens
  | @begun path record _ _ _ _ _ _ hShort => simp [hWrites _ path record] at hShort

/-- An application whose input cannot be decoded, whose rule does not compile, and whose log cannot
be written. -/
def mired : Application where
  tree := Job.desk.put ["raw.ini".toList] (.file [0xFF])
  device := .plain []
  job := { Job.rewriting with rules := [⟨"r".toList, "[".toList, "foo".toList, "2".toList, 0, []⟩] }
  input := some "raw.ini".toList
  output := none
  log := some "new/logs/".toList

/-- The application with a sound rule and an input that can be decoded. -/
def unlogged : Application :=
  { mired with job := Job.rewriting, input := some "doc.ini".toList }

end Application
end Rubric
