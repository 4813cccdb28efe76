import Mathlib.Control.Monad.Basic
import Rubric.Proofs.Run.Delivery

/-! Handling an application of rules on a tree of files. Everything up to the delivery only looks at
the tree, so what a run leaves behind is what its delivery leaves: the log and the output where it
succeeds, and a missing log where the output could not be saved. -/
namespace Rubric

namespace FileTree

variable {α β : Type} {device : Device} {tree : FileTree}

/-- An activity that only looks at the tree. -/
def Reads (device : Device) (activity : Host (StateM FileTree) → StateM FileTree α) : Prop :=
  ∀ tree : FileTree, (tree.run device activity).2 = tree

theorem reads_pure (a : α) : Reads device fun _ => pure a :=
  fun _ => rfl

theorem Reads.bind {first : Host (StateM FileTree) → StateM FileTree α}
    {next : Host (StateM FileTree) → α → StateM FileTree β} (h : Reads device first)
    (hNext : ∀ a, Reads device (next · a)) : Reads device fun host => first host >>= next host := by
  intro tree
  rw [run_bind, hNext, h]

/-- What follows on an activity that only looks at the tree finds the tree as it was. -/
theorem Reads.run_bind {first : Host (StateM FileTree) → StateM FileTree α} (h : Reads device first)
    (next : Host (StateM FileTree) → α → StateM FileTree β) :
    tree.run device (fun host => first host >>= next host) =
      tree.run device (next · (tree.run device first).1) := by
  rw [FileTree.run_bind, h]

theorem reads_readText (path : Text) : Reads device (·.readText path) := by
  have hRead : Reads device (·.read path) := fun _ => rfl
  refine hRead.bind fun answer => ?_
  cases answer with
  | error fault => exact reads_pure _
  | ok bytes =>
      dsimp only
      cases Utf8.decode? bytes with
      | none => exact reads_pure _
      | some t => exact reads_pure _

theorem reads_loadFile (path : Text) : Reads device (RuleFile.loadFile · path) := by
  refine (reads_readText path).bind fun answer => ?_
  cases answer with
  | error fault => exact reads_pure _
  | ok content => exact reads_pure _

theorem reads_loadFiles (paths : List Text) : Reads device (RuleFile.loadFiles · paths) := by
  induction paths with
  | nil => exact reads_pure _
  | cons path rest ih =>
      refine (reads_loadFile path).bind fun first => ?_
      cases hFirst : first.result with
      | error e => exact reads_pure _
      | ok rules => exact ih.bind fun others => reads_pure _

/-- Loading rules leaves the tree as it is, whatever comes of it. -/
theorem reads_loadRules (job : Job) : Reads device (job.loadRules ·) := by
  unfold Job.loadRules
  split
  next => exact reads_pure _
  next => exact (reads_loadFiles _).bind fun loaded => reads_pure _

theorem reads_readInput (encoding : Encoding) (path : Option Text) :
    Reads device (Job.readInput · encoding path) := by
  cases path with
  | none =>
      have hInput : Reads device (·.input) := fun _ => rfl
      refine hInput.bind fun answer => ?_
      cases answer with
      | error fault => exact reads_pure _
      | ok bytes => exact reads_pure _
  | some path =>
      have hRead : Reads device (·.read path) := fun _ => rfl
      refine hRead.bind fun answer => ?_
      cases answer with
      | error fault => exact reads_pure _
      | ok bytes => exact reads_pure _

end FileTree

theorem Outcome.eq_of_result {α : Type} {outcome : Outcome α × FileTree} {answer : Except Error α}
    (h : outcome.1.result = answer) :
    outcome = (⟨answer, outcome.1.events⟩, outcome.2) := by
  rw [← h]

/-- What a plan has of an edited text: all of it, its record where there is a log to write, and its
bytes where there is an output to write. -/
structure Plan.Fits (plan : Plan) (encoding : Encoding) (indent : Bool) (output log : Option Text)
    (made : Transformed) : Prop where
  text : plan.text = made.text
  modifications : plan.modifications = made.log
  log : plan.log = log.map fun path => (path, Utf8.encode (Modification.logText indent made.log))
  target : plan.output.map Prod.fst = output
  encoded : ∀ path bytes, plan.output = some (path, bytes) → encoding.encode? made.text = some bytes

/-- A plan that was made fits the transform it was made of. -/
theorem Plan.fits_of_make {encoding : Encoding} {indent : Bool} {output log : Option Text}
    {rules : List Rule} {t : Text} {plan : Plan}
    (h : (Plan.make encoding indent output log rules t).result = .ok plan) :
    ∃ made, (transform rules t).result = .ok made ∧ plan.Fits encoding indent output log made := by
  rw [make] at h
  cases hMade : (transform rules t).result with
  | error e => simp [hMade] at h
  | ok made =>
      refine ⟨made, rfl, ?_⟩
      simp only [hMade] at h
      cases output with
      | none =>
          obtain rfl := Except.ok.inj h
          exact ⟨rfl, rfl, rfl, rfl, by simp⟩
      | some path =>
          cases hBytes : encoding.encode? made.text with
          | none => simp [hBytes] at h
          | some bytes =>
              simp only [hBytes] at h
              obtain rfl := Except.ok.inj h
              exact ⟨rfl, rfl, rfl, rfl, by simp [hBytes]⟩

namespace Plan.Fits

variable {plan : Plan} {encoding : Encoding} {indent : Bool} {output log : Option Text}
  {made : Transformed}

theorem delivered (h : plan.Fits encoding indent output log made) :
    plan.delivered = output.elim (.text made.text) .written := by
  rw [Plan.delivered, ← h.target]
  cases plan.output with
  | none => simp [h.text]
  | some file => simp

theorem map_fst_log (h : plan.Fits encoding indent output log made) :
    plan.log.map Prod.fst = log := by
  rw [h.log]
  cases log <;> rfl

end Plan.Fits

namespace Job

variable {job : Job} {device : Device} {tree after : FileTree} {input output log : Option Text}
  {plan : Plan} {e : Error} {result : Result} {events : List Event}

/-- All that comes before a delivery only reads. -/
theorem reads_prepare : FileTree.Reads device (job.prepare · input output log) := by
  unfold prepare
  cases job.encoding? with
  | error e => exact FileTree.reads_pure _
  | ok encoding =>
      refine (FileTree.reads_loadRules job).bind fun loaded => ?_
      cases hLoaded : loaded.result with
      | error e => exact FileTree.reads_pure _
      | ok rules =>
          refine (FileTree.reads_readInput encoding input).bind fun text => ?_
          cases text with
          | error e => exact FileTree.reads_pure _
          | ok t => exact FileTree.reads_pure _

/-- A plan that was prepared comes of an encoding, rules, a text and a transform of it. -/
theorem exists_made_of_prepare
    (h : (tree.run device (job.prepare · input output log)).1.result = .ok plan) :
    ∃ encoding rules text made, job.encoding? = .ok encoding ∧
      (tree.run device (job.loadRules ·)).1.result = .ok rules ∧
      (tree.run device (Job.readInput · encoding input)).1 = .ok text ∧
      (transform rules text).result = .ok made ∧
      plan.Fits encoding job.indents output (job.logPath log) made := by
  unfold prepare at h
  cases hEncoding : job.encoding? with
  | error e => simp [hEncoding, Outcome.fail] at h
  | ok encoding =>
      simp only [hEncoding] at h
      rw [(FileTree.reads_loadRules job).run_bind] at h
      cases hRules : (tree.run device (job.loadRules ·)).1.result with
      | error e => simp [hRules] at h
      | ok rules =>
          simp only [hRules] at h
          rw [(FileTree.reads_readInput encoding input).run_bind] at h
          cases hText : (tree.run device (readInput · encoding input)).1 with
          | error e => simp [hText] at h
          | ok text =>
              simp only [hText, FileTree.run_pure] at h
              obtain ⟨made, hMade, hFits⟩ := Plan.fits_of_make h
              exact ⟨encoding, rules, text, made, rfl, rfl, hText, hMade, hFits⟩

/-- A job that is not prepared leaves the tree as it is. -/
theorem run_handle_of_error
    (h : (tree.run device (job.prepare · input output log)).1.result = .error e) :
    ∃ events, tree.run device (job.handle · (.apply input output log)) =
      (⟨.error e, events⟩, tree) := by
  unfold handle
  rw [FileTree.Reads.run_bind reads_prepare]
  simp only [h]
  exact ⟨_, rfl⟩

/-- A job that is prepared delivers its plan. -/
theorem run_handle_of_ok
    (h : (tree.run device (job.prepare · input output log)).1.result = .ok plan) :
    ∃ events, tree.run device (job.handle · (.apply input output log)) =
      (⟨(tree.run device plan.deliver).1.map fun output =>
          .applied output plan.modifications (plan.log.map Prod.fst), events⟩,
        (tree.run device plan.deliver).2) := by
  unfold handle
  rw [FileTree.Reads.run_bind reads_prepare]
  simp only [h]
  exact ⟨_, rfl⟩

/-- A run that succeeds has saved its log and its output. -/
theorem exists_saved_of_handle
    (h : tree.run device (job.handle · (.apply input output log)) = (⟨.ok result, events⟩, after)) :
    ∃ plan logged, (tree.run device (job.prepare · input output log)).1.result = .ok plan ∧
      FileTree.Saved device plan.log tree logged ∧ FileTree.Saved device plan.output logged after ∧
      result = .applied plan.delivered plan.modifications (plan.log.map Prod.fst) := by
  cases hPlan : (tree.run device (job.prepare · input output log)).1.result with
  | error e =>
      obtain ⟨events, hHandle⟩ := run_handle_of_error hPlan
      simp [hHandle] at h
  | ok plan =>
      obtain ⟨events, hHandle⟩ := run_handle_of_ok hPlan
      have hDelivery := plan.delivery device tree
      rw [hHandle] at h
      generalize tree.run device plan.deliver = outcome at h hDelivery
      cases hDelivery with
      | unlogged => simp [Except.map] at h
      | blocked => simp [Except.map] at h
      | @done logged left hLogged hOutput =>
          obtain ⟨⟨hResult, -⟩, rfl⟩ : (Result.applied plan.delivered plan.modifications
              (plan.log.map Prod.fst) = result ∧ _) ∧ left = after := by
            simpa [Except.map] using h
          exact ⟨plan, logged, rfl, hLogged, hOutput, hResult.symm⟩

/-- A run that fails once its log is saved could not save its output, and its log is withdrawn. -/
theorem exists_blocked_of_handle {logged : FileTree} (hWrites : device.WritesOpened)
    (hPlan : (tree.run device (job.prepare · input output log)).1.result = .ok plan)
    (hLogged : FileTree.Saved device plan.log tree logged)
    (h : tree.run device (job.handle · (.apply input output log)) = (⟨.error e, events⟩, after)) :
    (∃ path fault, e = .file path fault) ∧
      ∃ blocked, FileTree.Widens logged blocked ∧ after = plan.withdraw blocked := by
  obtain ⟨reported, hHandle⟩ := run_handle_of_ok hPlan
  have hDelivery := plan.delivery device tree
  rw [hHandle] at h
  generalize tree.run device plan.deliver = outcome at h hDelivery
  cases hDelivery with
  | unlogged hLog hSave =>
      rw [hLog] at hLogged
      simp [FileTree.Saved, hSave] at hLogged
  | @blocked path content fault other blocked hOther hOutput hSave =>
      obtain ⟨⟨rfl, -⟩, rfl⟩ : (fault = e ∧ _) ∧ plan.withdraw blocked = after := by
        simpa [Except.map] using h
      have hUnsaved := FileTree.run_save_error hSave
      obtain rfl := hOther.unique hLogged
      exact ⟨hUnsaved.exists_file, blocked, (hUnsaved.deepens hWrites).widens, rfl⟩
  | done => simp [Except.map] at h

def desk : FileTree where
  current := []
  nodes := [(["doc.ini".toList], .file (Utf8.encode "[A]\nfoo = 1\n".toList)),
    (["changes.json".toList], .file (Utf8.encode "[]".toList)), (["taken".toList], .directory)]

def rewriting : Job where
  ruleFiles := []
  rules := [⟨"r".toList, "A".toList, "foo".toList, "2".toList, 0, []⟩]
  settings := none
  encoding := none
  report := none

def rewritten : List Modification :=
  [⟨"A".toList, "r".toList, "foo".toList, some "1".toList, "2".toList⟩]

def rewrittenText : Text :=
  "[A]\nfoo = 2".toList

def rewrite (output log : String) : Outcome Result × FileTree :=
  desk.run (.plain []) (rewriting.handle ·
    (.apply (some "doc.ini".toList) (some output.toList) (some log.toList)))

/-- A run that succeeds delivers what it reports. The output that is reported as written is the
edited text of the decoded input in the encoding of the job, and the log is the record of the edit,
unless its path leads to where the output has been written after it. All other files are as they
were. -/
theorem handle_delivers (tree : FileTree) (device : Device) (job : Job)
    (input output log : Option Text) {result : Result} {events : List Event} {after : FileTree}
    (hDone : tree.run device (job.handle · (.apply input output log)) =
      (⟨.ok result, events⟩, after)) :
    ∃ encoding rules text made delivered, job.encoding? = .ok encoding ∧
      (tree.run device (job.loadRules ·)).1.result = .ok rules ∧
      (tree.run device (Job.readInput · encoding input)).1 = .ok text ∧
      (transform rules text).result = .ok made ∧
      result = .applied delivered made.log (job.logPath log) ∧
      delivered = output.elim (.text made.text) .written ∧
      (∀ path, delivered = .written path →
        ∃ bytes, encoding.encode? made.text = some bytes ∧ after.read path = .ok bytes) ∧
      (∀ path, job.logPath log = some path →
        (∀ written, delivered = .written written → after.locate written ≠ after.locate path) →
        after.read path = .ok (Utf8.encode (Modification.logText job.indents made.log))) ∧
      ∀ place, (∀ path, delivered = .written path → after.locate path ≠ .ok place) →
        (∀ path, job.logPath log = some path → after.locate path ≠ .ok place) →
        after.file? place = tree.file? place := by
  obtain ⟨plan, logged, hPlan, hLogged, hOutput, hResult⟩ := exists_saved_of_handle hDone
  obtain ⟨encoding, rules, text, made, hEncoding, hRules, hText, hMade, hFits⟩ :=
    exists_made_of_prepare hPlan
  refine ⟨encoding, rules, text, made, plan.delivered, hEncoding, hRules, hText, hMade, ?_,
    hFits.delivered, ?written, ?logged, ?others⟩
  · rw [hResult, hFits.modifications, hFits.map_fst_log]
  case written =>
    intro path hPath
    obtain ⟨bytes, hBytes⟩ := Plan.delivered_eq_written_iff.mp hPath
    rw [hBytes] at hOutput
    exact ⟨bytes, hFits.encoded path bytes hBytes, hOutput.read⟩
  case logged =>
    intro path hPath hApart
    have hRecord : plan.log =
        some (path, Utf8.encode (Modification.logText job.indents made.log)) := by
      rw [hFits.log, hPath, Option.map_some]
    rw [hRecord] at hLogged
    obtain ⟨place, hPlace, hFiles, -⟩ := FileTree.run_save_ok hLogged
    have hFound : after.locate path = .ok place := hOutput.extends.locate hPlace
    -- The output is saved last and takes the place of the log only if both paths lead there.
    refine FileTree.read_eq_ok hFound ?_
    rw [hOutput.file?_of_ne, hFiles, Function.update_self]
    intro written content hWritten hSame
    have hDelivered := Plan.delivered_eq_written_iff.mpr ⟨content, hWritten⟩
    exact hApart written hDelivered (hSame.trans hFound.symm)
  case others =>
    intro place hNotOutput hNotLog
    rw [hOutput.file?_of_ne, hLogged.file?_of_ne]
    · intro path content hLog hFound
      have hPath : job.logPath log = some path := by rw [← hFits.map_fst_log, hLog, Option.map_some]
      exact hNotLog path hPath (hOutput.extends.locate hFound)
    · intro path content hWritten
      exact hNotOutput path (Plan.delivered_eq_written_iff.mpr ⟨content, hWritten⟩)

/-- The output goes to a new directory and the log beside the document, which stays. -/
theorem handle_delivers_desk :
    ∃ events after, rewrite "out/doc.ini" "changes.json" =
        (⟨.ok (.applied (.written "out/doc.ini".toList) rewritten (some "changes.json".toList)),
          events⟩, after) ∧
      (∃ bytes, after.read "out/doc.ini".toList = .ok bytes) ∧
      after.read "changes.json".toList = .ok (Utf8.encode (Modification.logText true rewritten)) ∧
      after.file? ["doc.ini".toList] = desk.file? ["doc.ini".toList] := by
  have hResult : (rewrite "out/doc.ini" "changes.json").1.result = .ok (.applied
      (.written "out/doc.ini".toList) rewritten (some "changes.json".toList)) := by
    decide +kernel
  have hOutput : (rewrite "out/doc.ini" "changes.json").2.locate "out/doc.ini".toList =
      .ok ["out".toList, "doc.ini".toList] := by
    decide +kernel
  have hLog : (rewrite "out/doc.ini" "changes.json").2.locate "changes.json".toList =
      .ok ["changes.json".toList] := by
    decide +kernel
  have hDone := Outcome.eq_of_result hResult
  refine ⟨_, _, hDone, ?_⟩
  generalize (rewrite "out/doc.ini" "changes.json").2 = after at hOutput hLog hDone ⊢
  obtain ⟨encoding, -, -, made, delivered, -, -, -, -, hReported, -, hWritten, hLogged, hOthers⟩ :=
    handle_delivers desk (.plain []) rewriting _ _ _ hDone
  obtain ⟨rfl, hRecord, -⟩ : Output.written "out/doc.ini".toList = delivered ∧
      rewritten = made.log ∧ _ := by
    simpa using hReported
  refine ⟨?_, ?_, ?_⟩
  · obtain ⟨bytes, -, hBytes⟩ := hWritten _ rfl
    exact ⟨bytes, hBytes⟩
  · rw [hRecord]
    refine hLogged _ rfl fun written hSame => ?_
    obtain rfl := Output.written.inj hSame
    rw [hOutput, hLog]
    decide
  · refine hOthers _ (fun written hSame => ?_) (fun path hSame => ?_)
    · obtain rfl := Output.written.inj hSame
      rw [hOutput]
      decide
    · obtain rfl : "changes.json".toList = path := Option.some.inj hSame
      rw [hLog]
      decide

/-- Where the log and the output lead to one file, the output stands there in the end, although the
log is reported too. -/
theorem handle_output_over_log :
    (rewrite "out.ini" "out.ini").1.result =
        .ok (.applied (.written "out.ini".toList) rewritten (some "out.ini".toList)) ∧
      (rewrite "out.ini" "out.ini").2.read "out.ini".toList = .ok (Utf8.encode rewrittenText) ∧
      Utf8.encode rewrittenText ≠ Utf8.encode (Modification.logText true rewritten) := by
  decide +kernel

/-- A run whose output cannot be saved behind its log fails with a file error and takes the log away
again. Where no file stood in the place of the log, all files are as they were. A file that stood
there is lost. -/
theorem handle_output_blocked (tree : FileTree) (stdin : Bytes) (job : Job)
    (input log : Option Text) (output : Text) {logPath : Text} {plan : Plan} {logged : FileTree}
    {e : Error} {events : List Event} {after : FileTree} (hLog : job.logPath log = some logPath)
    (hPlan : (tree.run (.plain stdin) (job.prepare · input (some output) log)).1.result = .ok plan)
    (hLogged : FileTree.Saved (.plain stdin) plan.log tree logged)
    (hFails : tree.run (.plain stdin) (job.handle · (.apply input (some output) log)) =
      (⟨.error e, events⟩, after)) :
    (∃ path fault, e = .file path fault) ∧
      ∃ place, after.locate logPath = .ok place ∧
        after.file? = Function.update tree.file? place none ∧
        (after.file? = tree.file? ↔ tree.file? place = none) := by
  obtain ⟨hCause, blocked, hBlocked, rfl⟩ := exists_blocked_of_handle
    (Device.writesOpened_plain stdin) hPlan hLogged hFails
  obtain ⟨encoding, rules, text, made, -, -, -, -, hFits⟩ := exists_made_of_prepare hPlan
  have hRecord : plan.log =
      some (logPath, Utf8.encode (Modification.logText job.indents made.log)) := by
    rw [hFits.log, hLog, Option.map_some]
  obtain ⟨place, hPlace, hFiles⟩ := Plan.file?_withdraw hRecord hLogged hBlocked
  refine ⟨hCause, place, hPlace, hFiles, ?_⟩
  rw [hFiles, Function.update_eq_self_iff, eq_comm]

/-- The output cannot be written, and the new log is taken back. -/
theorem handle_output_blocked_desk :
    ∃ e events after, rewrite "taken" "fresh.json" = (⟨.error e, events⟩, after) ∧
      after.file? = desk.file? := by
  have hPlan : (desk.run (.plain []) (rewriting.prepare · (some "doc.ini".toList)
      (some "taken".toList) (some "fresh.json".toList))).1.result = .ok
        { text := rewrittenText
          modifications := rewritten
          output := some ("taken".toList, Utf8.encode rewrittenText)
          log := some ("fresh.json".toList,
            Utf8.encode (Modification.logText true rewritten)) } := by
    decide +kernel
  have hSaved : (desk.run (.plain []) (·.save "fresh.json".toList
      (Utf8.encode (Modification.logText true rewritten)))).1 = .ok () := by
    decide +kernel
  have hResult : (rewrite "taken" "fresh.json").1.result =
      .error (.file "taken".toList .isDirectory) := by
    decide +kernel
  have hFails := Outcome.eq_of_result hResult
  have hLocate : (rewrite "taken" "fresh.json").2.locate "fresh.json".toList =
      .ok ["fresh.json".toList] := by
    decide +kernel
  obtain ⟨-, place, hPlace, -, hSame⟩ :=
    handle_output_blocked desk [] rewriting _ _ _ rfl hPlan (Prod.ext hSaved rfl) hFails
  obtain rfl := Except.ok.inj (hPlace.symm.trans hLocate)
  exact ⟨_, _, _, hFails, hSame.mpr (by decide)⟩

/-- The log of an earlier run is lost where the output of the next one cannot be written. -/
theorem handle_output_blocked_loses_log :
    (rewrite "taken" "changes.json").1.result = .error (.file "taken".toList .isDirectory) ∧
      desk.read "changes.json".toList = .ok (Utf8.encode "[]".toList) ∧
      (rewrite "taken" "changes.json").2.read "changes.json".toList = .error .notFound := by
  decide +kernel

end Job
end Rubric
