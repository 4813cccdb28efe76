import Rubric.CommandLine.Program
import Rubric.Proofs.Run.Handling

/-! Showing what an application of rules comes to. The text for the standard output is encoded once
the run is over, so where it has no bytes the run has failed, but its log has been written. -/
namespace Rubric.CommandLine

variable {job : Job} {device : Device} {tree after : FileTree} {action : Action} {result : Result}
  {events : List Event} {encoding : Encoding}

/-- A job that went through is shown as it was handled. -/
theorem run_perform_of_ok
    (h : tree.run device (job.handle · action) = (⟨.ok result, events⟩, after)) :
    tree.run device (perform · job action) = (succeeded job result events, after) := by
  unfold perform
  rw [FileTree.run_bind, h]
  rfl

/-- A text without a form in the encoding cannot be shown. -/
theorem succeeded_of_unencodable {text : Text} {modifications : List Modification}
    {log : Option Text} (hEncoding : job.encoding? = .ok encoding)
    (hLacks : encoding.encode? (Transformed.shown text) = none) :
    succeeded job (.applied (.text text) modifications log) events =
      failed (.unencodable "stdout".toList encoding.name) events := by
  simp [succeeded, shownBytes, hEncoding, Result.shown, hLacks, bind, Except.bind]

/-- A text for the standard output that the encoding of the job cannot represent fails the run after
its log has been saved. Nothing is written where there is no log to save. Where there is one, it
stays, and all other files are as they were. -/
theorem perform_unencodable (tree : FileTree) (device : Device) (job : Job)
    (input log : Option Text) {result : Result} {events : List Event} {after : FileTree}
    {encoding : Encoding}
    (hHandled : tree.run device (job.handle · (.apply input none log)) =
      (⟨.ok result, events⟩, after))
    (hEncoding : job.encoding? = .ok encoding) (hLacks : encoding.encode? result.shown = none) :
    tree.run device (perform · job (.apply input none log)) =
        (failed (.unencodable "stdout".toList encoding.name) events, after) ∧
      (job.logPath log = none → after = tree) ∧
      ∀ path, job.logPath log = some path →
        ∃ text modifications place, result = .applied (.text text) modifications (some path) ∧
          after.locate path = .ok place ∧
          after.file? = Function.update tree.file? place
            (some (Utf8.encode (Modification.logText job.indents modifications))) ∧
          (after.file? = tree.file? ↔ tree.file? place =
            some (Utf8.encode (Modification.logText job.indents modifications))) := by
  obtain ⟨plan, logged, hPlan, hLogged, hOutput, rfl⟩ := Job.exists_saved_of_handle hHandled
  obtain ⟨used, rules, text, made, -, -, -, -, hFits⟩ := Job.exists_made_of_prepare hPlan
  have hText : plan.delivered = .text made.text := hFits.delivered
  have hNoOutput : plan.output = none := Option.map_eq_none_iff.mp hFits.target
  rw [hNoOutput] at hOutput
  obtain rfl : after = logged := hOutput
  rw [hText] at hHandled hLacks ⊢
  refine ⟨?_, ?_, ?_⟩
  · rw [run_perform_of_ok hHandled, succeeded_of_unencodable hEncoding hLacks]
  · intro hNone
    rw [hFits.log, hNone] at hLogged
    exact hLogged
  · intro path hPath
    rw [hFits.log, hPath] at hLogged
    obtain ⟨place, hPlace, hFiles, -⟩ := FileTree.run_save_ok hLogged
    refine ⟨made.text, made.log, place, ?_, hPlace, hFiles, ?_⟩
    · rw [hFits.modifications, hFits.map_fst_log, hPath]
    · rw [hFiles, Function.update_eq_self_iff, eq_comm]

/-- A tree with a document and a rule file, whose rule writes a value that few encodings have. -/
def bench : FileTree where
  current := []
  nodes := [(["doc.ini".toList], .file (Utf8.encode "[A]\nfoo = 1\n".toList)),
    (["rules.json".toList], .file (Utf8.encode
      ("[\x7b\"name\": \"r\", \"section_pattern\": \"A\", " ++
        "\"action_key\": \"foo\", \"action_value\": \"日本\"\x7d]").toList))]

def narrow : Job where
  ruleFiles := ["rules.json".toList]
  rules := []
  settings := none
  encoding := some "x-user-defined".toList
  report := none

def narrowLog : List Modification :=
  [⟨"A".toList, "r".toList, "foo".toList, some "1".toList, "日本".toList⟩]

def narrowText : Text :=
  "[A]\nfoo = 日本".toList

/-- The application of the rule to the document, for the standard output and with a log. -/
def narrowAction : Action :=
  .apply (some "doc.ini".toList) none (some "changes.json".toList)

def narrowArguments : List Text :=
  ["-i", "doc.ini", "-r", "rules.json", "--log", "changes.json", "--encoding",
    "x-user-defined"].map String.toList

/-- The log was written by the time the text turns out to be unencodable. -/
theorem perform_unencodable_bench :
    ∃ events after, bench.run (.plain []) (narrow.handle · narrowAction) =
        (⟨.ok (.applied (.text narrowText) narrowLog (some "changes.json".toList)), events⟩,
          after) ∧
      bench.run (.plain []) (perform · narrow narrowAction) =
        (failed (.unencodable "stdout".toList "x-user-defined".toList) events, after) ∧
      after.file? ≠ bench.file? := by
  have hResult : (bench.run (.plain []) (narrow.handle · narrowAction)).1.result =
      .ok (.applied (.text narrowText) narrowLog (some "changes.json".toList)) := by
    decide +kernel
  have hLocate :
      (bench.run (.plain []) (narrow.handle · narrowAction)).2.locate "changes.json".toList =
        .ok ["changes.json".toList] := by
    decide +kernel
  have hHandled := Outcome.eq_of_result hResult
  have hEncoding : narrow.encoding? = .ok .userDefined := by decide +kernel
  have hLacks : Encoding.userDefined.encode? (Transformed.shown narrowText) = none := by
    decide +kernel
  obtain ⟨hReport, -, hLogged⟩ :=
    perform_unencodable bench (.plain []) narrow _ _ hHandled hEncoding hLacks
  obtain ⟨-, modifications, place, -, hPlace, -, hSame⟩ := hLogged _ rfl
  obtain rfl := Except.ok.inj (hPlace.symm.trans hLocate)
  refine ⟨_, _, hHandled, hReport, fun hKept => ?_⟩
  have hMissing : bench.file? ["changes.json".toList] = none := by decide
  rw [hMissing] at hSame
  exact Option.some_ne_none _ (hSame.mp hKept).symm

/-- The program fails on that value and has shown nothing, but a log is there that was not there
before. -/
theorem run_unencodable_leaves_log :
    (bench.run (.plain []) (run · ⟨[], none, "/".toList⟩ narrowArguments)).1.exitCode = failure ∧
      (bench.run (.plain []) (run · ⟨[], none, "/".toList⟩ narrowArguments)).1.stdout = [] ∧
      (bench.run (.plain []) (run · ⟨[], none, "/".toList⟩ narrowArguments)).1.stderr =
        complaint (.unencodable "stdout".toList "x-user-defined".toList) ∧
      bench.read "changes.json".toList = .error .notFound ∧
      (bench.run (.plain [])
          (run · ⟨[], none, "/".toList⟩ narrowArguments)).2.read "changes.json".toList =
        .ok (Utf8.encode (Modification.logText true narrowLog)) := by
  decide +kernel

end Rubric.CommandLine
