import Rubric.Proofs.Encoding.Unicode
import Rubric.Proofs.Run.Showing

/-! One application of rules with an output and without. Both runs make the same of the same input,
so what one writes to its output the other one shows, but for a line feed at the end. Where every
character has bytes of its own, so does the shown text: it is the written text, and the line feed
that it may end with has its bytes behind those. -/
namespace Rubric

/-- A text is shown with a line feed at its end, unless it has one or is empty. -/
theorem Transformed.shown_eq (text : Text) : shown text =
    text ++ if text ≠ [] ∧ text.getLast? ≠ some '\n' then ['\n'] else [] := by
  cases text with
  | nil => rfl
  | cons c rest => by_cases hEnd : (c :: rest).getLast? = some '\n' <;> simp [shown, hEnd]

namespace Job

variable {job : Job} {device : Device} {tree after : FileTree} {input output log : Option Text}
  {encoding used : Encoding} {made other : Transformed} {result : Result} {events : List Event}

/-- What an application of rules makes of its input before it delivers anything: the edited text of
the input in the encoding of the job, under the rules that the job loads. -/
structure Makes (job : Job) (tree : FileTree) (device : Device) (input : Option Text)
    (encoding : Encoding) (made : Transformed) : Prop where
  configured : job.encoding? = .ok encoding
  edited : ∃ rules text, (tree.run device (job.loadRules ·)).1.result = .ok rules ∧
    (tree.run device (Job.readInput · encoding input)).1 = .ok text ∧
    (transform rules text).result = .ok made

/-- What is made depends neither on the output nor on the log. -/
theorem Makes.unique (h : job.Makes tree device input encoding made)
    (hOther : job.Makes tree device input used other) : encoding = used ∧ made = other := by
  obtain rfl := Except.ok.inj (h.configured.symm.trans hOther.configured)
  obtain ⟨rules, text, hRules, hText, hMade⟩ := h.edited
  obtain ⟨others, again, hOthers, hAgain, hOtherMade⟩ := hOther.edited
  obtain rfl := Except.ok.inj (hRules.symm.trans hOthers)
  obtain rfl := Except.ok.inj (hText.symm.trans hAgain)
  exact ⟨rfl, Except.ok.inj (hMade.symm.trans hOtherMade)⟩

/-- A run that succeeds reports on what it has made, and its output has the bytes of that. -/
theorem exists_makes_of_handle
    (h : tree.run device (job.handle · (.apply input output log)) = (⟨.ok result, events⟩, after)) :
    ∃ encoding made, job.Makes tree device input encoding made ∧
      result = .applied (output.elim (.text made.text) .written) made.log (job.logPath log) ∧
      ∀ path, output = some path →
        ∃ bytes, encoding.encode? made.text = some bytes ∧ after.read path = .ok bytes := by
  obtain ⟨plan, logged, hPlan, -, hOutput, rfl⟩ := exists_saved_of_handle h
  obtain ⟨encoding, rules, text, made, hEncoding, hRules, hText, hMade, hFits⟩ :=
    exists_made_of_prepare hPlan
  refine ⟨encoding, made, ⟨hEncoding, rules, text, hRules, hText, hMade⟩, ?_, ?_⟩
  · rw [hFits.delivered, hFits.modifications, hFits.map_fst_log]
  · intro path hPath
    have hWritten : plan.delivered = .written path := by
      rw [hFits.delivered, hPath, Option.elim_some]
    obtain ⟨bytes, hBytes⟩ := Plan.delivered_eq_written_iff.mp hWritten
    rw [hBytes] at hOutput
    exact ⟨bytes, hFits.encoded path bytes hBytes, hOutput.read⟩

end Job

namespace CommandLine

variable {job : Job} {encoding : Encoding} {text : Text} {bytes : Bytes}
  {modifications : List Modification} {log : Option Text} {events : List Event}

/-- A text that has been edited is shown in the encoding of the job. -/
theorem succeeded_of_encoded (hEncoding : job.encoding? = .ok encoding)
    (hBytes : encoding.encode? (Transformed.shown text) = some bytes) :
    (succeeded job (.applied (.text text) modifications log) events).exitCode = success ∧
      (succeeded job (.applied (.text text) modifications log) events).stdout = bytes := by
  have hShown : shownBytes job (.applied (.text text) modifications log) = .ok bytes := by
    simp [shownBytes, hEncoding, Result.shown, hBytes, bind, Except.bind]
  simp [succeeded, hShown]

/-- The standard output and the output file agree. Where a run on a tree succeeds without an output
and with one, in an encoding of all characters, both record the same modifications of the same text.
The file has the bytes of the text, and so has the standard output, with a line feed behind them if
the text does not end in one and is not empty. -/
theorem perform_shows_written (tree : FileTree) (device : Device) (job : Job)
    (input log : Option Text) (path : Text) {encoding : Encoding} {shown written : Result}
    {shownEvents writtenEvents : List Event} {left after : FileTree}
    (hEncoding : job.encoding? = .ok encoding) (hUnicode : encoding ∈ Encoding.unicode)
    (hShown : tree.run device (job.handle · (.apply input none log)) =
      (⟨.ok shown, shownEvents⟩, left))
    (hWritten : tree.run device (job.handle · (.apply input (some path) log)) =
      (⟨.ok written, writtenEvents⟩, after)) :
    ∃ text modifications bytes feed report,
      shown = .applied (.text text) modifications (job.logPath log) ∧
      written = .applied (.written path) modifications (job.logPath log) ∧
      encoding.encode? text = some bytes ∧ encoding.encode? ['\n'] = some feed ∧
      after.read path = .ok bytes ∧
      tree.run device (perform · job (.apply input none log)) = (report, left) ∧
      report.exitCode = success ∧
      report.stdout = bytes ++ if text ≠ [] ∧ text.getLast? ≠ some '\n' then feed else [] := by
  obtain ⟨used, made, hMakes, rfl, -⟩ := Job.exists_makes_of_handle hShown
  obtain ⟨other, again, hAgain, rfl, hFile⟩ := Job.exists_makes_of_handle hWritten
  obtain ⟨rfl, rfl⟩ := hMakes.unique hAgain
  obtain rfl := Except.ok.inj (hMakes.configured.symm.trans hEncoding)
  obtain ⟨bytesOf, hBytesOf⟩ := Encoding.exists_encode?_eq hUnicode
  obtain ⟨bytes, hBytes, hRead⟩ := hFile path rfl
  obtain rfl : made.text.flatMap bytesOf = bytes := by simpa [hBytesOf] using hBytes
  have hShownBytes : used.encode? (Transformed.shown made.text) =
      some (made.text.flatMap bytesOf ++
        if made.text ≠ [] ∧ made.text.getLast? ≠ some '\n' then ['\n'].flatMap bytesOf
        else []) := by
    rw [hBytesOf, Transformed.shown_eq, List.flatMap_append]
    split <;> rfl
  obtain ⟨hExit, hStdout⟩ := succeeded_of_encoded hEncoding hShownBytes
  exact ⟨made.text, made.log, _, _, _, rfl, rfl, hBytesOf _, hBytesOf _, hRead,
    run_perform_of_ok hShown, hExit, hStdout⟩

/-- A tree with a document in UTF-16. -/
def wideDesk : FileTree where
  current := []
  nodes := [(["doc.ini".toList], .file (Utf16.encode .lowFirst "[A]\nfoo = 1\n".toList))]

def wide : Job :=
  { Job.rewriting with encoding := some "utf-16le".toList }

/-- In a wide encoding the added line feed is a wide one too. -/
theorem perform_shows_written_wide :
    wide.encoding? = .ok (.utf16 .lowFirst) ∧
      ∃ shownEvents writtenEvents left after,
        wideDesk.run (.plain []) (wide.handle · (.apply (some "doc.ini".toList) none none)) =
          (⟨.ok (.applied (.text Job.rewrittenText) Job.rewritten none), shownEvents⟩, left) ∧
        wideDesk.run (.plain []) (wide.handle ·
            (.apply (some "doc.ini".toList) (some "out.ini".toList) none)) =
          (⟨.ok (.applied (.written "out.ini".toList) Job.rewritten none), writtenEvents⟩, after) ∧
        after.read "out.ini".toList = .ok (Utf16.encode .lowFirst Job.rewrittenText) ∧
        ∃ report, wideDesk.run (.plain [])
              (perform · wide (.apply (some "doc.ini".toList) none none)) = (report, left) ∧
          report.stdout = Utf16.encode .lowFirst Job.rewrittenText ++ [0x0A, 0x00] := by
  have hEncoding : wide.encoding? = .ok (.utf16 .lowFirst) := by decide +kernel
  have hShown : (wideDesk.run (.plain []) (wide.handle ·
      (.apply (some "doc.ini".toList) none none))).1.result =
        .ok (.applied (.text Job.rewrittenText) Job.rewritten none) := by
    decide +kernel
  have hWritten : (wideDesk.run (.plain []) (wide.handle ·
      (.apply (some "doc.ini".toList) (some "out.ini".toList) none))).1.result =
        .ok (.applied (.written "out.ini".toList) Job.rewritten none) := by
    decide +kernel
  obtain ⟨text, modifications, bytes, feed, report, hText, -, hBytes, hFeed, hRead, hReport, -,
    hStdout⟩ := perform_shows_written wideDesk (.plain []) wide _ _ _ hEncoding (by decide)
      (Outcome.eq_of_result hShown) (Outcome.eq_of_result hWritten)
  obtain ⟨rfl, -⟩ : Job.rewrittenText = text ∧ _ := by simpa using hText
  obtain rfl := Option.some.inj hBytes
  obtain rfl := Option.some.inj hFeed
  refine ⟨hEncoding, _, _, _, _, Outcome.eq_of_result hShown, Outcome.eq_of_result hWritten, hRead,
    report, hReport, ?_⟩
  rw [hStdout, if_pos (by decide)]
  rfl

end CommandLine
end Rubric
