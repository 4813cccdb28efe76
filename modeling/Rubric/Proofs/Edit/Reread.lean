import Rubric.Proofs.Document.Layout
import Rubric.Proofs.Edit.Winners
import Rubric.Run.Basic

/-! Reading an edited document again. Where rules write only lines that read back, the printed text
holds the document as the rules left it, so a next run starts from where this one stopped. -/
namespace Rubric

/-- What a rule writes reads back: its key and its value stand on one line and are trimmed, the key
has no equals sign, and the line they make opens no section. -/
@[mk_iff] structure Rule.Writable (r : Rule) : Prop where
  keyUnbroken : Text.Unbroken r.key
  valueUnbroken : Text.Unbroken r.value
  keyTrimmed : Text.trim r.key = r.key
  valueTrimmed : Text.trim r.value = r.value
  keyPlain : '=' ∉ r.key
  linePlain : ¬Text.HeaderShaped (Line.written r.key r.value)

instance (r : Rule) : Decidable r.Writable :=
  decidable_of_iff' _ (Rule.writable_iff r)

theorem Rule.Writable.steady {r : Rule} (h : r.Writable) : (Line.ofPair r.key r.value).Steady where
  unbroken := by
    intro c hc
    simp only [Line.ofPair, Line.written, List.mem_append, or_assoc] at hc
    rcases hc with hc | hc | hc
    · exact h.keyUnbroken c hc
    · exact (by decide : Text.Unbroken " = ".toList) c hc
    · exact h.valueUnbroken c hc
  plain := Section.nameOfHeader?_eq_none_iff.mpr h.linePlain
  read := Line.read_written h.keyPlain h.keyTrimmed h.valueTrimmed

namespace Section

variable {s : Section} {log : List Modification}

/-- Writes whose lines read back leave a section that reads back. -/
theorem Steady.after (h : s.Steady) (hLog : ∀ m ∈ log, m.line.Steady) : (s.after log).Steady where
  header := by simpa using h.header
  lines := by
    intro line hLine
    rcases mem_lines_or_of_mem_after hLine with hOld | ⟨m, hm, rfl⟩
    · exact h.lines line hOld
    · exact hLog m hm

end Section

namespace Document

variable {document : Document} {rules : List Rule}

/-- Rules that write only lines that read back leave a document that reads back. -/
theorem Steady.apply (h : document.Steady) (hCompiles : ∀ r ∈ rules, r.Compiles)
    (hWritable : ∀ r ∈ rules, r.Writable) : (document.apply rules).document.Steady := by
  have hLog : ∀ s : Section, ∀ m ∈ s.sublog rules, m.line.Steady := by
    intro s m hm
    obtain ⟨r, hr, hMade⟩ := Section.exists_made_of_mem_sublog hCompiles hm
    rw [← Modification.ofPair_eq_line, hMade.key, hMade.value]
    exact (hWritable r hr).steady
  rw [apply_document hCompiles]
  exact h.map (fun _ => Section.isPreamble_after) (fun s _ hSteady => hSteady.after (hLog s))
    fun _ => Section.lines_after_ne_nil

end Document

/-- What is shown of joined lines has the same lines: a line feed is added only where the last line
has none yet. -/
theorem Text.physicalLines_shown {lines : List Text} (h : ∀ line ∈ lines, Unbroken line) :
    physicalLines (Transformed.shown (joinWith '\n' lines)) =
      physicalLines (joinWith '\n' lines) := by
  rw [Transformed.shown]
  split
  next => rfl
  next hOpen =>
    obtain ⟨hText, hEnd⟩ : joinWith '\n' lines ≠ [] ∧
        (joinWith '\n' lines).getLast? ≠ some '\n' := by
      simpa using hOpen
    have hLines : lines ≠ [] := by
      rintro rfl
      exact hText rfl
    have hLast : lines.getLast? ≠ some [] := by
      intro hLast
      obtain ⟨front, rfl⟩ := List.getLast?_eq_some_iff.mp hLast
      by_cases hFront : front = []
      · subst hFront
        exact hText rfl
      · simp [joinWith_concat_nil hFront] at hEnd
    have hMore : ∀ line ∈ lines ++ [[]], Unbroken line := by
      simpa [or_imp, forall_and, unbroken_nil] using h
    rw [← joinWith_concat_nil hLines, physicalLines_joinWith hMore, settled_concat_nil,
      physicalLines_joinWith h, settled_of_getLast? hLast]

/-- An edited document reads back as the rules left it, as long as they write only lines that read
back. The text does not show an empty line at its end: that line is not read back, nor is a preamble
that has no other line. The text on the standard output reads as the edited text does. -/
theorem transform_reread (text : Text) (rules : List Rule) (hCompiles : ∀ r ∈ rules, r.Compiles)
    (hWritable : ∀ r ∈ rules, r.Writable) {left : Document}
    (hLeft : ((Document.read text).apply rules).document = left) :
    ∃ made, (transform rules text).result = .ok made ∧
      ((left.flatMap Document.linesOf).getLast? ≠ some [] → Document.read made.text = left) ∧
      ((left.flatMap Document.linesOf).getLast? = some [] →
        ∃ (earlier : Document) (s : Section) (line : Line),
          left = earlier ++ [s.push line] ∧ line.text = [] ∧
          Document.read made.text =
            if s.isPreamble = true ∧ s.lines = [] then earlier else earlier ++ [s]) ∧
      ∀ modifications log,
        Document.read (Result.shown (.applied (.text made.text) modifications log)) =
          Document.read made.text := by
  have hSteady : left.Steady := hLeft ▸ (Document.steady_read text).apply hCompiles hWritable
  refine ⟨⟨left.print, (Document.read text).flatMap fun s => s.sublog rules⟩, ?_,
    hSteady.read_print_eq, hSteady.read_print_push, ?_⟩
  · simp [transform, Document.apply_result hCompiles, hLeft, Except.map]
  · intro modifications log
    simp only [Result.shown, Document.read, Document.print]
    rw [Text.physicalLines_shown hSteady.unbroken]

/-- The text that was made reads as the section with its log. -/
theorem transform_reread_rivals :
    (∀ r ∈ Rule.rivals, r.Compiles) ∧ (∀ r ∈ Rule.rivals, r.Writable) ∧
      ∃ made, (transform Rule.rivals "[A]\n; note\nfoo=1\nfoo = 3\n".toList).result = .ok made ∧
        Document.read made.text = [Section.contested.after Section.contestedLog] := by
  have hWritable : ∀ r ∈ Rule.rivals, r.Writable := by decide
  have hRead : Document.read "[A]\n; note\nfoo=1\nfoo = 3\n".toList = [.contested] := by decide
  have hLeft : ((Document.read "[A]\n; note\nfoo=1\nfoo = 3\n".toList).apply
      Rule.rivals).document = [Section.contested.after Section.contestedLog] := by
    rw [hRead, Document.apply_document Rule.compiles_rivals, List.map_singleton,
      Section.sublog_rivals_contested]
  obtain ⟨made, hMade, hSame, -, -⟩ :=
    transform_reread _ Rule.rivals Rule.compiles_rivals hWritable hLeft
  exact ⟨Rule.compiles_rivals, hWritable, made, hMade, hSame (by decide)⟩

end Rubric
