import Rubric.Proofs.Document.Layout
import Rubric.Proofs.Edit.Ledger

/-! Editing a text in parts. A header begins a section of its own and rules take each section by
itself, so a text can be cut at a line feed before a header: its parts are edited as the whole is,
and the line feed joins them again. -/
namespace Rubric

/-- The first physical line of a text opens a section. -/
def Text.StartsSection (t : Text) : Prop :=
  ∃ header ∈ (physicalLines t).head?, header.HeaderShaped

namespace Document

variable {s : Section} {log : List Modification} {rules : List Rule} {text upper lower : Text}

/-- Two texts are read as one where the lower one starts with a header and the upper one does not
end in a break. -/
theorem read_append (hUpper : upper ≠ [])
    (hEnd : ∀ c, upper.getLast? = some c → Text.isBreak c = false) (hLower : lower.StartsSection) :
    read (upper ++ '\n' :: lower) = read upper ++ read lower := by
  obtain ⟨header, hHeader, hShape⟩ := hLower
  obtain ⟨rest, hLines⟩ := List.head?_eq_some_iff.mp hHeader
  rw [read, Text.physicalLines_append_of_getLast? hUpper hEnd, hLines, ofLines_append hShape,
    read, read, hLines]

/-- Writing a log takes away no line. -/
theorem length_linesOf_le_after : (linesOf s).length ≤ (linesOf (s.after log)).length := by
  have hLength : s.lines.length ≤ (s.after log).lines.length := Section.length_lines_le_after
  simpa [linesOf] using hLength

/-- Rules take no line away, so a text that has lines still has some after them. -/
theorem flatMap_linesOf_apply_ne_nil (hCompiles : ∀ r ∈ rules, r.Compiles) (hText : text ≠ []) :
    ((read text).apply rules).document.flatMap linesOf ≠ [] := by
  intro hNone
  have hLines : (read text).flatMap linesOf = [] := by
    rw [List.flatMap_eq_nil_iff]
    intro s hs
    rw [apply_document hCompiles, List.flatMap_eq_nil_iff] at hNone
    have hAfter := hNone _ (List.mem_map_of_mem hs)
    have hLength : (linesOf s).length ≤ (linesOf (s.after (s.sublog rules))).length :=
      length_linesOf_le_after
    rw [hAfter, List.length_nil, Nat.le_zero, List.length_eq_zero_iff] at hLength
    exact hLength
  rw [read, flatMap_linesOf_ofLines, Text.physicalLines_eq_nil_iff] at hLines
  exact hText hLines

end Document

/-- If the rules compile then a transform prints the document that they leave, with the sub-logs of
all sections. -/
theorem transform_result {rules : List Rule} (hCompiles : ∀ r ∈ rules, r.Compiles) (text : Text) :
    (transform rules text).result =
      .ok ⟨((Document.read text).apply rules).document.print,
        (Document.read text).flatMap fun s => s.sublog rules⟩ := by
  simp [transform, Document.apply_result hCompiles, Except.map]

/-- A text is edited as its parts are. Where one part ends in no break and the next one begins with
a header, the two with a line feed between them come out as the two results with a line feed between
them, and the writes to the first part are recorded before those to the second. -/
theorem transform_compositional (rules : List Rule) (hCompiles : ∀ r ∈ rules, r.Compiles)
    (upper lower : Text) (hUpper : upper ≠ [])
    (hEnd : ∀ c, upper.getLast? = some c → Text.isBreak c = false)
    (hLower : lower.StartsSection) :
    ∃ first second, (transform rules upper).result = .ok first ∧
      (transform rules lower).result = .ok second ∧
      (transform rules (upper ++ '\n' :: lower)).result =
        .ok ⟨first.text ++ '\n' :: second.text, first.log ++ second.log⟩ := by
  have hSome : lower ≠ [] := by
    rintro rfl
    obtain ⟨header, hHeader, -⟩ := hLower
    cases hHeader
  refine ⟨_, _, transform_result hCompiles upper, transform_result hCompiles lower, ?_⟩
  have hDocument : ((Document.read (upper ++ '\n' :: lower)).apply rules).document =
      ((Document.read upper).apply rules).document ++
        ((Document.read lower).apply rules).document := by
    simp only [Document.apply_document hCompiles, Document.read_append hUpper hEnd hLower,
      List.map_append]
  have hPrint : ((Document.read (upper ++ '\n' :: lower)).apply rules).document.print =
      ((Document.read upper).apply rules).document.print ++
        '\n' :: ((Document.read lower).apply rules).document.print := by
    rw [hDocument]
    exact Document.print_append (Document.flatMap_linesOf_apply_ne_nil hCompiles hUpper)
      (Document.flatMap_linesOf_apply_ne_nil hCompiles hSome)
  rw [transform_result hCompiles, hPrint, Document.read_append hUpper hEnd hLower,
    List.flatMap_append]

/-- The upper part of a text whose lower part is the contested section. -/
def upperPart : Text :=
  "; note\n[A]\nfoo=1".toList

/-- The text of the contested section, with a break of two characters behind its header. -/
def lowerPart : Text :=
  "[A]\r\n; note\nfoo=1\nfoo = 3\n".toList

/-- Two texts with sections of one name, and what is made of them alone and joined. -/
theorem transform_compositional_rivals :
    (∀ r ∈ Rule.rivals, r.Compiles) ∧
      (∀ c, upperPart.getLast? = some c → Text.isBreak c = false) ∧ lowerPart.StartsSection ∧
      ∃ first second, (transform Rule.rivals upperPart).result = .ok first ∧
        (transform Rule.rivals lowerPart).result = .ok second ∧
        first.text = "; note\n[A]\nfoo = 2\nrun = y".toList ∧
        second = ⟨"[A]\n; note\nfoo = 2\nfoo = 3\nrun = y".toList, Section.contestedLog⟩ ∧
        (transform Rule.rivals (upperPart ++ '\n' :: lowerPart)).result =
          .ok ⟨"; note\n[A]\nfoo = 2\nrun = y\n[A]\n; note\nfoo = 2\nfoo = 3\nrun = y".toList,
            first.log ++ Section.contestedLog⟩ := by
  have hEnd : ∀ c, upperPart.getLast? = some c → Text.isBreak c = false := by
    intro c hc
    have hLast : upperPart.getLast? = some '1' := by decide
    obtain rfl := Option.some.inj (hLast.symm.trans hc)
    decide
  have hLower : lowerPart.StartsSection := ⟨"[A]".toList, by decide, by decide⟩
  obtain ⟨first, second, hFirst, hSecond, hBoth⟩ :=
    transform_compositional Rule.rivals Rule.compiles_rivals _ _ (by decide) hEnd hLower
  have hText : first.text = "; note\n[A]\nfoo = 2\nrun = y".toList := by
    rw [transform_result Rule.compiles_rivals,
      Document.apply_document Rule.compiles_rivals] at hFirst
    obtain rfl := Except.ok.inj hFirst
    simp only [Section.sublog_eq_entries Rule.compiles_rivals, Rule.ranked_rivals]
    decide
  have hRead : Document.read lowerPart = [.contested] := by decide
  have hLowerResult : (transform Rule.rivals lowerPart).result =
      .ok ⟨"[A]\n; note\nfoo = 2\nfoo = 3\nrun = y".toList, Section.contestedLog⟩ := by
    rw [transform_result Rule.compiles_rivals, Document.apply_document Rule.compiles_rivals, hRead,
      List.flatMap_singleton, List.map_singleton, Section.sublog_rivals_contested]
    rfl
  obtain rfl := Except.ok.inj (hSecond.symm.trans hLowerResult)
  refine ⟨Rule.compiles_rivals, hEnd, hLower, first, _, hFirst, hSecond, hText, rfl, ?_⟩
  rw [hBoth, hText]
  rfl

end Rubric
