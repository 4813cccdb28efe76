import Rubric.Proofs.Document.Layout
import Rubric.Proofs.Text.Terminators

/-! Printing what was read, and reading that again. The printed text differs from the first one in
its terminators alone. A text that ends in an empty line loses this line on the way, since nothing
is printed behind the line feed before it; every other text gives the same document again. -/
namespace Rubric.Document

variable {s : Section}

/-- The lines of what was read are those of the text. -/
theorem flatMap_linesOf_read (text : Text) :
    (read text).flatMap linesOf = Text.physicalLines text := by
  rw [read, flatMap_linesOf_ofLines]

/-- Printing a document that was read unifies the terminators of its text, drops one at the very
end, and changes nothing else. So a text that has line feeds for its only terminators and does not
end in one is printed as it was. -/
theorem print_read (text : Text) :
    print (read text) = Text.withoutLastFeed (Text.unified text) ∧
      ((∀ c ∈ text, c ∈ Text.breaks → c = '\n') → text.getLast? ≠ some '\n' →
        print (read text) = text) := by
  have hPrint : print (read text) = Text.withoutLastFeed (Text.unified text) := by
    rw [print, flatMap_linesOf_read, Text.joinWith_physicalLines]
  refine ⟨hPrint, fun hFeeds hOpen => ?_⟩
  rw [hPrint, Text.unified_eq_self hFeeds, Text.withoutLastFeed_eq_self hOpen]

/-- Lines that end in several ways are printed with line feeds, and a text that has no others stays
as it is. -/
theorem print_read_mixed :
    print (read "; a\r[A]\r\n\nb = 1\u2028\n".toList) = "; a\n[A]\n\nb = 1\n".toList ∧
      (∀ c ∈ "\n[A]\n\nb = 1".toList, c ∈ Text.breaks → c = '\n') ∧
      "\n[A]\n\nb = 1".toList.getLast? ≠ some '\n' ∧
      print (read "\n[A]\n\nb = 1".toList) = "\n[A]\n\nb = 1".toList := by
  obtain ⟨hMixed, -⟩ := print_read "; a\r[A]\r\n\nb = 1\u2028\n".toList
  obtain ⟨-, hFeeds⟩ := print_read "\n[A]\n\nb = 1".toList
  have hOnly : ∀ c ∈ "\n[A]\n\nb = 1".toList, c ∈ Text.breaks → c = '\n' := by
    have hAll : "\n[A]\n\nb = 1".toList.all (fun c => c ∉ Text.breaks || c = '\n') = true := by
      decide
    intro c hc hBreak
    simpa [hBreak] using List.all_eq_true.mp hAll c hc
  have hOpen : "\n[A]\n\nb = 1".toList.getLast? ≠ some '\n' := by decide
  exact ⟨by rw [hMixed]; decide, hOnly, hOpen, hFeeds hOnly hOpen⟩

theorem linesOf_eq_nil_iff : linesOf s = [] ↔ s.isPreamble = true ∧ s.lines = [] := by
  cases hPreamble : s.isPreamble with
  | true => simp [linesOf_of_isPreamble hPreamble]
  | false => simp [linesOf_of_not_isPreamble hPreamble]

/-- A text that ends in an empty line has this line at the end of its document, and reads back
without it from what the document prints. No section is left where the line was all of the text. -/
theorem exists_push_of_getLast?_physicalLines {text : Text}
    (h : (Text.physicalLines text).getLast? = some []) :
    ∃ (earlier : Document) (s : Section), read text = earlier ++ [s.push (.read [])] ∧
      read (print (read text)) =
        if Text.physicalLines text = [[]] then [] else earlier ++ [s] := by
  have hSteady := steady_read text
  have hLast : ((read text).flatMap linesOf).getLast? = some [] := by
    rw [flatMap_linesOf_read, h]
  obtain ⟨earlier, s, line, hRead, hText, hAgain⟩ := hSteady.read_print_push hLast
  rw [hRead] at hSteady
  obtain ⟨-, hPushed, hPreamble⟩ := steady_concat_iff.mp hSteady
  have hLine : line = .read [] := by
    rw [← hText, (hPushed.lines line (by simp [Section.push])).read]
  have hLines : Text.physicalLines text = earlier.flatMap linesOf ++ linesOf s ++ [[]] := by
    rw [← flatMap_linesOf_read, hRead, List.flatMap_append, List.flatMap_singleton, linesOf_push,
      hText, List.append_assoc]
  refine ⟨earlier, s, by rw [hRead, hLine], ?_⟩
  rw [hAgain, hLines]
  by_cases hAlone : s.isPreamble = true ∧ s.lines = []
  · have hEarlier : earlier = [] := (hPreamble hAlone.1).1
    rw [if_pos hAlone, hEarlier, linesOf_eq_nil_iff.mpr hAlone]
    rfl
  · have hMore : linesOf s ≠ [] := fun hNil => hAlone (linesOf_eq_nil_iff.mp hNil)
    have hSeveral : earlier.flatMap linesOf ++ linesOf s ++ [[]] ≠ [[]] := by
      intro hAll
      have hNone := List.append_left_eq_self.mp hAll
      exact hMore (List.append_eq_nil_iff.mp hNone).2
    rw [if_neg hAlone, if_neg hSeveral]

/-- A text gives the same document again after printing exactly when it has no line or its last line
is not empty. Otherwise the second reading gives the first one without the empty line at its end,
and without a section where that line was all of the text. -/
theorem read_print_read (text : Text) :
    (read (print (read text)) = read text ↔ (Text.physicalLines text).getLast? ≠ some []) ∧
      ((Text.physicalLines text).getLast? = some [] →
        ∃ (earlier : Document) (s : Section), read text = earlier ++ [s.push (.read [])] ∧
          read (print (read text)) =
            if Text.physicalLines text = [[]] then [] else earlier ++ [s]) := by
  refine ⟨⟨?_, ?_⟩, exists_push_of_getLast?_physicalLines⟩
  · intro hSame hLast
    obtain ⟨earlier, s, hRead, hAgain⟩ := exists_push_of_getLast?_physicalLines hLast
    rw [hAgain, hRead] at hSame
    split at hSame
    next => simp at hSame
    next =>
      have hSection : s = s.push (.read []) := by simpa using hSame
      have hLength : s.lines.length = s.lines.length + 1 := by
        simpa [Section.push] using congrArg (·.lines.length) hSection
      omega
  · intro hLast
    have hPrinted : ((read text).flatMap linesOf).getLast? ≠ some [] := by
      rw [flatMap_linesOf_read]
      exact hLast
    exact (steady_read text).read_print_eq hPrinted

/-- The empty line at the end is lost when it is printed. -/
theorem read_print_read_blank :
    (Text.physicalLines "a\n[A]\r\n\n".toList).getLast? = some [] ∧
      read (print (read "a\n[A]\r\n\n".toList)) ≠ read "a\n[A]\r\n\n".toList ∧
      ∃ (earlier : Document) (s : Section),
        read "a\n[A]\r\n\n".toList = earlier ++ [s.push (.read [])] ∧
        read (print (read "a\n[A]\r\n\n".toList)) = earlier ++ [s] := by
  have hLast : (Text.physicalLines "a\n[A]\r\n\n".toList).getLast? = some [] := by decide
  have hMore : Text.physicalLines "a\n[A]\r\n\n".toList ≠ [[]] := by decide
  obtain ⟨hSame, hEmpty⟩ := read_print_read "a\n[A]\r\n\n".toList
  obtain ⟨earlier, s, hRead, hAgain⟩ := hEmpty hLast
  rw [if_neg hMore] at hAgain
  exact ⟨hLast, fun h => hSame.mp h hLast, earlier, s, hRead, hAgain⟩

end Rubric.Document
