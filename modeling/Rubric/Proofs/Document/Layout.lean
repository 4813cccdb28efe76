import Rubric.Proofs.Text.Lines
import Rubric.Proofs.Text.Trim

/-! Documents that read back. What reading makes of a text prints to lines that group into the same
sections again, and so does every document whose headers and lines each read back by themselves. -/
namespace Rubric

/-- The trimmed text starts with an opening and ends with a closing bracket. -/
def Text.HeaderShaped (t : Text) : Prop :=
  (trim t).head? = some '[' ∧ (trim t).getLast? = some ']'

instance (t : Text) : Decidable t.HeaderShaped :=
  inferInstanceAs (Decidable (_ ∧ _))

/-- A line that reads back: its text holds no break, opens no section and gives its pair. -/
structure Line.Steady (line : Line) : Prop where
  unbroken : Text.Unbroken line.text
  plain : Section.nameOfHeader? line.text = none
  read : .read line.text = line

/-- A section that reads back: its header opens a section of its name, and its lines read back. The
preamble has no header to be read. -/
structure Section.Steady (s : Section) : Prop where
  header : s.isPreamble = false →
    Text.Unbroken s.header ∧ nameOfHeader? s.header = some s.name
  lines : ∀ line ∈ s.lines, line.Steady

/-- A document that reads back. Only its first section can be the preamble, which then has lines,
since it would leave nothing to be read. -/
def Document.Steady : Document → Prop
  | [] => True
  | s :: document => s.Steady ∧ (s.isPreamble = true → s.lines ≠ []) ∧
      ∀ t ∈ document, t.Steady ∧ t.isPreamble = false

namespace Section

theorem nameOfHeader?_eq_none_iff {t : Text} : nameOfHeader? t = none ↔ ¬t.HeaderShaped := by
  rw [nameOfHeader?, Text.HeaderShaped]
  cases Text.trim t with
  | nil => simp [Text.stripBrackets]
  | cons c rest =>
      by_cases hOpen : c = '['
      · subst hOpen
        cases rest with
        | nil => decide
        | cons d rest => simp [Text.stripBrackets]
      · simp [Text.stripBrackets, hOpen]

/-- A line names a section just when it has the shape of a header. -/
theorem exists_nameOfHeader?_iff {t : Text} :
    (∃ name, nameOfHeader? t = some name) ↔ t.HeaderShaped := by
  rw [← Option.ne_none_iff_exists', Ne, nameOfHeader?_eq_none_iff, not_not]

/-- A line that does not start with a bracket or a blank is no header. -/
theorem nameOfHeader?_cons {c : Char} {t : Text} (hBlank : Text.isBlank c = false)
    (hOpen : c ≠ '[') : nameOfHeader? (c :: t) = none := by
  have hTrim : Text.trim (c :: t) = c :: Text.trimEnd t := Text.trim_append_cons hBlank (s := [])
  rw [nameOfHeader?_eq_none_iff, Text.HeaderShaped, hTrim]
  simp [hOpen]

theorem ne_nil_of_nameOfHeader? {name header : Text} (h : nameOfHeader? header = some name) :
    header ≠ [] := by
  rintro rfl
  cases h

theorem isPreamble_empty {name header : Text} (h : nameOfHeader? header = some name) :
    (empty name header).isPreamble = false := by
  simp [isPreamble, empty, ne_nil_of_nameOfHeader? h]

theorem steady_empty {name header : Text} (hHeader : Text.Unbroken header)
    (h : nameOfHeader? header = some name) : (empty name header).Steady where
  header _ := ⟨hHeader, h⟩
  lines := by simp [empty]

theorem steady_preamble : preamble.Steady where
  header hOrdinary := absurd hOrdinary (by decide)
  lines := by simp [preamble, empty]

theorem Steady.push {s : Section} {line : Line} (h : s.Steady) (hLine : line.Steady) :
    (s.push line).Steady where
  header := h.header
  lines := by
    intro other hOther
    rcases List.mem_append.mp hOther with hOther | hOther
    · exact h.lines other hOther
    · obtain rfl := List.mem_singleton.mp hOther
      exact hLine

/-- The preamble differs from section to section only in its lines. -/
theorem eq_preamble {s : Section} (h : s.isPreamble = true) :
    s = { preamble with lines := s.lines } := by
  obtain ⟨hName, hHeader⟩ : s.name = preambleName ∧ s.header = [] := by
    simpa [isPreamble] using h
  obtain ⟨name, header, lines⟩ := s
  simp_all [preamble, empty]

/-- A section is empty or has a last line. -/
theorem eq_push_or_lines_eq_nil (s : Section) :
    (∃ t line, s = push t line) ∨ s.lines = [] := by
  rcases List.eq_nil_or_concat' s.lines with hNil | ⟨lines, line, hLines⟩
  · exact .inr hNil
  · exact .inl ⟨{ s with lines := lines }, line, by simp [push, ← hLines]⟩

end Section

theorem Line.steady_read {t : Text} (h : Text.Unbroken t)
    (hPlain : Section.nameOfHeader? t = none) :
    (Line.read t).Steady where
  unbroken := h
  plain := hPlain
  read := rfl

namespace Document

variable {current s : Section} {document upper lower : Document} {lines : List Line}
  {above rest : List Text} {header : Text}

/-- A line that is no header belongs to the section at hand. -/
theorem sectionsOf_plain {line : Text} (h : Section.nameOfHeader? line = none) :
    sectionsOf current (line :: rest) = sectionsOf (current.push (.read line)) rest := by
  simp [sectionsOf, h]

/-- A header ends the section at hand and starts its own. -/
theorem sectionsOf_header {name header : Text} (h : Section.nameOfHeader? header = some name) :
    sectionsOf current (header :: rest) = current :: sectionsOf (.empty name header) rest := by
  simp [sectionsOf, h]

/-- Lines that read back go to the section above them as they are. -/
theorem sectionsOf_lines (h : ∀ line ∈ lines, line.Steady) :
    sectionsOf current (lines.map (·.text) ++ rest) =
      sectionsOf { current with lines := current.lines ++ lines } rest := by
  induction lines generalizing current with
  | nil => simp
  | cons line lines ih =>
      obtain ⟨hLine, hLines⟩ := List.forall_mem_cons.mp h
      rw [List.map_cons, List.cons_append, sectionsOf_plain hLine.plain, hLine.read, ih hLines]
      simp [Section.push]

theorem linesOf_of_not_isPreamble (h : s.isPreamble = false) :
    linesOf s = s.header :: s.lines.map (·.text) := by
  simp [linesOf, h]

theorem linesOf_of_isPreamble (h : s.isPreamble = true) : linesOf s = s.lines.map (·.text) := by
  simp [linesOf, h]

theorem linesOf_push {line : Line} : linesOf (s.push line) = linesOf s ++ [line.text] := by
  simp [linesOf, Section.push, Section.isPreamble]

/-- The lines of sections with headers stand apart from the section above them. -/
theorem sectionsOf_flatMap_linesOf (h : ∀ s ∈ document, s.Steady ∧ s.isPreamble = false) :
    sectionsOf current (document.flatMap linesOf) = current :: document := by
  induction document generalizing current with
  | nil => rfl
  | cons s document ih =>
      obtain ⟨⟨hSteady, hOrdinary⟩, hRest⟩ := List.forall_mem_cons.mp h
      obtain ⟨-, hName⟩ := hSteady.header hOrdinary
      rw [List.flatMap_cons, linesOf_of_not_isPreamble hOrdinary, List.cons_append,
        sectionsOf_header hName, sectionsOf_lines hSteady.lines, ih hRest]
      rfl

theorem ofLines_plain {line : Text} (h : Section.nameOfHeader? line = none) :
    ofLines (line :: rest) = sectionsOf .preamble (line :: rest) := by
  simp [ofLines, sectionsOf, h]

/-- If the first line is a header then there is no preamble. -/
theorem ofLines_header {name header : Text} (h : Section.nameOfHeader? header = some name) :
    ofLines (header :: rest) = sectionsOf (.empty name header) rest := by
  simp [ofLines, h]

/-- Lines behind others go on in the last section of those. -/
theorem exists_sectionsOf_append (current : Section) (lines : List Text) :
    ∃ earlier last, sectionsOf current lines = earlier ++ [last] ∧
      ∀ rest, sectionsOf current (lines ++ rest) = earlier ++ sectionsOf last rest := by
  induction lines generalizing current with
  | nil => exact ⟨[], current, rfl, fun _ => rfl⟩
  | cons line lines ih =>
      cases hName : Section.nameOfHeader? line with
      | none =>
          obtain ⟨earlier, last, hLines, hMore⟩ := ih (current.push (.read line))
          refine ⟨earlier, last, by rw [sectionsOf_plain hName, hLines], fun rest => ?_⟩
          rw [List.cons_append, sectionsOf_plain hName, hMore]
      | some name =>
          obtain ⟨earlier, last, hLines, hMore⟩ := ih (.empty name line)
          refine ⟨current :: earlier, last, by rw [sectionsOf_header hName, hLines]; rfl, ?_⟩
          intro rest
          rw [List.cons_append, sectionsOf_header hName, hMore]
          rfl

/-- A header parts the sections above it from those that it begins. -/
theorem sectionsOf_append (h : header.HeaderShaped) :
    sectionsOf current (above ++ header :: rest) =
      sectionsOf current above ++ ofLines (header :: rest) := by
  obtain ⟨name, hName⟩ := Section.exists_nameOfHeader?_iff.mpr h
  obtain ⟨earlier, last, hAbove, hMore⟩ := exists_sectionsOf_append current above
  rw [hMore, hAbove, sectionsOf_header hName, ofLines_header hName, List.append_assoc]
  rfl

/-- Lines may be cut before a header, and both parts be grouped alone. -/
theorem ofLines_append (h : header.HeaderShaped) :
    ofLines (above ++ header :: rest) = ofLines above ++ ofLines (header :: rest) := by
  cases above with
  | nil => rfl
  | cons line above =>
      cases hLine : Section.nameOfHeader? line with
      | none =>
          rw [List.cons_append, ofLines_plain hLine, ofLines_plain hLine]
          rw [← List.cons_append]
          exact sectionsOf_append h
      | some name =>
          rw [List.cons_append, ofLines_header hLine, ofLines_header hLine, sectionsOf_append h]

/-- Sections print the lines that they were grouped from. -/
theorem flatMap_linesOf_sectionsOf :
    (sectionsOf current rest).flatMap linesOf = linesOf current ++ rest := by
  induction rest generalizing current with
  | nil => simp [sectionsOf]
  | cons line rest ih =>
      cases hLine : Section.nameOfHeader? line with
      | none =>
          rw [sectionsOf_plain hLine, ih, linesOf_push]
          simp [Line.read]
      | some name =>
          rw [sectionsOf_header hLine, List.flatMap_cons, ih,
            linesOf_of_not_isPreamble (Section.isPreamble_empty hLine)]
          simp [Section.empty]

/-- Grouping keeps all lines in their order. -/
theorem flatMap_linesOf_ofLines : (ofLines rest).flatMap linesOf = rest := by
  cases rest with
  | nil => rfl
  | cons line rest =>
      cases hLine : Section.nameOfHeader? line with
      | none =>
          rw [ofLines_plain hLine, flatMap_linesOf_sectionsOf]
          rfl
      | some name =>
          rw [ofLines_header hLine, flatMap_linesOf_sectionsOf,
            linesOf_of_not_isPreamble (Section.isPreamble_empty hLine)]
          simp [Section.empty]

/-- Two documents with lines are printed one below the other. -/
theorem print_append (hUpper : upper.flatMap linesOf ≠ []) (hLower : lower.flatMap linesOf ≠ []) :
    print (upper ++ lower) = print upper ++ '\n' :: print lower := by
  rw [print, List.flatMap_append, Text.joinWith_append hUpper hLower, print, print]

/-- A document that reads back is what its own lines group into. -/
theorem Steady.ofLines (h : document.Steady) :
    Document.ofLines (document.flatMap linesOf) = document := by
  cases document with
  | nil => rfl
  | cons s document =>
      obtain ⟨hSteady, hLines, hRest⟩ := h
      rw [List.flatMap_cons]
      by_cases hPreamble : s.isPreamble = true
      · obtain ⟨line, lines, hLines⟩ := List.exists_cons_of_ne_nil (hLines hPreamble)
        have hLine : line.Steady := hSteady.lines line (by simp [hLines])
        have hFirst : linesOf s ++ document.flatMap linesOf =
            line.text :: (lines.map (·.text) ++ document.flatMap linesOf) := by
          simp [linesOf_of_isPreamble hPreamble, hLines]
        rw [hFirst, ofLines_plain hLine.plain, ← hFirst, linesOf_of_isPreamble hPreamble,
          sectionsOf_lines hSteady.lines, sectionsOf_flatMap_linesOf hRest,
          s.eq_preamble hPreamble]
        rfl
      · have hOrdinary : s.isPreamble = false := by simpa using hPreamble
        obtain ⟨-, hName⟩ := hSteady.header hOrdinary
        rw [linesOf_of_not_isPreamble hOrdinary, List.cons_append, ofLines_header hName,
          sectionsOf_lines hSteady.lines, sectionsOf_flatMap_linesOf hRest]
        rfl

/-- Lines that hold no break only lengthen the section above them and open sections that have
headers. -/
theorem steady_sectionsOf (hCurrent : current.Steady) (h : ∀ line ∈ rest, Text.Unbroken line) :
    ∃ first others, sectionsOf current rest = first :: others ∧ first.Steady ∧
      first.isPreamble = current.isPreamble ∧ current.lines.length ≤ first.lines.length ∧
      ∀ s ∈ others, s.Steady ∧ s.isPreamble = false := by
  induction rest generalizing current with
  | nil => exact ⟨current, [], rfl, hCurrent, rfl, Nat.le_refl _, by simp⟩
  | cons line rest ih =>
      obtain ⟨hLine, hRest⟩ := List.forall_mem_cons.mp h
      cases hName : Section.nameOfHeader? line with
      | none =>
          obtain ⟨first, others, hSections, hFirst, hPreamble, hLength, hOthers⟩ :=
            ih (hCurrent.push (Line.steady_read hLine hName)) hRest
          refine ⟨first, others, ?_, hFirst, hPreamble, ?_, hOthers⟩
          · rw [sectionsOf_plain hName, hSections]
          · simp only [Section.push, List.length_append] at hLength
            omega
      | some name =>
          obtain ⟨first, others, hSections, hFirst, hPreamble, -, hOthers⟩ :=
            ih (Section.steady_empty hLine hName) hRest
          refine ⟨current, first :: others, ?_, hCurrent, rfl, Nat.le_refl _, ?_⟩
          · rw [sectionsOf_header hName, hSections]
          · rw [Section.isPreamble_empty hName] at hPreamble
            exact List.forall_mem_cons.mpr ⟨⟨hFirst, hPreamble⟩, hOthers⟩

/-- Reading gives documents that read back, whatever the text. -/
theorem steady_read (text : Text) : (read text).Steady := by
  have hLines : ∀ line ∈ Text.physicalLines text, Text.Unbroken line :=
    fun line => Text.unbroken_of_mem_physicalLines
  rw [read]
  cases hText : Text.physicalLines text with
  | nil => trivial
  | cons line rest =>
      rw [hText] at hLines
      obtain ⟨hLine, hRest⟩ := List.forall_mem_cons.mp hLines
      cases hName : Section.nameOfHeader? line with
      | none =>
          have hStart : (Section.preamble.push (.read line)).Steady :=
            Section.steady_preamble.push (Line.steady_read hLine hName)
          obtain ⟨first, others, hSections, hFirst, -, hLength, hOthers⟩ :=
            steady_sectionsOf hStart hRest
          rw [ofLines_plain hName, sectionsOf_plain hName, hSections]
          refine ⟨hFirst, fun _ hNil => ?_, hOthers⟩
          simp [hNil, Section.push] at hLength
      | some name =>
          obtain ⟨first, others, hSections, hFirst, hPreamble, -, hOthers⟩ :=
            steady_sectionsOf (Section.steady_empty hLine hName) hRest
          rw [Section.isPreamble_empty hName] at hPreamble
          rw [ofLines_header hName, hSections]
          exact ⟨hFirst, by simp [hPreamble], hOthers⟩

/-- A section at the end may be a preamble only if it is the only one. -/
theorem steady_concat_iff : Steady (document ++ [s]) ↔
    document.Steady ∧ s.Steady ∧ (s.isPreamble = true → document = [] ∧ s.lines ≠ []) := by
  cases document with
  | nil => simp [Steady]
  | cons first document =>
      simp only [List.cons_append, Steady, List.mem_append, List.mem_singleton, or_imp, forall_and,
        forall_eq, reduceCtorEq, false_and, imp_false, Bool.not_eq_true]
      tauto

theorem Steady.of_mem (h : document.Steady) (hs : s ∈ document) : s.Steady := by
  cases document with
  | nil => cases hs
  | cons first document =>
      obtain ⟨hFirst, -, hRest⟩ := h
      rcases List.mem_cons.mp hs with rfl | hs
      · exact hFirst
      · exact (hRest s hs).1

/-- A document stays steady under a change of its sections that keeps them steady, moves no preamble
and empties none. -/
theorem Steady.map {change : Section → Section} (h : document.Steady)
    (hPreamble : ∀ s, (change s).isPreamble = s.isPreamble)
    (hSteady : ∀ s ∈ document, s.Steady → (change s).Steady)
    (hLines : ∀ s : Section, s.lines ≠ [] → (change s).lines ≠ []) :
    Steady (document.map change) := by
  cases document with
  | nil => trivial
  | cons s document =>
      obtain ⟨hFirst, hSome, hRest⟩ := h
      refine ⟨hSteady s List.mem_cons_self hFirst, ?_, ?_⟩
      · intro hAlone
        rw [hPreamble] at hAlone
        exact hLines s (hSome hAlone)
      · intro t ht
        obtain ⟨u, hu, rfl⟩ := List.mem_map.mp ht
        obtain ⟨hOrdinary, hHeader⟩ := hRest u hu
        exact ⟨hSteady u (List.mem_cons_of_mem _ hu) hOrdinary, by rw [hPreamble, hHeader]⟩

theorem Steady.of_append (h : Steady (upper ++ lower)) : upper.Steady := by
  cases upper with
  | nil => trivial
  | cons s upper =>
      obtain ⟨hSteady, hLines, hRest⟩ := h
      exact ⟨hSteady, hLines, (List.forall_mem_append.mp hRest).1⟩

/-- No line of a steady document is broken. -/
theorem Steady.unbroken (h : document.Steady) :
    ∀ line ∈ document.flatMap linesOf, Text.Unbroken line := by
  intro line hLine
  obtain ⟨s, hs, hLine⟩ := List.mem_flatMap.mp hLine
  have hBody : line ∈ s.lines.map (·.text) → Text.Unbroken line := by
    intro hBody
    obtain ⟨body, hMem, rfl⟩ := List.mem_map.mp hBody
    exact ((h.of_mem hs).lines body hMem).unbroken
  by_cases hPreamble : s.isPreamble = true
  · rw [linesOf_of_isPreamble hPreamble] at hLine
    exact hBody hLine
  · have hOrdinary : s.isPreamble = false := by simpa using hPreamble
    rw [linesOf_of_not_isPreamble hOrdinary] at hLine
    rcases List.mem_cons.mp hLine with rfl | hLine
    · exact ((h.of_mem hs).header hOrdinary).1
    · exact hBody hLine

/-- Reading what was printed of a steady document groups its lines anew, up to an empty one at the
end. -/
theorem Steady.read_print (h : document.Steady) :
    read document.print = Document.ofLines (Text.settled (document.flatMap linesOf)) := by
  rw [read, print, Text.physicalLines_joinWith h.unbroken]

/-- A printed document that does not end in an empty line reads back. -/
theorem Steady.read_print_eq (h : document.Steady)
    (hLast : (document.flatMap linesOf).getLast? ≠ some []) : read document.print = document := by
  rw [h.read_print, Text.settled_of_getLast? hLast, h.ofLines]

/-- An empty line at the end of a printed document is not read back, nor is a preamble that has no
other line. The rest of the document is. -/
theorem Steady.read_print_push (h : document.Steady)
    (hLast : (document.flatMap linesOf).getLast? = some []) :
    ∃ (earlier : Document) (s : Section) (line : Line),
      document = earlier ++ [s.push line] ∧ line.text = [] ∧
      read document.print =
        if s.isPreamble = true ∧ s.lines = [] then earlier else earlier ++ [s] := by
  rcases List.eq_nil_or_concat' document with rfl | ⟨earlier, s, rfl⟩
  · simp at hLast
  obtain ⟨hEarlier, hSteady, hPreamble⟩ := steady_concat_iff.mp h
  rcases s.eq_push_or_lines_eq_nil with ⟨s, line, rfl⟩ | hNil
  · have hFlat : (earlier ++ [s.push line]).flatMap linesOf =
        (earlier ++ [s]).flatMap linesOf ++ [line.text] := by
      simp [linesOf_push]
    have hText : line.text = [] := by simpa [hFlat] using hLast
    refine ⟨earlier, s, line, rfl, hText, ?_⟩
    rw [h.read_print, hFlat, hText, Text.settled_concat_nil]
    split
    next hAlone =>
      obtain ⟨hFirst, hNil⟩ := hAlone
      obtain ⟨rfl, -⟩ := hPreamble hFirst
      simp [linesOf_of_isPreamble hFirst, hNil, Document.ofLines]
    next hOther =>
      apply Steady.ofLines
      refine steady_concat_iff.mpr ⟨hEarlier, ⟨hSteady.header, ?_⟩, ?_⟩
      · exact fun other hMem => hSteady.lines other (List.mem_append_left _ hMem)
      · intro hFirst
        exact ⟨(hPreamble hFirst).1, fun hNil => hOther ⟨hFirst, hNil⟩⟩
  · -- A section without lines prints its header last, which is never empty.
    have hOrdinary : s.isPreamble = false := by
      by_contra hContra
      exact (hPreamble (by simpa using hContra)).2 hNil
    obtain ⟨-, hName⟩ := hSteady.header hOrdinary
    have hHeader : s.header = [] := by
      simpa [linesOf_of_not_isPreamble hOrdinary, hNil] using hLast
    exact absurd hHeader (Section.ne_nil_of_nameOfHeader? hName)

example : read (print (read "a\n\n".toList)) = read "a".toList ∧
    read (print (read "\n\n".toList)) = read "\n".toList := by
  decide

end Document
end Rubric
