import Rubric.Proofs.Document.Layout

/-! Documents whose lines may hold breaks. Such a line reads back as several, but it takes no other
line with it, and it moves no section as long as none of its pieces opens one. -/
namespace Rubric

/-- The lines that a line reads back as. -/
def Line.reread (line : Line) : List Line :=
  (Text.pieces line.text).map .read

def Section.reread (s : Section) : Section :=
  { s with lines := s.lines.flatMap Line.reread }

/-- A section that reads back as one, though not by the same lines: its header opens a section of
its name, and no piece of its lines opens another. -/
structure Section.Whole (s : Section) : Prop where
  header : s.isPreamble = false →
    Text.Unbroken s.header ∧ nameOfHeader? s.header = some s.name
  plain : ∀ line ∈ s.lines, ∀ piece ∈ Text.pieces line.text, nameOfHeader? piece = none

/-- Rereading lines cuts their texts into pieces. -/
theorem Line.flatMap_text_reread (lines : List Line) :
    (lines.flatMap reread).map (·.text) = (lines.map (·.text)).flatMap Text.pieces := by
  have hText : Line.text ∘ Line.read = id := rfl
  simp [List.map_flatMap, List.flatMap_map, reread, hText]

namespace Section

variable {s : Section}

theorem lines_reread_ne_nil (h : s.lines ≠ []) : s.reread.lines ≠ [] := by
  obtain ⟨line, lines, hLines⟩ := List.exists_cons_of_ne_nil h
  simp [reread, hLines, Line.reread, Text.pieces_ne_nil]

/-- If no piece of a section is a header then the section is steady once it is reread. -/
theorem Whole.reread (h : s.Whole) : s.reread.Steady where
  header := h.header
  lines := by
    intro line hLine
    obtain ⟨source, hSource, hLine⟩ := List.mem_flatMap.mp hLine
    obtain ⟨piece, hPiece, rfl⟩ := List.mem_map.mp hLine
    exact Line.steady_read (Text.unbroken_of_mem_pieces hPiece)
      (h.plain source hSource piece hPiece)

/-- It has then the pieces of all its lines, header included. -/
theorem Whole.linesOf_reread (h : s.Whole) :
    Document.linesOf s.reread = (Document.linesOf s).flatMap Text.pieces := by
  cases hPreamble : s.isPreamble with
  | true =>
      have hReread : s.reread.isPreamble = true := hPreamble
      rw [Document.linesOf_of_isPreamble hPreamble, Document.linesOf_of_isPreamble hReread]
      exact Line.flatMap_text_reread s.lines
  | false =>
      have hReread : s.reread.isPreamble = false := hPreamble
      obtain ⟨hHeader, -⟩ := h.header hPreamble
      rw [Document.linesOf_of_not_isPreamble hPreamble, Document.linesOf_of_not_isPreamble hReread,
        List.flatMap_cons, Text.pieces_of_unbroken hHeader]
      exact congrArg (s.header :: ·) (Line.flatMap_text_reread s.lines)

end Section

namespace Document

variable {last s : Section} {document earlier upper lower : Document}
  {piece : Text} {lines rest others : List Text} {line : Line} {front back : List Line}

theorem linesOf_append (hLines : s.lines = front ++ back) :
    linesOf s = linesOf { s with lines := front } ++ back.map (·.text) := by
  simp [linesOf, hLines, Section.isPreamble]

/-- What stands before the next header lengthens the section above it, whichever that is. -/
theorem exists_sectionsOf_eq_cons (rest : List Text) : ∃ more others, ∀ current : Section,
    sectionsOf current rest = { current with lines := current.lines ++ more } :: others := by
  induction rest with
  | nil => exact ⟨[], [], fun current => by simp [sectionsOf]⟩
  | cons line rest ih =>
      obtain ⟨more, others, hSections⟩ := ih
      cases hName : Section.nameOfHeader? line with
      | none =>
          refine ⟨.read line :: more, others, fun current => ?_⟩
          rw [sectionsOf_plain hName, hSections]
          simp [Section.push]
      | some name =>
          refine ⟨[], sectionsOf (.empty name line) rest, fun current => ?_⟩
          rw [sectionsOf_header hName, List.append_nil]

/-- More lines go on with the last section. -/
theorem ofLines_append_of_concat (hLines : lines ≠ []) (h : ofLines lines = earlier ++ [last]) :
    ofLines (lines ++ rest) = earlier ++ sectionsOf last rest := by
  obtain ⟨first, lines, rfl⟩ := List.exists_cons_of_ne_nil hLines
  cases hName : Section.nameOfHeader? first with
  | none =>
      obtain ⟨others, final, hSections, hMore⟩ :=
        exists_sectionsOf_append .preamble (first :: lines)
      rw [ofLines_plain hName, hSections] at h
      obtain ⟨rfl, hLast⟩ := List.append_inj' h rfl
      obtain rfl : final = last := by simpa using hLast
      rw [List.cons_append, ofLines_plain hName, ← List.cons_append, hMore]
  | some name =>
      obtain ⟨others, final, hSections, hMore⟩ := exists_sectionsOf_append (.empty name first) lines
      rw [ofLines_header hName, hSections] at h
      obtain ⟨rfl, hLast⟩ := List.append_inj' h rfl
      obtain rfl : final = last := by simpa using hLast
      rw [List.cons_append, ofLines_header hName, hMore]

/-- A document whose sections stay whole is reread section by section. -/
theorem flatMap_linesOf_map_reread (h : ∀ t ∈ document, t.Whole) :
    (document.map Section.reread).flatMap linesOf =
      (document.flatMap linesOf).flatMap Text.pieces := by
  rw [List.flatMap_map, List.flatMap_assoc]
  exact List.flatMap_congr fun t ht => (h t ht).linesOf_reread

/-- Lines above one that is not empty are all found again, whatever becomes of the lines below. -/
theorem exists_physicalLines_print_eq (hPiece : piece ≠ [])
    (hPieces : (document.flatMap linesOf).flatMap Text.pieces = lines ++ piece :: others) :
    ∃ rest, Text.physicalLines document.print = lines ++ piece :: rest := by
  have hSome : document.flatMap linesOf ≠ [] := by
    intro hNone
    simp [hNone] at hPieces
  have hPrinted : Text.pieces document.print = lines ++ piece :: others := by
    rw [print, Text.pieces_joinWith hSome, hPieces]
  rcases Text.pieces_eq_or (t := document.print) with hSame | ⟨hMore, -⟩
  · exact ⟨others, by rw [← hSame, hPrinted]⟩
  · rw [hMore] at hPrinted
    rcases List.eq_nil_or_concat' others with rfl | ⟨kept, final, rfl⟩
    · obtain ⟨-, hEnd⟩ := List.append_inj' hPrinted rfl
      exact absurd (List.cons.inj hEnd).1.symm hPiece
    · rw [← List.cons_append, ← List.append_assoc] at hPrinted
      exact ⟨kept, (List.append_inj' hPrinted rfl).1⟩

/-- A line stands in the section of its position in what the printed document reads back as, if no
line above it opens a section, there or in the sections above. -/
theorem exists_getElem?_read_print (hWhole : ∀ t ∈ upper, t.Whole)
    (hUpper : Steady (upper.map Section.reread)) (hOrdinary : s.isPreamble = false)
    (hLines : s.lines = front ++ line :: back) (hFront : Section.Whole { s with lines := front })
    (hPieces : Text.pieces line.text = piece :: others) (hPiece : piece ≠ [])
    (hPlain : Section.nameOfHeader? piece = none) :
    ∃ again, (read (print (upper ++ s :: lower)))[upper.length]? = some again ∧
      again.header = s.header ∧ .read piece ∈ again.lines := by
  have hUnbroken : Text.Unbroken piece := Text.unbroken_of_mem_pieces (by rw [hPieces]; simp)
  let short : Section := (Section.reread { s with lines := front }).push (.read piece)
  have hHeader : short.isPreamble = false := hOrdinary
  have hSteady : Steady (upper.map Section.reread ++ [short]) :=
    steady_concat_iff.mpr ⟨hUpper, hFront.reread.push (Line.steady_read hUnbroken hPlain),
      fun hPreamble => absurd hPreamble (by simp [hHeader])⟩
  have hShort : (upper.map Section.reread ++ [short]).flatMap linesOf =
      (upper.flatMap linesOf ++ linesOf { s with lines := front }).flatMap Text.pieces ++
        [piece] := by
    rw [List.flatMap_append, flatMap_linesOf_map_reread hWhole, List.flatMap_singleton,
      linesOf_push, hFront.linesOf_reread, List.flatMap_append, List.append_assoc]
    rfl
  have hAll : ((upper ++ s :: lower).flatMap linesOf).flatMap Text.pieces =
      (upper.flatMap linesOf ++ linesOf { s with lines := front }).flatMap Text.pieces ++ piece ::
        (others ++ (back.map (·.text) ++ lower.flatMap linesOf).flatMap Text.pieces) := by
    simp [linesOf_append hLines, hPieces]
  obtain ⟨rest, hRest⟩ := exists_physicalLines_print_eq hPiece hAll
  obtain ⟨more, others, hSections⟩ := exists_sectionsOf_eq_cons rest
  have hRead : read (print (upper ++ s :: lower)) = upper.map Section.reread ++
      { short with lines := short.lines ++ more } :: others := by
    have hStart := hSteady.ofLines
    rw [hShort] at hStart
    rw [read, hRest, ← List.singleton_append, ← List.append_assoc,
      ofLines_append_of_concat (by simp) hStart, hSections]
  refine ⟨{ short with lines := short.lines ++ more }, by simp [hRead], rfl, ?_⟩
  simp [short, Section.push]

end Document
end Rubric
