import Rubric.Proofs.Document.Layout

/-! The grammar of documents. What the sections of a text must be is said here without reading it,
and reading gives the one document that fits. So no line is lost, moved to another section or taken
for a header by mistake, and no header makes a preamble. -/
namespace Rubric

/-- The sections that lines fall into. The headers and the lines below them are the given lines, in
order and each of them once. A header is a line between brackets and opens a section of the name
between them, and no other line looks like that. Only the first section can be a preamble, which is
there for its lines. -/
structure Document.Grouping (lines : List Text) (document : Document) : Prop where
  listed : document.flatMap (fun s =>
    (if s.isPreamble then [] else [s.header]) ++ s.lines.map (·.text)) = lines
  named : ∀ s ∈ document, s.isPreamble = false → Text.trim s.header = '[' :: s.name ++ [']']
  plain : ∀ s ∈ document, ∀ line ∈ s.lines, ¬line.text.HeaderShaped
  leading : ∀ i s, document[i]? = some s → s.isPreamble = true → i = 0 ∧ s.lines ≠ []
  paired : ∀ s ∈ document, ∀ line ∈ s.lines, line.pair = (Line.read line.text).pair

namespace Section

/-- A header is a line with brackets around a name, once the blanks around it are gone. -/
theorem nameOfHeader?_eq_some_iff {t name : Text} :
    nameOfHeader? t = some name ↔ Text.trim t = '[' :: name ++ [']'] := by
  rw [nameOfHeader?]
  cases Text.trim t with
  | nil => simp [Text.stripBrackets]
  | cons c rest =>
      by_cases hOpen : c = '['
      · subst hOpen
        simp only [Text.stripBrackets, List.cons_append, List.cons.injEq, true_and]
        constructor
        · intro hName
          split at hName
          next hClose =>
            obtain rfl := Option.some.inj hName
            exact (List.dropLast_append_getLast? _ hClose).symm
          next => cases hName
        · rintro rfl
          simp
      · simp [Text.stripBrackets, hOpen]

end Section

namespace Document

variable {document : Document} {text : Text} {lines : List Text}

/-- A document that groups unbroken lines is steady. -/
theorem Grouping.steady (h : document.Grouping lines)
    (hLines : ∀ line ∈ lines, Text.Unbroken line) : document.Steady := by
  have hUnbroken : ∀ s ∈ document, ∀ line ∈ linesOf s, Text.Unbroken line := by
    intro s hs line hLine
    refine hLines line ?_
    rw [← h.listed]
    exact List.mem_flatMap.mpr ⟨s, hs, hLine⟩
  have hSteady : ∀ s ∈ document, s.Steady := by
    intro s hs
    refine ⟨fun hOrdinary => ⟨?_, ?_⟩, fun line hLine => ⟨?_, ?_, ?_⟩⟩
    · exact hUnbroken s hs s.header (by simp [linesOf_of_not_isPreamble hOrdinary])
    · exact Section.nameOfHeader?_eq_some_iff.mpr (h.named s hs hOrdinary)
    · refine hUnbroken s hs line.text (List.mem_append_right _ ?_)
      exact List.mem_map_of_mem hLine
    · exact Section.nameOfHeader?_eq_none_iff.mpr (h.plain s hs line hLine)
    · rw [Line.mk.injEq]
      exact ⟨rfl, (h.paired s hs line hLine).symm⟩
  cases document with
  | nil => trivial
  | cons s document =>
      refine ⟨hSteady s List.mem_cons_self, fun hPreamble => (h.leading 0 s rfl hPreamble).2, ?_⟩
      intro t ht
      refine ⟨hSteady t (List.mem_cons_of_mem _ ht), ?_⟩
      obtain ⟨i, hi⟩ := List.mem_iff_getElem?.mp ht
      -- A preamble behind the first section would stand at an index that is no zero.
      by_contra hPreamble
      obtain ⟨hFirst, -⟩ := h.leading (i + 1) t (by simpa using hi) (by simpa using hPreamble)
      omega

/-- What is read from a text is a grouping of its lines. -/
theorem grouping_read (text : Text) : (read text).Grouping (Text.physicalLines text) := by
  have hSteady := steady_read text
  refine ⟨flatMap_linesOf_ofLines, ?named, ?plain, ?leading, ?paired⟩
  case named =>
    intro s hs hOrdinary
    exact Section.nameOfHeader?_eq_some_iff.mp ((hSteady.of_mem hs).header hOrdinary).2
  case plain =>
    intro s hs line hLine
    exact Section.nameOfHeader?_eq_none_iff.mp ((hSteady.of_mem hs).lines line hLine).plain
  case leading =>
    intro i s hs hPreamble
    generalize read text = document at hSteady hs
    cases document with
    | nil => simp at hs
    | cons first document =>
        obtain ⟨-, hLines, hRest⟩ := hSteady
        cases i with
        | zero =>
            obtain rfl : first = s := by simpa using hs
            exact ⟨rfl, hLines hPreamble⟩
        | succ i =>
            have hMem : s ∈ document := List.mem_of_getElem? (by simpa using hs)
            simp [(hRest s hMem).2] at hPreamble
  case paired =>
    intro s hs line hLine
    rw [((hSteady.of_mem hs).lines line hLine).read]

/-- Reading a text gives the sections that its physical lines fall into, and these are the only
ones. A header that spells the name of the preamble opens an ordinary section. -/
theorem read_eq_iff_grouping (text : Text) :
    (∀ document : Document, read text = document ↔
      document.Grouping (Text.physicalLines text)) ∧
      ∀ header ∈ Text.physicalLines text, Text.trim header = "[__preamble__]".toList →
        ∃ s ∈ read text, s.header = header ∧ s.name = Section.preambleName ∧
          s.isPreamble = false := by
  have hRead := grouping_read text
  constructor
  · intro document
    refine ⟨fun h => h ▸ hRead, fun h => ?_⟩
    have hSteady := h.steady fun line => Text.unbroken_of_mem_physicalLines
    have hLines : document.flatMap linesOf = Text.physicalLines text := h.listed
    rw [read, ← hLines, hSteady.ofLines]
  · intro header hHeader hName
    have hShaped : header.HeaderShaped := by
      rw [Text.HeaderShaped, hName]
      decide
    rw [← hRead.listed] at hHeader
    obtain ⟨s, hs, hMem⟩ := List.mem_flatMap.mp hHeader
    rcases List.mem_append.mp hMem with hOpens | hBody
    · have hOrdinary : s.isPreamble = false := by
        by_contra hPreamble
        simp [hPreamble] at hOpens
      obtain rfl : header = s.header := by simpa [hOrdinary] using hOpens
      have hSame : '[' :: s.name ++ [']'] = '[' :: Section.preambleName ++ [']'] := by
        rw [← hRead.named s hs hOrdinary, hName]
        rfl
      exact ⟨s, hs, rfl, by simpa using hSame, hOrdinary⟩
    · obtain ⟨line, hLine, rfl⟩ := List.mem_map.mp hBody
      exact absurd hShaped (hRead.plain s hs line hLine)

/-- The name of the preamble may be spelled in a header. That section is no preamble. -/
theorem read_eq_iff_grouping_spelled :
    "[__preamble__]".toList ∈ Text.physicalLines "a\n[__preamble__]\nb = 1".toList ∧
      ∃ s ∈ read "a\n[__preamble__]\nb = 1".toList, s.header = "[__preamble__]".toList ∧
        s.name = Section.preambleName ∧ s.isPreamble = false := by
  have hMem : "[__preamble__]".toList ∈
      Text.physicalLines "a\n[__preamble__]\nb = 1".toList := by
    decide
  obtain ⟨-, hSpelled⟩ := read_eq_iff_grouping "a\n[__preamble__]\nb = 1".toList
  exact ⟨hMem, hSpelled _ hMem (by decide)⟩

end Document
end Rubric
