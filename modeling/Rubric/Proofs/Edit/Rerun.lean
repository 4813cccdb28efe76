import Rubric.Proofs.Document.Pieces
import Rubric.Proofs.Edit.Composition
import Rubric.RuleFile.Basic

/-! Rules on their own output. A line that they wrote is found again under its key, so they write
over it and append none. This takes a key that a line can have, and writes that open no sections:
nothing of what a rule writes is escaped. -/
namespace Rubric

/-- A key that a line can be read with: it holds no break, has no blanks around it, and no equals
sign. -/
@[mk_iff] structure Text.KeyShaped (key : Text) : Prop where
  unbroken : Unbroken key
  trimmed : trim key = key
  plain : '=' ∉ key

instance (key : Text) : Decidable key.KeyShaped :=
  decidable_of_iff' _ (Text.keyShaped_iff key)

/-- None of the lines that a line reads back as opens a section. -/
def Line.OpensNone (line : Line) : Prop :=
  ∀ t ∈ Text.physicalLines line.text, ¬t.HeaderShaped

instance (line : Line) : Decidable line.OpensNone :=
  inferInstanceAs (Decidable (∀ _ ∈ _, _))

def Section.above (s : Section) (key : Text) : List Line :=
  s.lines.takeWhile fun line => !(line.key == some key)

/-- No piece of a line that opens no section is a header. -/
theorem Line.OpensNone.pieces {line : Line} (h : line.OpensNone) :
    ∀ piece ∈ Text.pieces line.text, Section.nameOfHeader? piece = none := by
  intro piece hPiece
  rw [Section.nameOfHeader?_eq_none_iff]
  rcases Text.pieces_eq_or (t := line.text) with hSame | ⟨hMore, -⟩
  · rw [hSame] at hPiece
    exact h piece hPiece
  · rw [hMore] at hPiece
    rcases List.mem_append.mp hPiece with hPiece | hPiece
    · exact h piece hPiece
    · rw [List.mem_singleton.mp hPiece]
      decide

/-- The first line that a written line reads back as has its key, whatever the value. -/
theorem Line.exists_pieces_ofPair {key : Text} (h : key.KeyShaped) (value : Text) :
    ∃ first others, Text.pieces (ofPair key value).text = written key first :: others ∧
      (read (written key first)).key = some key := by
  have hMark : Text.Unbroken (key ++ " = ".toList) := by
    intro c hc
    rcases List.mem_append.mp hc with hc | hc
    · exact h.unbroken c hc
    · exact (by decide : Text.Unbroken " = ".toList) c hc
  obtain ⟨first, others, hPieces⟩ := Text.exists_pieces_append (t := value) hMark
  refine ⟨first, others, hPieces, ?_⟩
  rw [Line.key, pair_read_written h.plain h.trimmed]
  rfl

namespace Section

variable {s : Section} {m : Modification} {key : Text} {line : Line} {rules : List Rule}

/-- A steady section stays whole if none of its lines opens a section. -/
theorem Steady.whole_after {log : List Modification} {lines : List Line} (h : s.Steady)
    (hLines : ∀ line ∈ lines, line.OpensNone) : Whole { s.after log with lines := lines } where
  header := by simpa [isPreamble] using h.header
  plain line hLine := (hLines line hLine).pieces

/-- The first line of a key splits the lines of a section. -/
theorem lines_eq_above_append (h : s.first? key = some line) :
    ∃ back, s.lines = s.above key ++ line :: back := by
  rw [first?, List.find?_eq_head?_dropWhile_not, List.head?_eq_some_iff] at h
  obtain ⟨back, hBack⟩ := h
  refine ⟨back, ?_⟩
  rw [above, ← hBack, List.takeWhile_append_dropWhile]

/-- A section with an entry is no preamble. -/
theorem isPreamble_eq_false_of_mem_sublog (hCompiles : ∀ r ∈ rules, r.Compiles)
    (hm : m ∈ s.sublog rules) : s.isPreamble = false := by
  by_contra hPreamble
  rw [sublog_of_isPreamble hCompiles (by simpa using hPreamble)] at hm
  cases hm

end Section

/-- If all sections stay whole then rereading what a log left of a steady document gives a steady
one. -/
theorem Document.Steady.reread_after {document : Document} {rules : List Rule}
    (h : document.Steady) (hWhole : ∀ s ∈ document, (s.after (s.sublog rules)).Whole) :
    Steady ((document.map fun s => s.after (s.sublog rules)).map Section.reread) := by
  rw [List.map_map]
  exact h.map (fun _ => Section.isPreamble_after) (fun s hs _ => (hWhole s hs).reread)
    fun _ hLines => Section.lines_reread_ne_nil (Section.lines_after_ne_nil hLines)

/-- Rules that are applied to what they left of a text find the keys that they wrote there. The
section at the position of one in which they wrote a key has the key, and if they write it there
again, it is over a value. This takes a key that a line can have, and lines up to the one of the key
that open no section when they are read back. -/
theorem transform_rerun (rules : List Rule) (hCompiles : ∀ r ∈ rules, r.Compiles) (text : Text)
    {upper lower : Document} {left s : Section} {m : Modification}
    (hLeft : ((Document.read text).apply rules).document = upper ++ left :: lower)
    (hSection : (Document.read text)[upper.length]? = some s) (hWritten : m ∈ s.sublog rules)
    (hKey : m.key.KeyShaped)
    (hAbove : ∀ line ∈ upper.flatMap (·.lines) ++ left.above m.key, line.OpensNone)
    (hFirst : ∀ t ∈ (Text.physicalLines (Line.written m.key m.value)).head?, ¬t.HeaderShaped) :
    ∃ made second again, (transform rules text).result = .ok made ∧
      made.log = (Document.read text).flatMap (·.sublog rules) ∧
      (transform rules made.text).result = .ok second ∧
      second.log = (Document.read made.text).flatMap (·.sublog rules) ∧
      (Document.read made.text)[upper.length]? = some again ∧ again.header = s.header ∧
      again.position? m.key ≠ none ∧
      ∀ n ∈ again.sublog rules, n.key = m.key → n.previous ≠ none := by
  have hMap := Document.apply_document hCompiles (Document.read text)
  rw [hLeft, eq_comm] at hMap
  obtain ⟨above, behind, hRead, rfl, hBehind⟩ := List.map_eq_append_iff.mp hMap
  obtain ⟨t, below, rfl, rfl, rfl⟩ := List.map_eq_cons_iff.mp hBehind
  obtain rfl : t = s := by simpa [hRead] using hSection
  have hSteady : Document.Steady (above ++ t :: below) := hRead ▸ Document.steady_read text
  obtain ⟨hUpperLines, hFrontLines⟩ := List.forall_mem_append.mp hAbove
  have hWhole : ∀ u ∈ above, (u.after (u.sublog rules)).Whole := by
    intro u hu
    refine (hSteady.of_mem (List.mem_append_left _ hu)).whole_after fun line hLine => ?_
    exact hUpperLines line (List.mem_flatMap.mpr ⟨_, List.mem_map_of_mem hu, hLine⟩)
  have hOrdinary : (t.after (t.sublog rules)).isPreamble = false := by
    rw [Section.isPreamble_after, Section.isPreamble_eq_false_of_mem_sublog hCompiles hWritten]
  have hLine := Section.first?_after_of_mem (t.records_sublog hCompiles).distinct hWritten (s := t)
  obtain ⟨back, hLines⟩ := Section.lines_eq_above_append hLine
  -- The line of the key may be split when it is read back, but its first piece carries the key.
  obtain ⟨value, others, hPieces, hFirstKey⟩ := Line.exists_pieces_ofPair hKey m.value
  have hText : Line.written m.key m.value ≠ [] := by simp [Line.written]
  have hPlain : Section.nameOfHeader? (Line.written m.key value) = none := by
    have hHead : (Text.pieces (Line.written m.key m.value)).head? =
        some (Line.written m.key value) := congrArg List.head? hPieces
    rw [Text.head?_pieces hText] at hHead
    exact Section.nameOfHeader?_eq_none_iff.mpr (hFirst _ hHead)
  obtain ⟨again, hAgain, hHeader, hThere⟩ := Document.exists_getElem?_read_print
    (List.forall_mem_map.mpr hWhole) (hSteady.of_append.reread_after hWhole) hOrdinary hLines
    ((hSteady.of_mem (by simp)).whole_after hFrontLines) hPieces (by simp [Line.written]) hPlain
  have hMade := transform_result hCompiles text
  rw [hLeft] at hMade
  have hFound : ¬∀ line ∈ again.lines, line.key ≠ some m.key :=
    fun hNone => hNone _ hThere hFirstKey
  refine ⟨_, _, again, hMade, rfl, transform_result hCompiles _, rfl, hAgain, ?_, ?_, ?_⟩
  · rw [hHeader, Section.after_header]
  · rwa [Ne, Section.position?_eq_none_iff]
  · intro n hn hSame
    rwa [(again.records_sublog hCompiles).previous n hn, hSame, Ne, Section.value?_eq_none_iff]

/-- A rule file whose rule writes two lines under a key that reads back. -/
def RuleFile.splitting : Text :=
  "[[\"r\", \"A\", \"foo\", \"1\\nbar = 2\", 0, []]]".toList

def Rule.splitting : List Rule :=
  [⟨"r".toList, "A".toList, "foo".toList, "1\nbar = 2".toList, 0, []⟩]

/-- A value with a line break splits its line. The second run finds its key still and appends
nothing. -/
theorem transform_rerun_splitting :
    (RuleFile.load [] RuleFile.splitting).result = .ok Rule.splitting ∧
      (∀ r ∈ Rule.splitting, r.Compiles) ∧
      ∃ made second again, (transform Rule.splitting "x\n[A]".toList).result = .ok made ∧
        (transform Rule.splitting made.text).result = .ok second ∧
        (Document.read made.text)[1]? = some again ∧
        ∀ n ∈ again.sublog Rule.splitting, n.key = "foo".toList → n.previous ≠ none := by
  have hCompiles : ∀ r ∈ Rule.splitting, r.Compiles := by decide +kernel
  have hLeft : ((Document.read "x\n[A]".toList).apply Rule.splitting).document =
      [Section.preamble.push (.read "x".toList)] ++
        ⟨"A".toList, "[A]".toList, [.ofPair "foo".toList "1\nbar = 2".toList]⟩ :: [] := by
    decide +kernel
  have hSection : (Document.read "x\n[A]".toList)[1]? =
      some (.empty "A".toList "[A]".toList) := by
    decide
  have hWritten : ⟨"A".toList, "r".toList, "foo".toList, none, "1\nbar = 2".toList⟩ ∈
      (Section.empty "A".toList "[A]".toList).sublog Rule.splitting := by
    decide +kernel
  obtain ⟨made, second, again, hMade, -, hSecond, -, hAgain, -, -, hOver⟩ :=
    transform_rerun Rule.splitting hCompiles _ hLeft hSection hWritten (by decide)
      (by decide +kernel) (by decide +kernel)
  exact ⟨by decide +kernel, hCompiles, made, second, again, hMade, hSecond, hAgain, hOver⟩

/-- The rules that a file gives append a key to a section of what they left of a text, at the
position of a section in which they had written that key. -/
def RuleFile.Reappends (content text key : Text) (i : Nat) : Prop :=
  ∃ rules made s m again n, (load [] content).result = .ok rules ∧ (∀ r ∈ rules, r.Compiles) ∧
    (transform rules text).result = .ok made ∧
    (Document.read text)[i]? = some s ∧ m ∈ s.sublog rules ∧ m.key = key ∧
    (Document.read made.text)[i]? = some again ∧ n ∈ again.sublog rules ∧ n.key = key ∧
    n.previous = none

/-- What a file of rules does to a text twice is told by the sub-logs of one section. -/
theorem RuleFile.reappends_of_sublog {content text key : Text} {i : Nat} (rules : List Rule)
    (s again : Section) (hLoad : (load [] content).result = .ok rules)
    (hCompiles : ∀ r ∈ rules, r.Compiles)
    (hFirst : (Document.read text)[i]? = some s ∧ key ∈ (s.sublog rules).map (·.key))
    (hSecond : (Document.read ((Document.read text).apply rules).document.print)[i]? = some again ∧
      (key, none) ∈ (again.sublog rules).map fun n => (n.key, n.previous)) :
    Reappends content text key i := by
  obtain ⟨hSection, hWritten⟩ := hFirst
  obtain ⟨hAgain, hAppended⟩ := hSecond
  obtain ⟨m, hm, hKey⟩ := List.mem_map.mp hWritten
  obtain ⟨n, hn, hPair⟩ := List.mem_map.mp hAppended
  obtain ⟨hSame, hNone⟩ := Prod.mk.inj hPair
  exact ⟨rules, _, s, m, again, n, hLoad, hCompiles, transform_result hCompiles text, hSection, hm,
    hKey, hAgain, hn, hSame, hNone⟩

def Rule.everywhere (key value : String) : Rule :=
  ⟨"r".toList, [], key.toList, value.toList, 0, []⟩

/-- A key with an equals sign, with blanks around it or with a break is appended by every run. So is
one whose line opens a section, and one whose section is moved on by a header in a value above. -/
theorem RuleFile.reappends_unescaped :
    Reappends "[[\"r\", \"\", \"a=b\", \"1\", 0, []]]".toList "[A]".toList "a=b".toList 0 ∧
      Reappends "[[\"r\", \"\", \" a \", \"1\", 0, []]]".toList "[A]".toList " a ".toList 0 ∧
      Reappends "[[\"r\", \"\", \"a\\nb\", \"1\", 0, []]]".toList "[A]".toList "a\nb".toList 0 ∧
      Reappends "[[\"r\", \"\", \"[a\", \"1]\", 0, []]]".toList "[A]".toList "[a".toList 0 ∧
      Reappends "[[\"r\", \"\", \"a\", \"1\\n[C]\", 0, []]]".toList "[A]\n[B]".toList
        "a".toList 1 := by
  refine ⟨?equals, ?blanks, ?breaks, ?opens, ?moved⟩
  case equals =>
    exact reappends_of_sublog [.everywhere "a=b" "1"] (.empty "A".toList "[A]".toList)
      ⟨"A".toList, "[A]".toList, [.read "a=b = 1".toList]⟩ (by decide +kernel)
      (by decide +kernel) (by decide +kernel) (by decide +kernel)
  case blanks =>
    exact reappends_of_sublog [.everywhere " a " "1"] (.empty "A".toList "[A]".toList)
      ⟨"A".toList, "[A]".toList, [.read " a  = 1".toList]⟩ (by decide +kernel)
      (by decide +kernel) (by decide +kernel) (by decide +kernel)
  case breaks =>
    exact reappends_of_sublog [.everywhere "a\nb" "1"] (.empty "A".toList "[A]".toList)
      ⟨"A".toList, "[A]".toList, [.read "a".toList, .read "b = 1".toList]⟩ (by decide +kernel)
      (by decide +kernel) (by decide +kernel) (by decide +kernel)
  case opens =>
    exact reappends_of_sublog [.everywhere "[a" "1]"] (.empty "A".toList "[A]".toList)
      (.empty "A".toList "[A]".toList) (by decide +kernel)
      (by decide +kernel) (by decide +kernel) (by decide +kernel)
  case moved =>
    exact reappends_of_sublog [.everywhere "a" "1\n[C]"] (.empty "B".toList "[B]".toList)
      (.empty "C".toList "[C]".toList) (by decide +kernel)
      (by decide +kernel) (by decide +kernel) (by decide +kernel)

end Rubric
