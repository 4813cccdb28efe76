import Rubric.Proofs.Document.Pieces
import Rubric.Proofs.Edit.Composition

/-! Texts that start with a byte order mark. The mark is kept as text. It is no blank and no break,
so it joins the first line, and no header starts with it. A text whose first line is ordinary is
edited with the mark as it is without. Where the first line is a header, it becomes a line of the
preamble, and so do the lines of the section that it opens without the mark. Rules leave them
alone. -/
namespace Rubric

def Text.byteOrderMark : Char :=
  '\ufeff'

/-- The section that a text begins with: that of its first line, be it a header or not, and of the
other lines above the next header. -/
def Section.opening (line : Text) (others : List Line) : Section :=
  match nameOfHeader? line with
  | none => { preamble with lines := .read line :: others }
  | some name => { empty name line with lines := others }

namespace Section

variable {line : Text} {others : List Line}

theorem isPreamble_opening_iff : (opening line others).isPreamble = true ↔ ¬line.HeaderShaped := by
  rw [← nameOfHeader?_eq_none_iff, opening]
  cases hName : nameOfHeader? line with
  | none => exact iff_of_true rfl rfl
  | some name =>
      have hOrdinary : (empty name line).isPreamble = false := isPreamble_empty hName
      simpa [isPreamble] using hOrdinary

theorem linesOf_opening : Document.linesOf (opening line others) = line :: others.map (·.text) := by
  rw [opening]
  cases hName : nameOfHeader? line with
  | none => rfl
  | some name =>
      have hOrdinary : isPreamble { empty name line with lines := others } = false :=
        isPreamble_empty hName
      rw [Document.linesOf_of_not_isPreamble hOrdinary]
      rfl

/-- A mark in front keeps a line from being a header. -/
theorem isPreamble_opening_marked :
    (opening (Text.byteOrderMark :: line) others).isPreamble = true :=
  isPreamble_opening_iff.mpr
    (nameOfHeader?_eq_none_iff.mp (nameOfHeader?_cons (by decide) (by decide)))

end Section

namespace Document

variable {c : Char} {line text : Text} {others : List Line} {rest : Document}

/-- What stands behind the first line does not depend on it. -/
theorem exists_ofLines_eq_opening (lines : List Text) :
    ∃ others rest, ∀ line, ofLines (line :: lines) = .opening line others :: rest := by
  obtain ⟨others, rest, hSections⟩ := exists_sectionsOf_eq_cons lines
  refine ⟨others, rest, fun line => ?_⟩
  rw [Section.opening]
  cases hName : Section.nameOfHeader? line with
  | none =>
      rw [ofLines_plain hName, sectionsOf_plain hName, hSections]
      rfl
  | some name =>
      rw [ofLines_header hName, hSections]
      rfl

/-- A character that breaks no line changes the first section of a text and none behind it. -/
theorem exists_read_cons (hText : text ≠ []) (hc : Text.isBreak c = false) :
    ∃ line others rest, (Text.physicalLines text).head? = some line ∧
      read text = .opening line others :: rest ∧
      read (c :: text) = .opening (c :: line) others :: rest := by
  have hSome : Text.physicalLines text ≠ [] :=
    fun hNil => hText (Text.physicalLines_eq_nil_iff.mp hNil)
  obtain ⟨line, lines, hLines⟩ := List.exists_cons_of_ne_nil hSome
  obtain ⟨others, rest, hSections⟩ := exists_ofLines_eq_opening lines
  refine ⟨line, others, rest, by rw [hLines, List.head?_cons], by rw [read, hLines, hSections], ?_⟩
  rw [read, Text.physicalLines_cons hc, hLines, hSections]

/-- A character in front of the opening line is printed in front of the text. -/
theorem print_opening_cons :
    print (.opening (c :: line) others :: rest) = c :: print (.opening line others :: rest) := by
  rw [print, print, List.flatMap_cons, List.flatMap_cons, Section.linesOf_opening,
    Section.linesOf_opening, List.cons_append, List.cons_append, Text.joinWith_cons_cons]

end Document

section

variable {rules : List Rule} {first : Section} {rest : Document} {text : Text}
  (hCompiles : ∀ r ∈ rules, r.Compiles)
include hCompiles

/-- What a transform makes of the first section stands apart from the others. -/
theorem transform_result_cons (hRead : Document.read text = first :: rest) :
    (transform rules text).result =
      .ok ⟨Document.print (first.after (first.sublog rules) ::
          (Document.apply rules rest).document),
        first.sublog rules ++ rest.flatMap (·.sublog rules)⟩ := by
  rw [transform_result hCompiles, Document.apply_document hCompiles,
    Document.apply_document hCompiles, hRead]
  rfl

/-- Rules that write nothing in the first section leave it as it is. The preamble is such a
section for all rules. -/
theorem transform_result_of_sublog (hRead : Document.read text = first :: rest)
    (hNone : first.sublog rules = []) :
    (transform rules text).result =
      .ok ⟨Document.print (first :: (Document.apply rules rest).document),
        rest.flatMap (·.sublog rules)⟩ := by
  rw [transform_result_cons hCompiles hRead, hNone]
  rfl

theorem transform_result_nil : (transform rules []).result = .ok ⟨[], []⟩ := by
  rw [transform_result hCompiles, Document.apply_document hCompiles]
  rfl

/-- A text of nothing but the mark is one line of the preamble. -/
theorem transform_result_mark : (transform rules [Text.byteOrderMark]).result =
    .ok ⟨[Text.byteOrderMark], []⟩ := by
  have hRead : Document.read [Text.byteOrderMark] =
      [Section.preamble.push (.read [Text.byteOrderMark])] := by
    decide
  rw [transform_result_of_sublog hCompiles hRead (Section.sublog_of_isPreamble hCompiles rfl),
    Document.apply_document hCompiles]
  rfl

end

/-- A byte order mark in front of a text does not change what rules do to it, unless it stands
before a header. Then its line belongs to the preamble and so do the lines of the first section,
which the rules leave as they are, and the log has only the writes in the sections behind it. This
is no change either exactly if the rules write nothing in the first section. -/
theorem transform_marked (rules : List Rule) (hCompiles : ∀ r ∈ rules, r.Compiles) (text : Text) :
    ∃ made marked, (transform rules text).result = .ok made ∧
      (transform rules (Text.byteOrderMark :: text)).result = .ok marked ∧
      (¬text.StartsSection → marked = ⟨Text.byteOrderMark :: made.text, made.log⟩) ∧
      (text.StartsSection → ∃ first top rest own, Document.read text = first :: rest ∧
        Document.read (Text.byteOrderMark :: text) = top :: rest ∧ top.isPreamble = true ∧
        (Document.apply rules [first]).result = .ok own ∧
        (Document.apply rules rest).result = .ok marked.log ∧
        made.log = own ++ marked.log ∧
        marked.text = Text.byteOrderMark ::
          Document.print (first :: (Document.apply rules rest).document) ∧
        (marked = ⟨Text.byteOrderMark :: made.text, made.log⟩ ↔ own = [])) := by
  by_cases hText : text = []
  · subst hText
    have hStarts : ¬Text.StartsSection [] := by simp [Text.StartsSection, Text.physicalLines]
    exact ⟨_, _, transform_result_nil hCompiles, transform_result_mark hCompiles, fun _ => rfl,
      fun h => absurd h hStarts⟩
  obtain ⟨line, others, rest, hLine, hRead, hTop⟩ := Document.exists_read_cons hText
    (show Text.isBreak Text.byteOrderMark = false by decide)
  have hStarts : text.StartsSection ↔ line.HeaderShaped := by simp [Text.StartsSection, hLine]
  have hMarked := transform_result_of_sublog hCompiles hTop
    (Section.sublog_of_isPreamble hCompiles Section.isPreamble_opening_marked)
  rw [Document.print_opening_cons] at hMarked
  generalize hFirst : Section.opening line others = first at hRead hMarked
  -- Where the rules write nothing in the first section, both texts come out alike.
  have hSame (hNone : first.sublog rules = []) :
      Document.print (first :: (Document.apply rules rest).document) =
        Document.print (first.after (first.sublog rules) ::
          (Document.apply rules rest).document) := by
    rw [hNone]
    rfl
  refine ⟨_, _, transform_result_cons hCompiles hRead, hMarked, ?_, ?_⟩
  · intro hPlain
    have hPreamble : first.isPreamble = true := by
      rw [← hFirst, Section.isPreamble_opening_iff, ← hStarts]
      exact hPlain
    have hNone := Section.sublog_of_isPreamble hCompiles hPreamble
    simp [hSame hNone, hNone]
  · intro _
    have hOwn : (Document.apply rules [first]).result = .ok (first.sublog rules) := by
      rw [Document.apply_result hCompiles, List.flatMap_singleton]
    refine ⟨first, _, rest, _, hRead, hTop, Section.isPreamble_opening_marked, hOwn,
      Document.apply_result hCompiles rest, rfl, rfl, ?_, ?_⟩
    · intro hBoth
      simpa using congrArg Transformed.log hBoth
    · intro hNone
      simp [hSame hNone, hNone]

/-- A text with a preamble: with the mark in front and without it the log is the same. -/
theorem transform_marked_rivals :
    (∀ r ∈ Rule.rivals, r.Compiles) ∧
      ∃ made marked, (transform Rule.rivals "; top\n[A]\n; note\nfoo=1\nfoo = 3".toList).result =
          .ok made ∧
        (transform Rule.rivals
          (Text.byteOrderMark :: "; top\n[A]\n; note\nfoo=1\nfoo = 3".toList)).result =
            .ok marked ∧
        made.log = Section.contestedLog ∧ marked.log = Section.contestedLog ∧
        marked.text = Text.byteOrderMark :: made.text := by
  have hPlain : ¬Text.StartsSection "; top\n[A]\n; note\nfoo=1\nfoo = 3".toList := by
    rintro ⟨line, hLine, hShaped⟩
    obtain rfl : "; top".toList = line := Option.some.inj hLine
    exact absurd hShaped (by decide)
  obtain ⟨made, marked, hMade, hMarked, hSame, -⟩ := transform_marked Rule.rivals
    Rule.compiles_rivals "; top\n[A]\n; note\nfoo=1\nfoo = 3".toList
  obtain rfl := hSame hPlain
  have hRead : Document.read "; top\n[A]\n; note\nfoo=1\nfoo = 3".toList =
      [Section.preamble.push (.read "; top".toList), .contested] := by
    decide
  have hLog : made.log = Section.contestedLog := by
    have hResult := transform_result_of_sublog Rule.compiles_rivals hRead
      (Section.sublog_of_isPreamble Rule.compiles_rivals rfl)
    obtain rfl := Except.ok.inj (hMade.symm.trans hResult)
    rw [List.flatMap_singleton, Section.sublog_rivals_contested]
  exact ⟨Rule.compiles_rivals, made, _, hMade, hMarked, hLog, hLog, rfl⟩

def Rule.rewriting : Rule :=
  ⟨"r".toList, "A".toList, "foo".toList, "2".toList, 0, []⟩

/-- Before a header the mark keeps the rule from writing. -/
theorem transform_marked_header :
    (∀ r ∈ [Rule.rewriting], r.Compiles) ∧
      ∃ made marked, (transform [.rewriting] "[A]\nfoo = 1".toList).result = .ok made ∧
        (transform [.rewriting] (Text.byteOrderMark :: "[A]\nfoo = 1".toList)).result =
          .ok marked ∧
        made.text = "[A]\nfoo = 2".toList ∧ marked.text = "\ufeff[A]\nfoo = 1".toList ∧
        made.log = [⟨"A".toList, "r".toList, "foo".toList, some "1".toList, "2".toList⟩] ∧
        marked.log = [] ∧ marked.log ≠ made.log ∧
        marked.text ≠ Text.byteOrderMark :: made.text := by
  have hCompiles : ∀ r ∈ [Rule.rewriting], r.Compiles := by decide +kernel
  exact ⟨hCompiles, _, _, transform_result hCompiles _, transform_result hCompiles _,
    by decide +kernel⟩

end Rubric
