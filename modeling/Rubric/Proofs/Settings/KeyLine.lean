import Rubric.Proofs.Document.Grammar
import Rubric.Proofs.Settings.Unknown

/-! The search for the line of a key in any text at all, whether or not it is a settings file. Lines
are taken by their looks: the first one is found that assigns to the key below a header of its
table, where the nearest header above a line counts and no other. -/
namespace Rubric

/-- The lines of a text that end at line feeds, each with or without a carriage return before it. A
line feed at the very end starts no other line. -/
def Text.fileLines : Text → List Text
  | [] => []
  | '\n' :: rest => [] :: fileLines rest
  | '\r' :: '\n' :: rest => [] :: fileLines rest
  | c :: rest =>
    match fileLines rest with
    | [] => [[c]]
    | line :: lines => (c :: line) :: lines

theorem Text.fileLines_eq_nil_iff {t : Text} : fileLines t = [] ↔ t = [] := by
  fun_cases fileLines t <;> simp_all

/-- The pieces between line feeds are these lines, but for the carriage returns that they keep and
an empty piece at the end. -/
theorem Text.splitAll_fileLines (t : Text) : ∃ rest, (rest = [] ∨ rest = [[]]) ∧
    List.Forall₂ (fun piece line => piece = line ∨ piece = line ++ ['\r']) (splitAll '\n' t)
      (fileLines t ++ rest) := by
  fun_induction fileLines t with
  | case1 => exact ⟨[[]], .inr rfl, .cons (.inl rfl) .nil⟩
  | case2 t ih =>
      obtain ⟨rest, hRest, hLines⟩ := ih
      exact ⟨rest, hRest, .cons (.inl rfl) hLines⟩
  | case3 t ih =>
      obtain ⟨rest, hRest, hLines⟩ := ih
      exact ⟨rest, hRest, .cons (.inr rfl) hLines⟩
  | case4 c t hFeed _ hNil ih =>
      obtain rfl := fileLines_eq_nil_iff.mp hNil
      rw [splitAll_of_notMem (by simpa [eq_comm] using hFeed)]
      exact ⟨[], .inl rfl, .cons (.inl rfl) .nil⟩
  | case5 c t hFeed _ line lines hLines ih =>
      obtain ⟨rest, hRest, hPieces⟩ := ih
      rw [hLines, List.cons_append] at hPieces
      obtain ⟨piece, pieces, hPiece, hOthers, hSplit⟩ := List.forall₂_cons_right_iff.mp hPieces
      refine ⟨rest, hRest, ?_⟩
      rw [splitAll, if_neg hFeed, hSplit]
      exact .cons (hPiece.imp (congrArg (c :: ·)) (congrArg (c :: ·))) hOthers

namespace Settings

/-- A line that looks as if it assigns to a leaf. It is no header, and the leaf stands before its
first equals sign. -/
structure AssignsTo (leaf line : Text) : Prop where
  plain : ¬line.HeaderShaped
  assigned : ∃ before after, Text.trim line = before ++ '=' :: after ∧ '=' ∉ before ∧
    Text.trim before = leaf

/-- The table that a line stands in by the lines above it. The nearest header among them names it,
and where there is none its name is empty. -/
def Under (above : List Text) (table : Text) : Prop :=
  (table = [] ∧ ∀ line ∈ above, ¬line.HeaderShaped) ∨
    ∃ earlier header between inner, above = earlier ++ header :: between ∧
      Text.trim header = '[' :: inner ++ [']'] ∧ Text.trim inner = table ∧
      ∀ line ∈ between, ¬line.HeaderShaped

/-- The line at an index looks as if it assigns to a leaf of a table. -/
def AssignsAt (lines : List Text) (table leaf : Text) (i : Nat) : Prop :=
  ∃ line, lines[i]? = some line ∧ AssignsTo leaf line ∧ Under (lines.take i) table

/-- A number that tells the first index from a start on at which something holds. Indices are told
as numbers from one on, and zero tells that there is none. -/
def FirstFrom (p : Nat → Prop) (start n : Nat) : Prop :=
  (n = 0 ∧ ∀ i, start ≤ i → ¬p i) ∨
    ∃ i, start ≤ i ∧ n = i + 1 ∧ p i ∧ ∀ k, start ≤ k → k < i → ¬p k

variable {table leaf current line name inner : Text} {above lines : List Text} {n i : Nat}

section FirstFrom

variable {p : Nat → Prop} {start : Nat}

theorem firstFrom_self (h : p start) : FirstFrom p start (start + 1) :=
  .inr ⟨start, Nat.le_refl start, rfl, h, fun k hStart hk => by omega⟩

/-- Where the start is no hit, the first hit behind it is the first of all. -/
theorem FirstFrom.of_succ (h : FirstFrom p (start + 1) n) (hStart : ¬p start) :
    FirstFrom p start n := by
  have hOthers : ∀ k, start ≤ k → (start + 1 ≤ k → ¬p k) → ¬p k := by
    intro k hk hLater
    rcases Nat.eq_or_lt_of_le hk with rfl | hk
    · exact hStart
    · exact hLater hk
  rcases h with ⟨rfl, hNone⟩ | ⟨i, hi, rfl, hHolds, hFirst⟩
  · exact .inl ⟨rfl, fun k hk => hOthers k hk (hNone k)⟩
  · exact .inr ⟨i, by omega, rfl, hHolds, fun k hk hLess => hOthers k hk fun hLater =>
      hFirst k hLater hLess⟩

/-- Zero is told if there is no hit at all. -/
theorem FirstFrom.eq_zero_iff (h : FirstFrom p 0 n) : n = 0 ↔ ∀ i, ¬p i := by
  rcases h with ⟨rfl, hNone⟩ | ⟨i, -, rfl, hHolds, -⟩
  · exact iff_of_true rfl fun i => hNone i (Nat.zero_le i)
  · exact iff_of_false (by omega) fun hNone => hNone i hHolds

/-- A number above zero is that of a hit with none before it. -/
theorem FirstFrom.eq_succ_iff (h : FirstFrom p 0 n) :
    n = i + 1 ↔ p i ∧ ∀ k < i, ¬p k := by
  rcases h with ⟨rfl, hNone⟩ | ⟨j, -, rfl, hHolds, hFirst⟩
  · exact iff_of_false (by omega) fun hi => hNone i (Nat.zero_le i) hi.1
  · constructor
    · intro hSame
      obtain rfl : j = i := by omega
      exact ⟨hHolds, fun k hk => hFirst k (Nat.zero_le k) hk⟩
    · rintro ⟨hi, hNoEarlier⟩
      have hNotLess : ¬j < i := fun hLess => hNoEarlier j hLess hHolds
      have hNotMore : ¬i < j := fun hLess => hFirst i (Nat.zero_le i) hLess hi
      omega

end FirstFrom

section Under

theorem headerShaped_of_trim (h : Text.trim line = '[' :: inner ++ [']']) : line.HeaderShaped :=
  Section.exists_nameOfHeader?_iff.mp ⟨inner, Section.nameOfHeader?_eq_some_iff.mpr h⟩

theorem under_nil_iff : Under [] name ↔ name = [] := by
  simp [Under]

/-- A header among lines is the last of them or stands above it. -/
theorem eq_or_exists_of_concat {earlier between : List Text} {header : Text}
    (h : above ++ [line] = earlier ++ header :: between) :
    (line = header ∧ between = []) ∨
      ∃ rest, above = earlier ++ header :: rest ∧ between = rest ++ [line] := by
  rcases List.eq_nil_or_concat' between with rfl | ⟨rest, last, rfl⟩
  · obtain ⟨-, hLine⟩ := List.append_inj' h rfl
    exact .inl ⟨by simpa using hLine, rfl⟩
  · rw [← List.cons_append, ← List.append_assoc] at h
    obtain ⟨hAbove, hLine⟩ := List.append_inj' h rfl
    exact .inr ⟨rest, hAbove, by rw [hLine]⟩

/-- Directly below a header no other header counts. -/
theorem under_header_iff (h : Text.trim line = '[' :: inner ++ [']']) :
    Under (above ++ [line]) name ↔ name = Text.trim inner := by
  have hShaped := headerShaped_of_trim h
  constructor
  · rintro (⟨-, hNone⟩ | ⟨earlier, header, between, other, hAbove, hHeader, rfl, hBetween⟩)
    · exact absurd hShaped (hNone line (by simp))
    · rcases eq_or_exists_of_concat hAbove with ⟨rfl, -⟩ | ⟨rest, -, rfl⟩
      · have hSame : '[' :: other ++ [']'] = '[' :: inner ++ [']'] := hHeader.symm.trans h
        rw [show other = inner by simpa using hSame]
      · exact absurd hShaped (hBetween line (by simp))
  · rintro rfl
    exact .inr ⟨above, line, [], inner, rfl, h, rfl, by simp⟩

/-- A line that is no header leaves the lines below it in the table of those above. -/
theorem under_plain_iff (h : ¬line.HeaderShaped) :
    Under (above ++ [line]) name ↔ Under above name := by
  constructor
  · rintro (⟨hName, hNone⟩ | ⟨earlier, header, between, other, hAbove, hHeader, hName, hBetween⟩)
    · exact .inl ⟨hName, fun other hOther => hNone other (List.mem_append_left _ hOther)⟩
    · rcases eq_or_exists_of_concat hAbove with ⟨rfl, -⟩ | ⟨rest, hRest, rfl⟩
      · exact absurd (headerShaped_of_trim hHeader) h
      · exact .inr ⟨earlier, header, rest, other, hRest, hHeader, hName,
          fun line hLine => hBetween line (List.mem_append_left _ hLine)⟩
  · rintro (⟨hName, hNone⟩ | ⟨earlier, header, between, other, rfl, hHeader, hName, hBetween⟩)
    · exact .inl ⟨hName, by simpa [or_imp, forall_and] using ⟨hNone, h⟩⟩
    · exact .inr ⟨earlier, header, between ++ [line], other, by simp, hHeader, hName,
        by simpa [or_imp, forall_and] using ⟨hBetween, h⟩⟩

end Under

section Search

/-- One step of the scan at a header: the table in it becomes the current one. -/
theorem findLine_of_header (h : Section.nameOfHeader? line = some inner) :
    findLine table leaf current n (line :: lines) =
      findLine table leaf (Text.trim inner) (n + 1) lines := by
  have hHeader : Text.stripBrackets (Text.trim line) = some inner := h
  simp [findLine, hHeader]

theorem assignsTo_iff : AssignsTo leaf line ↔ ¬line.HeaderShaped ∧
    (Text.splitFirst '=' (Text.trim line)).any (fun halves => Text.trim halves.1 = leaf) := by
  rw [Option.any_eq_true]
  constructor
  · rintro ⟨hPlain, before, after, hLine, hBefore, hLeaf⟩
    refine ⟨hPlain, (before, after), ?_, by simpa using hLeaf⟩
    rw [hLine, Text.splitFirst_append_cons hBefore]
  · rintro ⟨hPlain, ⟨before, after⟩, hSplit, hLeaf⟩
    obtain ⟨hLine, hBefore⟩ := Text.eq_append_of_splitFirst hSplit
    exact ⟨hPlain, before, after, hLine, hBefore, by simpa using hLeaf⟩

instance : Decidable (AssignsTo leaf line) :=
  decidable_of_iff _ assignsTo_iff.symm

/-- One step of the scan at any other line: it is the hit, or the scan goes on behind it. -/
theorem findLine_of_plain (h : ¬line.HeaderShaped) :
    findLine table leaf current n (line :: lines) =
      if current = table ∧ AssignsTo leaf line then n
      else findLine table leaf current (n + 1) lines := by
  have hPlain : Text.stripBrackets (Text.trim line) = none :=
    Section.nameOfHeader?_eq_none_iff.mpr h
  rw [findLine]
  simp only [hPlain, assignsTo_iff, h, not_false_eq_true, true_and, Bool.and_eq_true,
    decide_eq_true_eq]

/-- Of a line only its trimmed text counts. -/
theorem findLine_congr {others : List Text}
    (h : List.Forall₂ (fun line other => Text.trim line = Text.trim other) lines others) :
    findLine table leaf current n lines = findLine table leaf current n others := by
  induction h generalizing current n with
  | nil => rfl
  | cons hLine _ ih => simp only [findLine, hLine, ih]

/-- An empty line at the end is never a hit. -/
theorem findLine_concat_nil :
    findLine table leaf current n (lines ++ [[]]) = findLine table leaf current n lines := by
  induction lines generalizing current n with
  | nil =>
      have hTrim : Text.trim [] = [] := rfl
      simp [findLine, hTrim, Text.stripBrackets, Text.splitFirst]
  | cons line lines ih => simp only [List.cons_append, findLine, ih]

/-- The scan may cut at line feeds only, since carriage returns are blanks to it. -/
theorem findLine_splitAll (content : Text) :
    findLine table leaf current n (Text.splitAll '\n' content) =
      findLine table leaf current n (Text.fileLines content) := by
  obtain ⟨rest, hRest, hLines⟩ := Text.splitAll_fileLines content
  have hTrimmed : List.Forall₂ (fun line other => Text.trim line = Text.trim other)
      (Text.splitAll '\n' content) (Text.fileLines content ++ rest) := by
    refine hLines.imp fun piece line hPiece => ?_
    rcases hPiece with rfl | rfl
    · rfl
    · exact Text.trim_concat_blank (by decide)
  rw [findLine_congr hTrimmed]
  rcases hRest with rfl | rfl
  · rw [List.append_nil]
  · exact findLine_concat_nil

/-- Whether a line assigns to the key depends on the line and on the headers above it. -/
theorem assignsAt_length_iff : AssignsAt (above ++ line :: lines) table leaf above.length ↔
    AssignsTo leaf line ∧ Under above table := by
  simp [AssignsAt]

/-- The scan knows at every line which table the lines above it make. So it stops at the first line
from there on that assigns to the leaf in the table. -/
theorem firstFrom_findLine (above : List Text) (h : ∀ name, Under above name ↔ name = current) :
    FirstFrom (AssignsAt (above ++ lines) table leaf) above.length
      (findLine table leaf current (above.length + 1) lines) := by
  -- The lines behind the scan grow by each one that it passes, and so does the table they make.
  induction lines generalizing above current with
  | nil =>
      refine .inl ⟨rfl, ?_⟩
      rintro i hi ⟨line, hLine, -⟩
      rw [List.append_nil, List.getElem?_eq_none hi] at hLine
      cases hLine
  | cons line lines ih =>
      have hSplit : above ++ line :: lines = (above ++ [line]) ++ lines := by simp
      have hLength : above.length + 1 = (above ++ [line]).length := by simp
      cases hName : Section.nameOfHeader? line with
      | some inner =>
          have hHeader := Section.nameOfHeader?_eq_some_iff.mp hName
          have hOther : ¬AssignsAt (above ++ line :: lines) table leaf above.length :=
            fun hAssigns =>
              (assignsAt_length_iff.mp hAssigns).1.plain (headerShaped_of_trim hHeader)
          refine FirstFrom.of_succ ?_ hOther
          rw [findLine_of_header hName, hSplit, hLength]
          exact ih _ fun name => under_header_iff hHeader
      | none =>
          have hPlain := Section.nameOfHeader?_eq_none_iff.mp hName
          rw [findLine_of_plain hPlain]
          split
          next hFound =>
            exact firstFrom_self (assignsAt_length_iff.mpr ⟨hFound.2, (h table).mpr hFound.1.symm⟩)
          next hMissed =>
            have hOther : ¬AssignsAt (above ++ line :: lines) table leaf above.length := by
              intro hAssigns
              obtain ⟨hLine, hUnder⟩ := assignsAt_length_iff.mp hAssigns
              exact hMissed ⟨((h table).mp hUnder).symm, hLine⟩
            refine FirstFrom.of_succ ?_ hOther
            rw [hSplit, hLength]
            exact ih _ fun name => (under_plain_iff hPlain).trans (h name)

end Search

/-- The number of the line of a dotted key, whose table and leaf are what stands before and after
its last point. It is the first line that assigns to the leaf below a header of the table, counted
from one, and zero where no line does. -/
theorem keyLine_first {dotted : Text} (content : Text)
    (hParts : dotted = table ++ '.' :: leaf ∧ '.' ∉ leaf ∨
      table = [] ∧ leaf = dotted ∧ '.' ∉ dotted) :
    (∀ i, keyLine content dotted = i + 1 ↔ AssignsAt (Text.fileLines content) table leaf i ∧
        ∀ k < i, ¬AssignsAt (Text.fileLines content) table leaf k) ∧
      (keyLine content dotted = 0 ↔ ∀ i, ¬AssignsAt (Text.fileLines content) table leaf i) := by
  have hSplit : splitLastPoint dotted = (table, leaf) := by
    rcases hParts with ⟨rfl, hLeaf⟩ | ⟨rfl, rfl, hLeaf⟩
    · exact splitLastPoint_append_cons hLeaf
    · exact splitLastPoint_of_notMem hLeaf
  have hFirst : FirstFrom (AssignsAt (Text.fileLines content) table leaf) 0
      (keyLine content dotted) := by
    rw [keyLine, hSplit]
    change FirstFrom _ 0 (findLine table leaf [] 1 (Text.splitAll '\n' content))
    rw [findLine_splitAll]
    exact firstFrom_findLine [] fun name => under_nil_iff
  exact ⟨fun i => hFirst.eq_succ_iff, hFirst.eq_zero_iff⟩

/-- A file that opens a table twice. Its key stands there after all, but in other tables before. -/
def reopened : Text :=
  "typo = 1\n[report]\r\nx = typo\n[report.typo]\ntypo = 2\n[ report ]\ntypo = 3\ntypo = 4".toList

/-- The table is opened twice and the key stands below its second header. -/
theorem keyLine_first_reopened :
    "report.typo".toList = "report".toList ++ '.' :: "typo".toList ∧ '.' ∉ "typo".toList ∧
      keyLine reopened "report.typo".toList = 7 ∧
      AssignsAt (Text.fileLines reopened) "report".toList "typo".toList 6 ∧
      ∀ k < 6, ¬AssignsAt (Text.fileLines reopened) "report".toList "typo".toList k := by
  have hParts : "report.typo".toList = "report".toList ++ '.' :: "typo".toList ∧
      '.' ∉ "typo".toList := by
    decide
  have hSeventh : keyLine reopened "report.typo".toList = 7 := by decide
  obtain ⟨hFirst, -⟩ := keyLine_first reopened (.inl hParts)
  exact ⟨hParts.1, hParts.2, hSeventh, (hFirst 6).mp hSeventh⟩

end Settings
end Rubric
