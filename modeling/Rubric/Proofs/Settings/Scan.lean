import Rubric.Proofs.Text.Trim
import Rubric.Proofs.Toml.Places
import Rubric.Settings.Unknown

/-! The search for the line of a key. It goes by the looks of trimmed lines, and tells a table by
the text of its header. In files that can be taken line by line this finds what the lines say. -/
namespace Rubric

namespace Toml

/-- What a line is once it is trimmed. -/
inductive Row.Trimmed : Row → Text → Prop where
  | blank : Trimmed .empty []
  | comment (t : Text) : Trimmed .empty ('#' :: t)
  | header {path parts : List Text} {key : Text}
      (padded : List.Forall₂ Padded (path ++ [key]) parts) :
      Trimmed (.header path key) ('[' :: (Text.joinWith '.' parts ++ [']']))
  | assign {key after : Text} {v : Value} (bare : IsBare key) (gaps : IsGaps after) (t : Text) :
      Trimmed (.assign key v) (key ++ (after ++ '=' :: t))

variable {c : Char} {t gap line tail rest name part key : Text} {names parts : List Text}
  {row : Row} {rows : List Row}

theorem isBlank_of_isGap (h : isGap c = true) : Text.isBlank c = true := by
  have hGap : c = ' ' ∨ c = '\t' := by simpa [isGap] using h
  obtain rfl | rfl := hGap <;> decide

/-- Both keys and blanks are ranges of code points, and these do not meet. -/
theorem isBlank_of_isKeyChar (h : isKeyChar c = true) : Text.isBlank c = false := by
  have hRange : 45 ≤ c.toNat ∧ c.toNat ≤ 122 := by
    change ((decide (c.val ≥ 'A'.val ∧ c.val ≤ 'Z'.val) ||
      (decide (c.val ≥ 'a'.val) && decide (c.val ≤ 'z'.val)) || c.isDigit) ||
        c == '_' || c == '-') = true at h
    simp [UInt32.le_iff_toNat_le, Char.isDigit_iff_toNat] at h
    obtain (h | rfl) | rfl := h
    · omega
    · decide
    · decide
  simp only [Text.isBlank, Bool.or_eq_false_iff, Bool.and_eq_false_iff, beq_eq_false_iff_ne,
    decide_eq_false_iff_not]
  omega

theorem IsGaps.all_isBlank (h : IsGaps gap) : gap.all Text.isBlank = true :=
  List.all_eq_true.mpr fun c hc => isBlank_of_isGap (h c hc)

theorem IsBare.trim_eq (h : IsBare name) : Text.trim name = name :=
  Text.trim_of_solid fun c hc => isBlank_of_isKeyChar (h.2 c hc)

/-- What is trimmed in front of a bare name are the blanks before it. -/
theorem trimStart_bare (hGap : IsGaps gap) (h : IsBare name) :
    Text.trimStart (gap ++ (name ++ t)) = name ++ t := by
  obtain ⟨first, name, rfl⟩ := List.exists_cons_of_ne_nil h.1
  have hFirst := isBlank_of_isKeyChar (h.2 first List.mem_cons_self)
  rw [Text.trimStart, List.dropWhile_append_of_pos fun c hc => isBlank_of_isGap (hGap c hc),
    List.cons_append, List.dropWhile_cons_of_neg (by simp [hFirst])]

/-- What the scan sees of a row is the row without the blanks around it. -/
theorem Row.Spells.trimmed (h : row.Spells tail rest line) : row.Trimmed (Text.trim line) := by
  cases h with
  | blank hGaps =>
      rw [Text.trim_eq_nil_iff.mpr hGaps.all_isBlank]
      exact .blank
  | @comment gap t hGaps =>
      rw [Text.trim_append_cons (by decide), Text.trimStart,
        List.dropWhile_eq_nil_iff.mpr fun c hc => isBlank_of_isGap (hGaps c hc)]
      exact .comment _
  | @header before after key path parts hBefore hAfter hPadded =>
      have hText : before ++ '[' :: (Text.joinWith '.' parts ++ ']' :: after) =
          before ++ ('[' :: (Text.joinWith '.' parts ++ [']'])) ++ after := by simp
      have hEnd : Text.trimEnd (Text.joinWith '.' parts ++ [']']) =
          Text.joinWith '.' parts ++ [']'] :=
        Text.trimEnd_append_cons (by decide)
      rw [hText, Text.trim_append hBefore.all_isBlank hAfter.all_isBlank,
        ← List.nil_append ('[' :: _), Text.trim_append_cons (by decide), hEnd]
      exact .header hPadded
  | @assign key part t v hPadded =>
      obtain ⟨hName, before, after, hBefore, hAfter, rfl⟩ := hPadded
      rw [Text.trim_append_cons (by decide), trimStart_bare hBefore hName, List.append_assoc]
      exact .assign hName hAfter _

theorem IsGaps.notMem (h : IsGaps gap) (hc : isGap c = false) : c ∉ gap :=
  fun hMem => by simp [h c hMem] at hc

theorem IsBare.notMem (h : IsBare name) (hc : isKeyChar c = false) : c ∉ name :=
  fun hMem => by simp [h.2 c hMem] at hc

/-- A name between gaps holds nothing but name characters and gaps. -/
theorem Padded.notMem (h : Padded name part) (hGap : isGap c = false)
    (hKey : isKeyChar c = false) : c ∉ part := by
  obtain ⟨hName, before, after, hBefore, hAfter, rfl⟩ := h
  simp [hName.notMem hKey, hBefore.notMem hGap, hAfter.notMem hGap]

theorem notMem_joinWith (h : List.Forall₂ Padded names parts) : '\n' ∉ Text.joinWith '.' parts := by
  induction h with
  | nil => simp [Text.joinWith]
  | cons hPart hParts ih =>
      have hFirst := hPart.notMem (c := '\n') (by decide) (by decide)
      cases hParts with
      | nil => exact hFirst
      | cons =>
          rw [Text.joinWith_cons (by simp)]
          simp [hFirst, ih]

/-- A row is a single line. -/
theorem Row.Spells.notMem_lineFeed (h : row.Spells tail rest line) : '\n' ∉ line := by
  have hGap : isGap '\n' = false := by decide
  cases h with
  | blank hGaps => exact hGaps.notMem hGap
  | @comment gap t hGaps hShown =>
      have hComment : '\n' ∉ t := fun hMem => absurd (hShown _ hMem) (by decide)
      simp [hGaps.notMem hGap, hComment]
  | @header before after key path parts hBefore hAfter hPadded =>
      simp [hBefore.notMem hGap, hAfter.notMem hGap, notMem_joinWith hPadded]
  | @assign key part t v hPadded hLine =>
      have hRest : '\n' ∉ t := fun hMem => (hLine _ hMem).1 rfl
      simp [hPadded.notMem hGap (by decide), hRest]

/-- Taken apart at its line feeds, a file shows its lines. -/
theorem Rows.trimmed (h : Rows t rows) :
    List.Forall₂ (fun row text => row.Trimmed (Text.trim text)) rows (Text.splitAll '\n' t) := by
  induction h with
  | last hSpells =>
      rw [Text.splitAll_of_notMem hSpells.notMem_lineFeed]
      exact .cons hSpells.trimmed .nil
  | @cons line tail rest row rows hSpells hEnds hMore ih =>
      have hLine := hSpells.notMem_lineFeed
      obtain rfl | rfl := newline?_eq_some_iff.mp hEnds
      · rw [Text.splitAll_append_cons hLine]
        exact .cons hSpells.trimmed ih
      · have hText : line ++ '\r' :: '\n' :: rest = (line ++ ['\r']) ++ '\n' :: rest := by simp
        rw [hText, Text.splitAll_append_cons (by simpa using hLine)]
        refine .cons ?_ ih
        rw [Text.trim_concat_blank (by decide)]
        exact hSpells.trimmed

/-- The text of a header begins with its first name, and goes on where there are more. -/
theorem exists_trim_joinWith (h : List.Forall₂ Padded (name :: names) parts) :
    ∃ more, Text.trim (Text.joinWith '.' parts) = name ++ more ∧ (more = [] ↔ names = []) ∧
      ∀ c, more.head? = some c → isKeyChar c = false := by
  obtain ⟨part, parts, ⟨hName, before, after, hBefore, hAfter, rfl⟩, hParts, rfl⟩ :=
    List.forall₂_cons_left_iff.mp h
  cases names with
  | nil =>
      obtain rfl := List.forall₂_nil_left_iff.mp hParts
      refine ⟨[], ?_, by simp, by simp⟩
      rw [Text.joinWith, ← List.append_assoc,
        Text.trim_append hBefore.all_isBlank hAfter.all_isBlank, hName.trim_eq, List.append_nil]
  | cons next names =>
      obtain ⟨second, parts, -, -, rfl⟩ := List.forall₂_cons_left_iff.mp hParts
      refine ⟨after ++ '.' :: Text.trimEnd (Text.joinWith '.' (second :: parts)), ?_, by simp, ?_⟩
      · rw [Text.joinWith_cons (by simp), Text.trim_append_cons (by decide),
          trimStart_bare hBefore hName, List.append_assoc]
      · intro c hc
        cases after with
        | nil =>
            obtain rfl : '.' = c := by simpa using hc
            decide
        | cons d after =>
            obtain rfl : d = c := by simpa using hc
            exact isKeyChar_of_isGap (hAfter d List.mem_cons_self)

/-- A bare name is the text of the header that says just this name. -/
theorem trim_joinWith_eq_iff (h : List.Forall₂ Padded names parts) (hNe : names ≠ [])
    (hName : IsBare name) : Text.trim (Text.joinWith '.' parts) = name ↔ names = [name] := by
  obtain ⟨first, names, rfl⟩ := List.exists_cons_of_ne_nil hNe
  obtain ⟨more, hText, hMore, hHead⟩ := exists_trim_joinWith h
  rw [hText]
  constructor
  · rintro rfl
    have hNil : more = [] := by
      cases more with
      | nil => rfl
      | cons c more =>
          have hKey := hName.2 c (by simp)
          rw [hHead c rfl] at hKey
          cases hKey
    rw [hMore.mp hNil, hNil, List.append_nil]
  · rintro hSame
    obtain ⟨rfl, hNil⟩ := List.cons.inj hSame
    rw [hMore.mpr hNil, List.append_nil]

theorem trim_joinWith_ne_nil (h : List.Forall₂ Padded names parts) (hNe : names ≠ []) :
    Text.trim (Text.joinWith '.' parts) ≠ [] := by
  obtain ⟨first, names, rfl⟩ := List.exists_cons_of_ne_nil hNe
  obtain ⟨part, parts, hPadded, -, rfl⟩ := List.forall₂_cons_left_iff.mp h
  obtain ⟨more, hText, -⟩ := exists_trim_joinWith h
  simp [hText, hPadded.1.1]

/-- The first name of a dotted key is what stands before its first other character. -/
theorem takeWhile_trim_joinWith (h : List.Forall₂ Padded (name :: names) parts) :
    (Text.trim (Text.joinWith '.' parts)).takeWhile isKeyChar = name := by
  obtain ⟨part, parts, hPadded, -, rfl⟩ := List.forall₂_cons_left_iff.mp h
  obtain ⟨more, hText, -, hHead⟩ := exists_trim_joinWith h
  rw [hText, List.takeWhile_append_of_pos hPadded.1.2]
  cases more with
  | nil => simp
  | cons c more => simp [hHead c rfl]

end Toml

namespace Settings

open Toml (Row Padded IsBare places)

/-- The number of the line that assigns to a path, and zero if there is none. -/
def lineOf (taken : List Toml.Place) (path : List Text) : Nat :=
  ((taken.find? fun place => place.value.isSome && place.path = path).map (·.line)).getD 0

variable {table leaf current text key : Text} {line : Nat} {lines parts : List Text}
  {path context : List Text} {v : Toml.Value} {rows : List Row}

/-- A line without a statement is passed over, unless it is a comment that begins as the key
does. -/
theorem findLine_empty (h : Row.empty.Trimmed (Text.trim text))
    (hLeaf : current = table → '#' ∉ leaf) :
    findLine table leaf current line (text :: lines) =
      findLine table leaf current (line + 1) lines := by
  rw [findLine]
  generalize Text.trim text = trimmed at h
  cases h with
  | blank => simp [Text.stripBrackets, Text.splitFirst]
  | comment t =>
      have hOther : Text.stripBrackets ('#' :: t) = none := by simp [Text.stripBrackets]
      have hKey : ∀ key, Text.trim ('#' :: key) = '#' :: Text.trimEnd key :=
        fun key => Text.trim_append_cons (s := []) (by decide)
      simp only [hOther]
      refine if_neg fun hFound => ?_
      obtain ⟨hCurrent, hFound⟩ := Bool.and_eq_true_iff.mp hFound
      refine hLeaf (by simpa using hCurrent) ?_
      rw [Text.splitFirst, if_neg (by decide), Option.any_map, Option.any_eq_true] at hFound
      obtain ⟨halves, -, hSame⟩ := hFound
      have hSame : Text.trim ('#' :: halves.1) = leaf := by simpa using hSame
      simp [← hSame, hKey]

/-- At the header of a row the scan takes up the table that the header names. -/
theorem findLine_header (table leaf current : Text) (line : Nat) (lines : List Text)
    (h : (Row.header path key).Trimmed (Text.trim text)) :
    ∃ parts, List.Forall₂ Padded (path ++ [key]) parts ∧
      findLine table leaf current line (text :: lines) =
        findLine table leaf (Text.trim (Text.joinWith '.' parts)) (line + 1) lines := by
  rw [findLine]
  generalize Text.trim text = trimmed at h
  cases h with
  | @header _ parts _ hPadded =>
      refine ⟨parts, hPadded, ?_⟩
      simp [Text.stripBrackets]

/-- At the assignment of a row the scan stops if table and name are those it looks for. -/
theorem findLine_assign (h : (Row.assign key v).Trimmed (Text.trim text)) :
    findLine table leaf current line (text :: lines) =
      if current = table ∧ key = leaf then line
      else findLine table leaf current (line + 1) lines := by
  rw [findLine]
  generalize Text.trim text = trimmed at h
  cases h with
  | @assign _ after _ hBare hGaps t =>
      have hOther : Text.stripBrackets (key ++ (after ++ '=' :: t)) = none := by
        obtain ⟨first, key, rfl⟩ := List.exists_cons_of_ne_nil hBare.1
        have hFirst : first ≠ '[' := by
          rintro rfl
          exact hBare.notMem (by decide) List.mem_cons_self
        simp [Text.stripBrackets, hFirst]
      have hMark : '=' ∉ key ++ after := by
        simp [hBare.notMem (c := '=') (by decide), hGaps.notMem (c := '=') (by decide)]
      have hTrim : Text.trim (key ++ after) = key :=
        (Text.trim_append (s := []) rfl hGaps.all_isBlank).trans hBare.trim_eq
      simp only [hOther]
      rw [← List.append_assoc, Text.splitFirst_append_cons hMark]
      simp [hTrim]

/-- The line of a path is that of the first place which assigns it. -/
theorem lineOf_cons (place : Toml.Place) (taken : List Toml.Place) (path : List Text) :
    lineOf (place :: taken) path =
      if place.value.isSome ∧ place.path = path then place.line else lineOf taken path := by
  rw [lineOf, List.find?_cons]
  by_cases hPath : place.value.isSome ∧ place.path = path
  · have hFound : (place.value.isSome && decide (place.path = path)) = true := by simpa using hPath
    rw [if_pos hPath, hFound]
    rfl
  · have hOther : (place.value.isSome && decide (place.path = path)) = false := by
      simpa using hPath
    rw [if_neg hPath, hOther]
    rfl

theorem lineOf_eq_zero {taken : List Toml.Place}
    (h : ∀ place ∈ taken, place.value.isSome → place.path ≠ path) : lineOf taken path = 0 := by
  induction taken with
  | nil => rfl
  | cons place taken ih =>
      obtain ⟨hFirst, hRest⟩ := List.forall_mem_cons.mp h
      rw [lineOf_cons, if_neg fun hPlace => hFirst hPlace.1 hPlace.2, ih hRest]

/-- A path that is assigned only once has the line of its place. -/
theorem lineOf_eq {taken : List Toml.Place} {place : Toml.Place} (hPlace : place ∈ taken)
    (hValue : place.value.isSome)
    (hAlone : ∀ other ∈ taken, other.value.isSome → other.path = place.path → other = place) :
    lineOf taken place.path = place.line := by
  induction taken with
  | nil => cases hPlace
  | cons first taken ih =>
      obtain ⟨hFirst, hRest⟩ := List.forall_mem_cons.mp hAlone
      rw [lineOf_cons]
      split
      next hSame => rw [hFirst hSame.1 hSame.2]
      next hOther =>
        rcases List.mem_cons.mp hPlace with rfl | hLater
        · exact absurd ⟨hValue, rfl⟩ hOther
        · exact ih hLater hRest

/-- Lines that are looked through for a key under a header that names a table show the assignment to
the key in this table. -/
theorem findLine_eq_lineOf
    (h : List.Forall₂ (fun row text => row.Trimmed (Text.trim text)) rows lines)
    (hLeaf : '#' ∉ leaf)
    (hTable : ∀ names parts, names ≠ [] → List.Forall₂ Padded names parts →
      (Text.trim (Text.joinWith '.' parts) = table ↔ names = context))
    (hCurrent : current = table ↔ path = context) :
    findLine table leaf current line lines =
      lineOf (places path line rows) (context ++ [leaf]) := by
  induction h generalizing current path line with
  | nil => rfl
  | @cons row text rows lines hRow hRows ih =>
      cases row with
      | empty => rw [findLine_empty hRow fun _ => hLeaf, ih hCurrent, places]
      | header inner key =>
          obtain ⟨parts, hPadded, hFind⟩ := findLine_header table leaf current line lines hRow
          rw [hFind, ih (hTable _ _ (by simp) hPadded), places, lineOf_cons]
          simp
      | assign key v =>
          rw [findLine_assign hRow, ih hCurrent, places, lineOf_cons]
          simp [hCurrent, List.append_singleton_inj]

/-- Under a header that no line shows, nothing is found. -/
theorem findLine_eq_zero
    (h : List.Forall₂ (fun row text => row.Trimmed (Text.trim text)) rows lines)
    (hTable : ∀ place ∈ places path line rows, place.value = none →
      ∀ parts, List.Forall₂ Padded place.path parts → Text.trim (Text.joinWith '.' parts) ≠ table)
    (hCurrent : current ≠ table) : findLine table leaf current line lines = 0 := by
  induction h generalizing current path line with
  | nil => rfl
  | @cons row text rows lines hRow hRows ih =>
      cases row with
      | empty =>
          rw [findLine_empty hRow fun hSame => absurd hSame hCurrent]
          exact ih hTable hCurrent
      | header inner key =>
          obtain ⟨parts, hPadded, hFind⟩ := findLine_header table leaf current line lines hRow
          obtain ⟨hFirst, hRest⟩ := List.forall_mem_cons.mp hTable
          rw [hFind]
          exact ih hRest (hFirst rfl parts hPadded)
      | assign key v =>
          rw [findLine_assign hRow, if_neg fun hFound => hCurrent hFound.1]
          exact ih (List.forall_mem_cons.mp hTable).2 hCurrent

end Settings
end Rubric
