import Mathlib.Data.List.Forall2
import Rubric.Proofs.Text.Lines
import Rubric.Toml.Reader

/-! Files that can be taken line by line: every line is blank or a comment, or the header of a
table, or it assigns a value, that ends with the line, to one bare key. Reading such a file as a
whole gives what its lines say one by one. -/
namespace Rubric.Toml

/-- A name that needs no quotes. -/
def IsBare (name : Text) : Prop :=
  name ≠ [] ∧ ∀ c ∈ name, isKeyChar c = true

instance (name : Text) : Decidable (IsBare name) :=
  decidable_of_iff (name ≠ [] ∧ name.all isKeyChar = true) (by simp [IsBare])

def IsGaps (t : Text) : Prop :=
  ∀ c ∈ t, isGap c = true

/-- A bare name with blanks around it. -/
def Padded (name part : Text) : Prop :=
  IsBare name ∧ ∃ before after, IsGaps before ∧ IsGaps after ∧ part = before ++ (name ++ after)

/-- What a line says: nothing, that a table begins, or the value of a key. -/
inductive Row where
  | empty
  | header (path : List Text) (key : Text)
  | assign (key : Text) (v : Value)

/-- A line says this in a file that goes on with `tail` behind it. The next line begins with
`rest`. -/
inductive Row.Spells (tail rest : Text) : Row → Text → Prop where
  | blank {gap : Text} (gaps : IsGaps gap) : Spells tail rest .empty gap
  | comment {gap t : Text} (gaps : IsGaps gap) (shown : ∀ c ∈ t, isShown c = true) :
      Spells tail rest .empty (gap ++ '#' :: t)
  | header {before after key : Text} {path parts : List Text} (gapsBefore : IsGaps before)
      (gapsAfter : IsGaps after) (padded : List.Forall₂ Padded (path ++ [key]) parts) :
      Spells tail rest (.header path key)
        (before ++ '[' :: (Text.joinWith '.' parts ++ ']' :: after))
  | assign {key part t : Text} {v : Value} (padded : Padded key part)
      (line : ∀ c ∈ t, c ≠ '\n' ∧ c ≠ '\r') (read : readAssigned (t ++ tail) = some (v, rest)) :
      Spells tail rest (.assign key v) (part ++ '=' :: t)

/-- The lines of a file and what they say. -/
inductive Rows : Text → List Row → Prop where
  | last {line : Text} {row : Row} (spells : row.Spells [] [] line) : Rows line [row]
  | cons {line tail rest : Text} {row : Row} {rows : List Row} (spells : row.Spells tail rest line)
      (ends : newline? tail = some rest) (more : Rows rest rows) : Rows (line ++ tail) (row :: rows)

def Row.statement? : Row → Option Statement
  | empty => none
  | header path key => some (.table path key)
  | assign key v => some (.assign [] key v)

/-- What may stand behind a line: a line end with the next line, or nothing. -/
def Follows (tail rest : Text) : Prop :=
  tail = [] ∧ rest = [] ∨ newline? tail = some rest

variable {c : Char} {name part gap line t tail rest key before after : Text}
  {path names parts : List Text} {v : Value} {row : Row} {rows : List Row}
  {statement : Statement} {statements : List Statement} {bound fuel : Nat}

/-- A line ends in a line feed, alone or behind a carriage return. -/
theorem newline?_eq_some_iff :
    newline? tail = some rest ↔ tail = '\n' :: rest ∨ tail = '\r' :: '\n' :: rest := by
  fun_cases newline? tail <;> simp_all [eq_comm]

theorem Follows.cases (h : Follows tail rest) :
    tail = [] ∧ rest = [] ∨ tail = '\n' :: rest ∨ tail = '\r' :: '\n' :: rest := by
  rwa [Follows, newline?_eq_some_iff] at h

section Space

theorem skipGap_append (h : IsGaps gap) : skipGap (gap ++ t) = skipGap t :=
  List.dropWhile_append_of_pos h

theorem skipGap_cons (h : isGap c = false) : skipGap (c :: t) = c :: t := by
  simp [skipGap, h]

/-- There is no gap to skip at the end of a row. -/
theorem Follows.skipGap (h : Follows tail rest) : skipGap tail = tail := by
  obtain ⟨rfl, -⟩ | rfl | rfl := h.cases <;> rfl

/-- A gap may stand between a value and the end of its row. -/
theorem lineEnd?_append (hGap : IsGaps gap) (h : Follows tail rest) :
    lineEnd? (gap ++ tail) = some rest := by
  rw [lineEnd?, skipGap_append hGap, h.skipGap]
  obtain ⟨rfl, rfl⟩ | rfl | rfl := h.cases <;> rfl

theorem skipLayout_append (h : IsGaps gap) :
    skipLayout false (gap ++ t) = skipLayout false t := by
  induction gap with
  | nil => rfl
  | cons c gap ih =>
      obtain ⟨hFirst, hGap⟩ := List.forall_mem_cons.mp h
      have hBlank : c = ' ' ∨ c = '\t' := by simpa [isGap] using hFirst
      rw [← ih hGap]
      obtain rfl | rfl := hBlank <;> simp [skipLayout, isGap]

/-- A comment reaches to the end of its row. -/
theorem skipLayout_comment (ht : ∀ c ∈ t, isShown c = true) (h : Follows tail rest) :
    skipLayout true (t ++ tail) = skipLayout false rest := by
  induction t with
  | nil => obtain ⟨rfl, rfl⟩ | rfl | rfl := h.cases <;> simp [skipLayout]
  | cons c t ih =>
      obtain ⟨hFirst, ht⟩ := List.forall_mem_cons.mp ht
      have hFeed : c ≠ '\n' := by
        rintro rfl
        exact absurd hFirst (by decide)
      have hReturn : c ≠ '\r' := by
        rintro rfl
        exact absurd hFirst (by decide)
      rw [← ih ht, List.cons_append, skipLayout.eq_def]
      split
      next hNil => cases hNil
      next hPair => exact absurd (List.cons.inj hPair).1 hReturn
      next hCons =>
        obtain ⟨rfl, rfl⟩ := List.cons.inj hCons
        simp [hFeed, hFirst]

/-- A character that is no blank, no line end and no mark of a comment ends the layout. -/
theorem skipLayout_solid (h : c ∉ "\n\r# \t".toList) : skipLayout false (c :: t) = c :: t := by
  simp only [String.reduceToList, List.mem_cons, List.not_mem_nil, or_false, not_or] at h
  obtain ⟨hFeed, hReturn, hMark, hSpace, hTab⟩ := h
  rw [skipLayout.eq_def]
  split
  next hNil => cases hNil
  next hPair => exact absurd (List.cons.inj hPair).1 hReturn
  next hCons =>
    obtain ⟨rfl, rfl⟩ := List.cons.inj hCons
    simp [isGap, hFeed, hMark, hSpace, hTab]

end Space

section Keys

/-- No character is both part of a bare name and of a gap. -/
theorem isKeyChar_of_isGap (h : isGap c = true) : isKeyChar c = false := by
  have hBlank : c = ' ' ∨ c = '\t' := by simpa [isGap] using h
  obtain rfl | rfl := hBlank <;> decide

theorem isGap_of_isKeyChar (h : isKeyChar c = true) : isGap c = false := by
  by_contra hGap
  rw [isKeyChar_of_isGap (by simpa using hGap)] at h
  cases h

/-- A bare name is read up to the first character that cannot be part of it. -/
theorem readKey_bare (h : IsBare name) (hRest : ∀ c, rest.head? = some c → isKeyChar c = false) :
    readKey (name ++ rest) = some (name, rest) := by
  obtain ⟨hNe, hName⟩ := h
  have hTake : rest.takeWhile isKeyChar = [] := by
    cases rest with
    | nil => rfl
    | cons c rest => simp [hRest c rfl]
  have hDrop : rest.dropWhile isKeyChar = rest := by
    cases rest with
    | nil => rfl
    | cons c rest => simp [hRest c rfl]
  obtain ⟨first, name, rfl⟩ := List.exists_cons_of_ne_nil hNe
  have hFirst : isKeyChar first = true := hName first List.mem_cons_self
  rw [readKey.eq_def]
  split
  next hQuote =>
    obtain ⟨rfl, -⟩ := List.cons.inj hQuote
    exact absurd hFirst (by decide)
  next hQuote =>
    obtain ⟨rfl, -⟩ := List.cons.inj hQuote
    exact absurd hFirst (by decide)
  next =>
    rw [List.takeWhile_append_of_pos hName, List.dropWhile_append_of_pos hName, hTake, hDrop,
      List.append_nil]

/-- A padded name is read up to what ends it, and the blanks around it are passed over. -/
theorem readKey_padded (rest : Text) (h : Padded name part) (hEnd : isKeyChar c = false) :
    ∃ after, IsGaps after ∧
      readKey (skipGap (part ++ c :: rest)) = some (name, after ++ c :: rest) := by
  obtain ⟨hName, before, after, hBefore, hAfter, rfl⟩ := h
  refine ⟨after, hAfter, ?_⟩
  have hSkip : skipGap (name ++ (after ++ c :: rest)) = name ++ (after ++ c :: rest) := by
    obtain ⟨first, name, rfl⟩ := List.exists_cons_of_ne_nil hName.1
    exact skipGap_cons (isGap_of_isKeyChar (hName.2 first List.mem_cons_self))
  rw [List.append_assoc, List.append_assoc, skipGap_append hBefore, hSkip]
  refine readKey_bare hName fun d hHead => ?_
  cases after with
  | nil =>
      obtain rfl : c = d := Option.some.inj hHead
      exact hEnd
  | cons gap after =>
      obtain rfl : gap = d := Option.some.inj hHead
      exact isKeyChar_of_isGap (hAfter gap List.mem_cons_self)

/-- Padded names with points between them are read, unless they are too many. -/
theorem readParts_padded (h : List.Forall₂ Padded (name :: names) parts)
    (hEnd : isKeyChar c = false) (hGap : isGap c = false) (hPoint : c ≠ '.') :
    readParts bound (Text.joinWith '.' parts ++ c :: rest) =
      if names.length < bound then some (name :: names, c :: rest) else none := by
  induction names generalizing name parts bound with
  | nil =>
      obtain ⟨part, parts, hPart, hNil, rfl⟩ := List.forall₂_cons_left_iff.mp h
      obtain rfl := List.forall₂_nil_left_iff.mp hNil
      obtain ⟨after, hAfter, hKey⟩ := readKey_padded rest hPart hEnd
      cases bound with
      | zero => rfl
      | succ bound =>
          have hSkip : skipGap (after ++ c :: rest) = c :: rest := by
            rw [skipGap_append hAfter, skipGap_cons hGap]
          simp [readParts, Text.joinWith, hKey, hSkip, hPoint]
  | cons next names ih =>
      obtain ⟨part, parts, hPart, hParts, rfl⟩ := List.forall₂_cons_left_iff.mp h
      obtain ⟨second, parts, -, -, rfl⟩ := List.forall₂_cons_left_iff.mp hParts
      have hText : Text.joinWith '.' (part :: second :: parts) ++ c :: rest =
          part ++ '.' :: (Text.joinWith '.' (second :: parts) ++ c :: rest) := by
        rw [Text.joinWith_cons (by simp), List.append_assoc, List.cons_append]
      obtain ⟨after, hAfter, hKey⟩ := readKey_padded (c := '.')
        (Text.joinWith '.' (second :: parts) ++ c :: rest) hPart (by decide)
      cases bound with
      | zero => rfl
      | succ bound =>
          rw [readParts, hText, hKey]
          have hSkip := (skipGap_append hAfter).trans (skipGap_cons (c := '.')
            (t := Text.joinWith '.' (second :: parts) ++ c :: rest) (by decide))
          simp only [Option.bind_eq_bind, Option.bind_some, hSkip, ih hParts, List.length_cons,
            Nat.add_lt_add_iff_right]
          split <;> rfl

/-- No key starts with a bracket. -/
theorem joinWith_padded_ne (h : List.Forall₂ Padded (path ++ [key]) parts) :
    Text.joinWith '.' parts ++ ']' :: rest ≠ '[' :: t := by
  intro hText
  obtain ⟨name, names, hNames⟩ := List.exists_cons_of_ne_nil (l := path ++ [key]) (by simp)
  have hSome : readParts (names.length + 1) ('[' :: t) = some (name :: names, ']' :: rest) := by
    rw [← hText, readParts_padded (hNames ▸ h) (by decide) (by decide) (by decide),
      if_pos (by simp)]
  have hNone : readParts (names.length + 1) ('[' :: t) = none := rfl
  rw [hNone] at hSome
  cases hSome

/-- The names of a header and of an assignment are read as a path and the last name. -/
theorem readDotted_padded (h : List.Forall₂ Padded (path ++ [key]) parts)
    (hEnd : isKeyChar c = false) (hGap : isGap c = false) (hPoint : c ≠ '.')
    {dotted : List Text × Text × Text}
    (hRead : readDotted (Text.joinWith '.' parts ++ c :: rest) = some dotted) :
    dotted = (path, key, c :: rest) := by
  obtain ⟨name, names, hNames⟩ := List.exists_cons_of_ne_nil (l := path ++ [key]) (by simp)
  rw [readDotted, readParts_padded (hNames ▸ h) hEnd hGap hPoint, ← hNames] at hRead
  split at hRead
  next => simpa [eq_comm] using hRead
  next => cases hRead

end Keys

section Statements

/-- A header is read with the rest of its line. -/
theorem readStatement_header (hAfter : IsGaps after)
    (h : List.Forall₂ Padded (path ++ [key]) parts) (hFollows : Follows tail rest)
    (hRead : readStatement ('[' :: (Text.joinWith '.' parts ++ ']' :: (after ++ tail))) =
      some (statement, t)) : statement = .table path key ∧ t = rest := by
  rw [readStatement.eq_def] at hRead
  split at hRead
  next hTwo => exact absurd (List.cons.inj hTwo).2 (joinWith_padded_ne h)
  next hOne =>
    obtain rfl := (List.cons.inj hOne).2
    obtain ⟨dotted, hDotted, hRead⟩ := Option.bind_eq_some_iff.mp hRead
    obtain rfl := readDotted_padded h (by decide) (by decide) (by decide) hDotted
    simpa [lineEnd?_append hAfter hFollows, eq_comm] using hRead
  next hOther => exact absurd rfl (hOther _)

/-- An assignment is read with the rest of its line. -/
theorem readStatement_assign (h : Padded key part)
    (hOpen : ∀ after, part ++ '=' :: (line ++ tail) ≠ '[' :: after)
    (hAssigned : readAssigned (line ++ tail) = some (v, rest))
    (hRead : readStatement (part ++ '=' :: (line ++ tail)) = some (statement, t)) :
    statement = .assign [] key v ∧ t = rest := by
  rw [readStatement.eq_def] at hRead
  split at hRead
  next hTwo => exact absurd hTwo (hOpen _)
  next hOne => exact absurd hOne (hOpen _)
  next =>
    obtain ⟨dotted, hDotted, hRead⟩ := Option.bind_eq_some_iff.mp hRead
    have hParts : List.Forall₂ Padded ([] ++ [key]) [part] := .cons h .nil
    obtain rfl := readDotted_padded hParts (by decide) (by decide) (by decide) hDotted
    simpa [hAssigned, eq_comm] using hRead

/-- The text from the first line with a statement on begins with that statement. -/
theorem readStatements_of_skipLayout {body : Text} (hBody : body ≠ [])
    (hSkip : skipLayout false t = body)
    (hStatement : ∀ found after, readStatement body = some (found, after) →
      found = statement ∧ after = rest)
    (hRead : readStatements fuel t = some statements) :
    ∃ fuel others, readStatements fuel rest = some others ∧ statements = statement :: others := by
  cases fuel with
  | zero => cases hRead
  | succ fuel =>
      rw [readStatements, hSkip] at hRead
      split at hRead
      next => exact absurd rfl hBody
      next =>
        obtain ⟨⟨found, after⟩, hFound, hRead⟩ := Option.bind_eq_some_iff.mp hRead
        obtain ⟨others, hOthers, hRead⟩ := Option.bind_eq_some_iff.mp hRead
        obtain ⟨rfl, rfl⟩ := hStatement found after hFound
        exact ⟨fuel, others, hOthers, (Option.some.inj hRead).symm⟩

/-- Layout in front of the statements does not change what they are. -/
theorem readStatements_congr (h : skipLayout false t = skipLayout false rest) :
    readStatements fuel t = readStatements fuel rest := by
  cases fuel with
  | zero => rfl
  | succ fuel => rw [readStatements, readStatements, h]

/-- What is read of a line is what it says, and the next line is read behind it. -/
theorem readStatements_row (h : row.Spells tail rest line) (hFollows : Follows tail rest)
    (hRead : readStatements fuel (line ++ tail) = some statements) :
    ∃ fuel others, readStatements fuel rest = some others ∧
      statements = row.statement?.toList ++ others := by
  cases h with
  | blank hGaps =>
      have hSkip : skipLayout false (line ++ tail) = skipLayout false rest := by
        rw [skipLayout_append hGaps]
        obtain ⟨rfl, rfl⟩ | rfl | rfl := hFollows.cases <;> simp [skipLayout]
      exact ⟨fuel, statements, readStatements_congr hSkip ▸ hRead, rfl⟩
  | @comment gap t hGaps hShown =>
      have hSkip : skipLayout false (gap ++ '#' :: t ++ tail) = skipLayout false rest := by
        rw [List.append_assoc, skipLayout_append hGaps, ← skipLayout_comment hShown hFollows]
        simp [skipLayout]
      exact ⟨fuel, statements, readStatements_congr hSkip ▸ hRead, rfl⟩
  | @header before after key path parts hBefore hAfter hParts =>
      have hText : before ++ '[' :: (Text.joinWith '.' parts ++ ']' :: after) ++ tail =
          before ++ '[' :: (Text.joinWith '.' parts ++ ']' :: (after ++ tail)) := by simp
      rw [hText] at hRead
      refine readStatements_of_skipLayout (List.cons_ne_nil _ _) ?_
        (fun _ _ hFound => readStatement_header hAfter hParts hFollows hFound) hRead
      rw [skipLayout_append hBefore, skipLayout_solid (by decide)]
  | @assign key part t v hPadded _ hAssigned =>
      obtain ⟨hName, before, after, hBefore, hAfter, rfl⟩ := hPadded
      obtain ⟨first, name, rfl⟩ := List.exists_cons_of_ne_nil hName.1
      have hFirst : isKeyChar first = true := hName.2 first List.mem_cons_self
      have hText : before ++ (first :: name ++ after) ++ '=' :: t ++ tail =
          before ++ (first :: name ++ after ++ '=' :: (t ++ tail)) := by simp
      rw [hText] at hRead
      have hSkip : skipLayout false (first :: name ++ after ++ '=' :: (t ++ tail)) =
          first :: name ++ after ++ '=' :: (t ++ tail) :=
        skipLayout_solid fun hMem => by
          simp only [String.reduceToList, List.mem_cons, List.not_mem_nil, or_false] at hMem
          obtain rfl | rfl | rfl | rfl | rfl := hMem <;> exact absurd hFirst (by decide)
      refine readStatements_of_skipLayout (by simp) ((skipLayout_append hBefore).trans hSkip)
        (fun _ _ hFound => ?_) hRead
      refine readStatement_assign ⟨hName, [], after, by simp [IsGaps], hAfter, rfl⟩
        (fun rest hBracket => ?_) hAssigned hFound
      rw [(List.cons.inj hBracket).1] at hFirst
      cases hFirst

/-- The statements of a file are those of its lines. -/
theorem Rows.eq_filterMap_statement (h : Rows t rows)
    (hRead : readStatements fuel t = some statements) :
    statements = rows.filterMap Row.statement? := by
  induction h generalizing fuel statements with
  | @last line row hSpells =>
      obtain ⟨fuel, others, hOthers, rfl⟩ := readStatements_row hSpells (.inl ⟨rfl, rfl⟩)
        (by rwa [List.append_nil])
      have hNil : others = [] := by
        cases fuel with
        | zero => cases hOthers
        | succ fuel => exact (Option.some.inj hOthers).symm
      rw [hNil, List.append_nil, List.filterMap_cons]
      cases row.statement? <;> rfl
  | @cons line tail rest row rows hSpells hEnds hMore ih =>
      obtain ⟨fuel, others, hOthers, rfl⟩ := readStatements_row hSpells (.inr hEnds) hRead
      rw [ih hOthers, List.filterMap_cons]
      cases row.statement? <;> rfl

end Statements

section Reading

/-- The mark of a byte order stands at no place where a line can begin. -/
theorem gaps_append_cons_ne (hGaps : IsGaps gap) (hc : c ≠ '\uFEFF') :
    gap ++ c :: t ≠ '\uFEFF' :: rest := by
  intro hText
  cases gap with
  | nil => exact hc (List.cons.inj hText).1
  | cons d gap =>
      have hGap := hGaps d List.mem_cons_self
      rw [(List.cons.inj hText).1] at hGap
      exact absurd hGap (by decide)

theorem Row.Spells.ne_mark_cons (h : row.Spells tail rest line) : line ≠ '\uFEFF' :: t := by
  cases h with
  | blank hGaps =>
      rintro rfl
      exact absurd (hGaps _ List.mem_cons_self) (by decide)
  | comment hGaps => exact gaps_append_cons_ne hGaps (by decide)
  | header hBefore => exact gaps_append_cons_ne hBefore (by decide)
  | assign hPadded =>
      obtain ⟨hName, before, after, hBefore, hAfter, rfl⟩ := hPadded
      obtain ⟨first, name, rfl⟩ := List.exists_cons_of_ne_nil hName.1
      have hFirst : first ≠ '\uFEFF' := by
        rintro rfl
        exact absurd (hName.2 _ List.mem_cons_self) (by decide)
      rw [List.append_assoc, List.append_assoc]
      exact gaps_append_cons_ne hBefore hFirst

/-- No text of rows starts with a byte order mark, which a reader would drop. -/
theorem Rows.ne_mark_cons (h : Rows t rows) : t ≠ '\uFEFF' :: rest := by
  cases h with
  | last hSpells => exact hSpells.ne_mark_cons
  | @cons line tail next row rows hSpells hEnds =>
      intro hText
      cases line with
      | nil =>
          obtain rfl | rfl := newline?_eq_some_iff.mp hEnds
          · exact absurd (List.cons.inj hText).1 (by decide)
          · exact absurd (List.cons.inj hText).1 (by decide)
      | cons c line =>
          rw [(List.cons.inj hText).1] at hSpells
          exact hSpells.ne_mark_cons rfl

/-- The table of a file is the one that the statements of its lines make. -/
theorem Rows.ofStatements? {fields : Table} (h : Rows t rows) (hRead : read? t = some fields) :
    Table.ofStatements? (rows.filterMap Row.statement?) = some fields := by
  rw [read?] at hRead
  · obtain ⟨statements, hStatements, hFields⟩ := Option.bind_eq_some_iff.mp hRead
    rwa [← h.eq_filterMap_statement hStatements]
  · exact fun _ => h.ne_mark_cons

end Reading
end Rubric.Toml
