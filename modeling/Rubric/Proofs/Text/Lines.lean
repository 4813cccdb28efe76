import Rubric.Text.Lines

/-! Joining lines and splitting them again. A line feed between neighbours is enough to tell lines
apart that hold no break, and a line that holds some falls into pieces. Only an empty line at the
end is lost, since it shows as a terminator of the line before it. -/
namespace Rubric.Text

/-- A text that holds no break can stand on one physical line. -/
def Unbroken (t : Text) : Prop :=
  ∀ c ∈ t, isBreak c = false

instance (t : Text) : Decidable (Unbroken t) :=
  decidable_of_iff (t.all fun c => !isBreak c) (by simp [Unbroken])

/-- Lines as they are found again in the text that joins them: without an empty one at the end. -/
def settled (lines : List Text) : List Text :=
  if lines.getLast? = some [] then lines.dropLast else lines

/-- The lines that a text shows where other lines follow it. It has one at least, and more where it
holds breaks. -/
def pieces (t : Text) : List Text :=
  physicalLines (t ++ ['\n'])

variable {c mark : Char} {line t rest : Text} {lines upper lower : List Text}

theorem unbroken_nil : Unbroken [] := by
  simp [Unbroken]

theorem unbroken_cons_iff : Unbroken (c :: t) ↔ isBreak c = false ∧ Unbroken t := by
  simp [Unbroken]

@[simp] theorem settled_concat_nil : settled (lines ++ [[]]) = lines := by
  simp [settled]

/-- Lines whose last one is not empty are settled already. -/
theorem settled_of_getLast? (h : lines.getLast? ≠ some []) : settled lines = lines :=
  if_neg h

/-- A break ends the empty line before it, unless it is a return that a line feed completes. -/
theorem physicalLines_break (h : isBreak c = true) (hPair : c = '\r' → t.head? ≠ some '\n') :
    physicalLines (c :: t) = [] :: physicalLines t := by
  rw [physicalLines.eq_def]
  split
  next hNil => cases hNil
  next hReturn =>
    obtain ⟨rfl, rfl⟩ := List.cons.inj hReturn
    exact absurd rfl (hPair rfl)
  next hCons =>
    obtain ⟨rfl, rfl⟩ := List.cons.inj hCons
    simp [h]

example : physicalLines "\r\r\nb".toList = [[], [], ['b']] := by
  cbv

/-- A line feed at the start ends an empty line. -/
theorem physicalLines_lineFeed : physicalLines ('\n' :: t) = [] :: physicalLines t :=
  physicalLines_break (by decide) (by simp)

/-- A character that breaks no line joins the first line of what follows it. -/
theorem physicalLines_cons (h : isBreak c = false) : physicalLines (c :: t) =
    match physicalLines t with
    | [] => [[c]]
    | line :: lines => (c :: line) :: lines := by
  rw [physicalLines.eq_def]
  split
  next hNil => cases hNil
  next hReturn =>
    obtain ⟨rfl, -⟩ := List.cons.inj hReturn
    exact absurd h (by decide)
  next hCons =>
    obtain ⟨rfl, rfl⟩ := List.cons.inj hCons
    cases physicalLines t <;> simp [h]

/-- A line feed behind an unbroken line ends it, and what follows is cut by itself. -/
theorem physicalLines_append_lineFeed (h : Unbroken line) :
    physicalLines (line ++ '\n' :: rest) = line :: physicalLines rest := by
  induction line with
  | nil => exact physicalLines_lineFeed
  | cons c line ih =>
      obtain ⟨hc, hLine⟩ := unbroken_cons_iff.mp h
      rw [List.cons_append, physicalLines_cons hc, ih hLine]

/-- A text without a break is a single line, unless it is empty. -/
theorem physicalLines_of_unbroken (h : Unbroken line) (hLine : line ≠ []) :
    physicalLines line = [line] := by
  induction line with
  | nil => exact absurd rfl hLine
  | cons c line ih =>
      obtain ⟨hc, hRest⟩ := unbroken_cons_iff.mp h
      rw [physicalLines_cons hc]
      by_cases hNil : line = []
      · subst hNil
        rfl
      · rw [ih hRest hNil]

/-- Only the empty text has no lines. -/
theorem physicalLines_eq_nil_iff : physicalLines t = [] ↔ t = [] := by
  fun_cases physicalLines t <;> simp_all

/-- Physical lines hold no break. -/
theorem unbroken_of_mem_physicalLines (h : line ∈ physicalLines t) : Unbroken line := by
  fun_induction physicalLines t generalizing line with
  | case1 => cases h
  | case2 rest ih =>
      rcases List.mem_cons.mp h with rfl | h
      · exact unbroken_nil
      · exact ih h
  | case3 c rest _ _ ih =>
      rcases List.mem_cons.mp h with rfl | h
      · exact unbroken_nil
      · exact ih h
  | case4 c rest _ hBreak hRest ih =>
      obtain rfl := List.mem_singleton.mp h
      exact unbroken_cons_iff.mpr ⟨by simpa using hBreak, unbroken_nil⟩
  | case5 c rest _ hBreak first others hRest ih =>
      rw [hRest] at ih
      rcases List.mem_cons.mp h with rfl | h
      · exact unbroken_cons_iff.mpr ⟨by simpa using hBreak, ih List.mem_cons_self⟩
      · exact ih (List.mem_cons_of_mem _ h)

/-- A break ends the empty line before it in whatever text starts with more than that break. -/
theorem physicalLines_break_append (h : isBreak c = true)
    (hPair : ∀ rest, c = '\r' → t = '\n' :: rest → False) (hText : t ≠ []) :
    physicalLines (c :: t ++ rest) = [] :: physicalLines (t ++ rest) := by
  obtain ⟨d, t, rfl⟩ := List.exists_cons_of_ne_nil hText
  refine physicalLines_break h ?_
  rintro rfl hFeed
  obtain rfl : d = '\n' := by simpa using hFeed
  exact hPair t rfl rfl

/-- There is always a piece, if only an empty one. -/
theorem pieces_ne_nil : pieces t ≠ [] := by
  simp [pieces, physicalLines_eq_nil_iff]

/-- A line feed parts what stands before it from what stands behind it, whatever that is. -/
theorem physicalLines_append_cons_lineFeed :
    physicalLines (t ++ '\n' :: rest) = pieces t ++ physicalLines rest := by
  rw [pieces]
  fun_induction physicalLines t with
  | case1 => exact physicalLines_lineFeed
  | case2 t ih => exact congrArg ([] :: ·) ih
  | case3 c t hPair hBreak ih =>
      by_cases hText : t = []
      · subst hText
        by_cases hReturn : c = '\r'
        · subst hReturn
          rfl
        · have hAlone (u : Text) : physicalLines (c :: u) = [] :: physicalLines u :=
            physicalLines_break hBreak fun h => absurd h hReturn
          simp only [List.cons_append, List.nil_append, hAlone, physicalLines_lineFeed]
          rfl
      · rw [physicalLines_break_append hBreak hPair hText,
          physicalLines_break_append hBreak hPair hText, ih]
        rfl
  | case4 c t _ hPlain hNil ih =>
      obtain rfl := physicalLines_eq_nil_iff.mp hNil
      have hc : isBreak c = false := by simpa using hPlain
      simp only [List.cons_append, List.nil_append, physicalLines_cons hc, physicalLines_lineFeed]
      rfl
  | case5 c t _ hPlain first others hLines ih =>
      have hc : isBreak c = false := by simpa using hPlain
      obtain ⟨piece, more, hPieces⟩ := List.exists_cons_of_ne_nil (pieces_ne_nil (t := t))
      rw [pieces] at hPieces
      rw [hPieces] at ih
      simp only [List.cons_append, physicalLines_cons hc, ih, hPieces]

/-- A text without a break is its only piece. -/
theorem pieces_of_unbroken (h : Unbroken t) : pieces t = [t] :=
  physicalLines_append_lineFeed h

/-- Pieces have no breaks in them. -/
theorem unbroken_of_mem_pieces (h : line ∈ pieces t) : Unbroken line :=
  unbroken_of_mem_physicalLines h

/-- A text that is followed by others shows its own lines, and behind a break at its end, or where
it is empty, an empty line. -/
theorem pieces_eq_or : pieces t = physicalLines t ∨
    pieces t = physicalLines t ++ [[]] ∧ ∀ c, t.getLast? = some c → isBreak c = true := by
  rw [pieces]
  fun_induction physicalLines t with
  | case1 => exact .inr ⟨rfl, by simp⟩
  | case2 t ih =>
      rcases ih with hSame | ⟨hMore, hEnd⟩
      · exact .inl (congrArg ([] :: ·) hSame)
      · refine .inr ⟨congrArg ([] :: ·) hMore, ?_⟩
        cases t with
        | nil => simp; decide
        | cons d t => simpa using hEnd
  | case3 c t hPair hBreak ih =>
      by_cases hText : t = []
      · subst hText
        -- A carriage return at the very end makes one terminator with the line feed behind it.
        by_cases hReturn : c = '\r'
        · subst hReturn
          exact .inl rfl
        · right
          rw [List.cons_append, physicalLines_break hBreak fun h => absurd h hReturn]
          exact ⟨rfl, by simpa using hBreak⟩
      · rw [physicalLines_break_append hBreak hPair hText]
        rcases ih with hSame | ⟨hMore, hEnd⟩
        · exact .inl (congrArg ([] :: ·) hSame)
        · obtain ⟨d, t, rfl⟩ := List.exists_cons_of_ne_nil hText
          exact .inr ⟨congrArg ([] :: ·) hMore, by simpa using hEnd⟩
  | case4 c t _ hPlain hNil ih =>
      obtain rfl := physicalLines_eq_nil_iff.mp hNil
      have hc : isBreak c = false := by simpa using hPlain
      left
      rw [List.cons_append, physicalLines_cons hc]
      rfl
  | case5 c t _ hPlain first others hLines ih =>
      have hc : isBreak c = false := by simpa using hPlain
      have hText : t ≠ [] := by
        rintro rfl
        cases hLines
      rw [hLines] at ih
      rw [List.cons_append, physicalLines_cons hc]
      rcases ih with hSame | ⟨hMore, hEnd⟩
      · left
        rw [hSame]
      · obtain ⟨d, t, rfl⟩ := List.exists_cons_of_ne_nil hText
        right
        rw [hMore]
        exact ⟨rfl, by simpa using hEnd⟩

/-- Pieces and lines differ at the end of a text at most. -/
theorem head?_pieces (h : t ≠ []) : (pieces t).head? = (physicalLines t).head? := by
  rcases pieces_eq_or (t := t) with hSame | ⟨hMore, -⟩
  · rw [hSame]
  · have hLines : physicalLines t ≠ [] := fun hNil => h (physicalLines_eq_nil_iff.mp hNil)
    obtain ⟨first, others, hFirst⟩ := List.exists_cons_of_ne_nil hLines
    rw [hMore, hFirst, List.cons_append, List.head?_cons, List.head?_cons]

/-- A line feed behind a text that ends in no break ends its last line and touches no other. -/
theorem physicalLines_append_of_getLast? (hText : t ≠ [])
    (hEnd : ∀ c, t.getLast? = some c → isBreak c = false) :
    physicalLines (t ++ '\n' :: rest) = physicalLines t ++ physicalLines rest := by
  rw [physicalLines_append_cons_lineFeed]
  rcases pieces_eq_or with hSame | ⟨-, hBreak⟩
  · rw [hSame]
  · have hLast := List.getLast?_eq_some_getLast hText
    exact absurd (hBreak _ hLast) (by simp [hEnd _ hLast])

/-- A text without breaks lengthens the first line of what follows it. -/
theorem exists_pieces_append (h : Unbroken line) :
    ∃ first others, pieces (line ++ t) = (line ++ first) :: others := by
  induction line with
  | nil => exact List.exists_cons_of_ne_nil pieces_ne_nil
  | cons c line ih =>
      obtain ⟨hc, hLine⟩ := unbroken_cons_iff.mp h
      obtain ⟨first, others, hPieces⟩ := ih hLine
      refine ⟨first, others, ?_⟩
      rw [pieces] at hPieces ⊢
      simp only [List.cons_append, physicalLines_cons hc, hPieces]

theorem joinWith_cons (h : lines ≠ []) :
    joinWith mark (line :: lines) = line ++ mark :: joinWith mark lines := by
  cases lines with
  | nil => exact absurd rfl h
  | cons => rfl

theorem joinWith_cons_cons :
    joinWith mark ((c :: line) :: lines) = c :: joinWith mark (line :: lines) := by
  cases lines <;> rfl

/-- An empty last line shows as a mark at the end. -/
theorem joinWith_concat_nil (h : lines ≠ []) :
    joinWith mark (lines ++ [[]]) = joinWith mark lines ++ [mark] := by
  induction lines with
  | nil => exact absurd rfl h
  | cons line lines ih =>
      by_cases hLines : lines = []
      · subst hLines
        rfl
      · rw [List.cons_append, joinWith_cons (by simp), ih hLines, joinWith_cons hLines]
        simp

/-- Lines are joined in two halves with a mark between them, if neither half is empty. -/
theorem joinWith_append (hUpper : upper ≠ []) (hLower : lower ≠ []) :
    joinWith mark (upper ++ lower) = joinWith mark upper ++ mark :: joinWith mark lower := by
  induction upper with
  | nil => exact absurd rfl hUpper
  | cons line upper ih =>
      by_cases hNil : upper = []
      · subst hNil
        exact joinWith_cons hLower
      · rw [List.cons_append, joinWith_cons (by simp [hNil]), ih hNil, joinWith_cons hNil]
        simp

/-- The pieces of joined texts are those of the texts, one after the other. -/
theorem pieces_joinWith (h : lines ≠ []) :
    pieces (joinWith '\n' lines) = lines.flatMap pieces := by
  induction lines with
  | nil => exact absurd rfl h
  | cons line lines ih =>
      by_cases hLines : lines = []
      · subst hLines
        simp [joinWith]
      · rw [joinWith_cons hLines, pieces, List.append_assoc, List.cons_append,
          physicalLines_append_cons_lineFeed, List.flatMap_cons, ← ih hLines]
        rfl

/-- Lines that hold no break are found again, but for an empty one at the end. -/
theorem physicalLines_joinWith (h : ∀ line ∈ lines, Unbroken line) :
    physicalLines (joinWith '\n' lines) = settled lines := by
  induction lines with
  | nil => rfl
  | cons line lines ih =>
      obtain ⟨hLine, hLines⟩ := List.forall_mem_cons.mp h
      cases lines with
      | nil =>
          by_cases hNil : line = []
          · subst hNil
            rfl
          · simpa [joinWith, settled, hNil] using physicalLines_of_unbroken hLine hNil
      | cons second lines =>
          rw [joinWith_cons (by simp), physicalLines_append_lineFeed hLine, ih hLines]
          simp only [settled, List.getLast?_cons_cons, List.dropLast_cons_cons]
          split <;> rfl

end Rubric.Text
