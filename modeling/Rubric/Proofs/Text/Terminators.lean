import Rubric.Proofs.Text.Lines

/-! Line terminators and what becomes of them when the lines of a text are joined again. Each one
turns into a line feed, and the last one is lost where it ends the text. -/
namespace Rubric.Text

/-- The characters that end a line, each by itself. -/
def breaks : List Char :=
  ['\n', '\r', '\x0b', '\x0c', '\x1c', '\x1d', '\x1e', '\u0085', '\u2028', '\u2029']

/-- A text with a line feed in place of each terminator. A carriage return and the line feed after
it are one terminator. -/
def unified : Text → Text
  | [] => []
  | '\r' :: '\n' :: rest => '\n' :: unified rest
  | c :: rest => (if c ∈ breaks then '\n' else c) :: unified rest

/-- A text without the line feed that ends it, if one does. Line feeds before that one stay. -/
def withoutLastFeed (t : Text) : Text :=
  if t.getLast? = some '\n' then t.dropLast else t

variable {c : Char} {t rest : Text}

/-- The breaks are those of the list. -/
theorem isBreak_iff : isBreak c = true ↔ c ∈ breaks := by
  constructor
  · intro h
    have hCode : c.toNat = 10 ∨ c.toNat = 13 ∨ c.toNat = 11 ∨ c.toNat = 12 ∨ c.toNat = 28 ∨
        c.toNat = 29 ∨ c.toNat = 30 ∨ c.toNat = 133 ∨ c.toNat = 8232 ∨ c.toNat = 8233 := by
      simp only [isBreak, Bool.or_eq_true, Bool.and_eq_true, decide_eq_true_eq, beq_iff_eq] at h
      omega
    have hChar : c = Char.ofNat c.toNat := (Char.ofNat_toNat c).symm
    rcases hCode with h | h | h | h | h | h | h | h | h | h <;> rw [hChar, h] <;> decide
  · intro h
    have hAll : breaks.all isBreak = true := by decide
    exact List.all_eq_true.mp hAll c h

/-- Unifying terminators takes no text away altogether. -/
theorem unified_eq_nil_iff : unified t = [] ↔ t = [] := by
  fun_cases unified t <;> simp_all

/-- A carriage return before a line feed is the only character that says nothing by itself. -/
theorem unified_cons (h : c = '\r' → t.head? ≠ some '\n') :
    unified (c :: t) = (if c ∈ breaks then '\n' else c) :: unified t := by
  rw [unified.eq_def]
  split
  next hNil => cases hNil
  next hReturn =>
    obtain ⟨rfl, rfl⟩ := List.cons.inj hReturn
    exact absurd rfl (h rfl)
  next hCons =>
    obtain ⟨rfl, rfl⟩ := List.cons.inj hCons
    rfl

/-- A text that breaks its lines with line feeds alone is unified already. -/
theorem unified_eq_self (h : ∀ c ∈ t, c ∈ breaks → c = '\n') : unified t = t := by
  induction t with
  | nil => rfl
  | cons c t ih =>
      obtain ⟨hc, hRest⟩ := List.forall_mem_cons.mp h
      have hNoReturn : c ≠ '\r' := by
        rintro rfl
        exact absurd (hc (by decide)) (by decide)
      rw [unified_cons fun hReturn => absurd hReturn hNoReturn, ih hRest]
      by_cases hBreak : c ∈ breaks
      · rw [if_pos hBreak, hc hBreak]
      · rw [if_neg hBreak]

theorem withoutLastFeed_cons (h : t ≠ []) :
    withoutLastFeed (c :: t) = c :: withoutLastFeed t := by
  obtain ⟨d, t, rfl⟩ := List.exists_cons_of_ne_nil h
  simp only [withoutLastFeed, List.getLast?_cons_cons, List.dropLast_cons_cons]
  split <;> rfl

/-- Nothing is taken away where no line feed stands at the end. -/
theorem withoutLastFeed_eq_self (h : t.getLast? ≠ some '\n') : withoutLastFeed t = t :=
  if_neg h

/-- An empty line before others shows as a line feed before them. -/
theorem joinWith_nil_cons_physicalLines
    (ih : joinWith '\n' (physicalLines rest) = withoutLastFeed (unified rest)) :
    joinWith '\n' ([] :: physicalLines rest) = withoutLastFeed ('\n' :: unified rest) := by
  by_cases hRest : rest = []
  · subst hRest
    rfl
  · have hLines : physicalLines rest ≠ [] := fun h => hRest (physicalLines_eq_nil_iff.mp h)
    have hUnified : unified rest ≠ [] := fun h => hRest (unified_eq_nil_iff.mp h)
    rw [joinWith_cons hLines, withoutLastFeed_cons hUnified, ih, List.nil_append]

/-- Lines joined by line feeds are the text that they were split from, with its terminators made
line feeds and without the one that ends it. -/
theorem joinWith_physicalLines (t : Text) :
    joinWith '\n' (physicalLines t) = withoutLastFeed (unified t) := by
  fun_induction physicalLines t with
  | case1 => rfl
  | case2 rest ih => exact joinWith_nil_cons_physicalLines ih
  | case3 c rest hPair hBreak ih =>
      have hFeed : c = '\r' → rest.head? ≠ some '\n' := by
        rintro rfl hFeed
        obtain ⟨rest, rfl⟩ := List.head?_eq_some_iff.mp hFeed
        exact hPair rest rfl rfl
      rw [unified_cons hFeed, if_pos (isBreak_iff.mp hBreak)]
      exact joinWith_nil_cons_physicalLines ih
  | case4 c rest hPair hPlain hNil ih =>
      obtain rfl := physicalLines_eq_nil_iff.mp hNil
      have hOther : c ∉ breaks := fun h => hPlain (isBreak_iff.mpr h)
      have hNoFeed : c ≠ '\n' := by
        rintro rfl
        exact hOther (by decide)
      rw [unified_cons (by simp), if_neg hOther]
      simp [joinWith, unified, withoutLastFeed, hNoFeed]
  | case5 c rest hPair hPlain line lines hLines ih =>
      have hRest : rest ≠ [] := by
        rintro rfl
        cases hLines
      have hUnified : unified rest ≠ [] := fun h => hRest (unified_eq_nil_iff.mp h)
      have hOther : c ∉ breaks := fun h => hPlain (isBreak_iff.mpr h)
      have hNoReturn : c ≠ '\r' := by
        rintro rfl
        exact hOther (by decide)
      rw [hLines] at ih
      rw [unified_cons fun hReturn => absurd hReturn hNoReturn, if_neg hOther,
        withoutLastFeed_cons hUnified, joinWith_cons_cons, ih]

end Rubric.Text
