import Rubric.Pattern.Expr

/-! What a pattern matches. A match leads from one place of a text to another, and the place behind
the first `n` characters is `n`. No match leads back, so of many copies in a row all but as many as
the text has characters stay where they are, and may be left out or taken again. -/
namespace Rubric.Pattern

/-- So many steps one behind the other. -/
def Steps (R : Nat → Nat → Prop) : Nat → Nat → Nat → Prop
  | 0, i, j => i = j
  | n + 1, i, j => ∃ k, R i k ∧ Steps R n k j

/-- A pattern has a match from one place of a text to another. A repetition that has fewer copies at
most than at least has the least number of them. -/
def Expr.Spans (t : Text) : Expr → Nat → Nat → Prop
  | empty, i, j => i = j
  | text s, i, j => s <+: t.drop i ∧ j = i + s.length
  | chars s, i, j => (∃ c ∈ (t.drop i).head?, s.contains c = true) ∧ j = i + 1
  | look l, i, j => l.holds (t.take i).getLast? (t.drop i).head? = true ∧ i = j
  | seq first rest, i, j => ∃ k, first.Spans t i k ∧ rest.Spans t k j
  | alt first rest, i, j => first.Spans t i j ∨ rest.Spans t i j
  | times e least most _, i, j =>
    ∃ more, (∀ count ∈ most, more ≤ count - least) ∧ Steps (e.Spans t) (least + more) i j
  | group _ e, i, j => e.Spans t i j

section Steps

variable {R : Nat → Nat → Prop} {last m n i j : Nat}

/-- A number of steps may be cut at any point into two numbers of steps. -/
theorem steps_add_iff : Steps R (m + n) i j ↔ ∃ k, Steps R m i k ∧ Steps R n k j := by
  induction m generalizing i with
  | zero =>
      rw [Nat.zero_add]
      exact ⟨fun h => ⟨i, rfl, h⟩, fun ⟨_, rfl, h⟩ => h⟩
  | succ m ih =>
      rw [Nat.succ_add]
      constructor
      · rintro ⟨l, hStep, hSteps⟩
        obtain ⟨k, hBefore, hBehind⟩ := ih.mp hSteps
        exact ⟨k, ⟨l, hStep, hBefore⟩, hBehind⟩
      · rintro ⟨k, ⟨l, hStep, hBefore⟩, hBehind⟩
        exact ⟨l, hStep, ih.mpr ⟨k, hBefore, hBehind⟩⟩

theorem steps_one_iff : Steps R 1 i j ↔ R i j :=
  ⟨fun ⟨_, h, rfl⟩ => h, fun h => ⟨j, h, rfl⟩⟩

theorem exists_le_steps_zero_iff : (∃ k ≤ 0, Steps R k i j) ↔ i = j := by
  constructor
  · rintro ⟨k, hk, hSteps⟩
    obtain rfl := Nat.le_zero.mp hk
    exact hSteps
  · exact fun hSame => ⟨0, Nat.le_refl 0, hSame⟩

theorem exists_le_steps_succ_iff :
    (∃ k ≤ n + 1, Steps R k i j) ↔ i = j ∨ ∃ l, R i l ∧ ∃ k ≤ n, Steps R k l j := by
  constructor
  · rintro ⟨k, hk, hSteps⟩
    cases k with
    | zero => exact .inl hSteps
    | succ k =>
        obtain ⟨l, hStep, hRest⟩ := hSteps
        exact .inr ⟨l, hStep, k, Nat.le_of_succ_le_succ hk, hRest⟩
  · rintro (rfl | ⟨l, hStep, k, hk, hRest⟩)
    · exact ⟨0, Nat.zero_le _, rfl⟩
    · exact ⟨k + 1, Nat.succ_le_succ hk, l, hStep, hRest⟩

theorem steps_of_rel_self (h : R i i) : Steps R n i i := by
  induction n with
  | zero => rfl
  | succ n ih => exact ⟨i, h, ih⟩

/-- Steps that lead forth and not past the last place. -/
def Forward (last : Nat) (R : Nat → Nat → Prop) : Prop :=
  ∀ i j, i ≤ last → R i j → i ≤ j ∧ j ≤ last

/-- Steps that lead forward and stay within the text do so any number of times. -/
theorem Forward.steps (h : Forward last R) (n : Nat) : Forward last (Steps R n) := by
  induction n with
  | zero =>
      rintro i j hi rfl
      exact ⟨Nat.le_refl _, hi⟩
  | succ n ih =>
      rintro i j hi ⟨k, hStep, hSteps⟩
      obtain ⟨hik, hk⟩ := h i k hi hStep
      obtain ⟨hkj, hj⟩ := ih k j hk hSteps
      exact ⟨Nat.le_trans hik hkj, hj⟩

/-- Steps that stay where they are may be left out. -/
theorem Forward.steps_of_le (h : Forward last R) (hi : i ≤ last) (hSteps : Steps R n i j)
    (hEnough : j - i ≤ m) (hFewer : m ≤ n) : Steps R m i j := by
  induction n generalizing i m with
  | zero =>
      obtain rfl : m = 0 := by omega
      exact hSteps
  | succ n ih =>
      obtain ⟨k, hStep, hRest⟩ := id hSteps
      obtain ⟨hik, hk⟩ := h i k hi hStep
      obtain ⟨hkj, -⟩ := h.steps n k j hk hRest
      rcases Nat.eq_or_lt_of_le hFewer with rfl | hLess
      · exact hSteps
      · rcases Nat.eq_or_lt_of_le hik with rfl | hLater
        · exact ih hi hRest hEnough (by omega)
        · obtain ⟨m, rfl⟩ : ∃ fewer, m = fewer + 1 := ⟨m - 1, by omega⟩
          exact ⟨k, hStep, ih hk hRest (by omega) (by omega)⟩

/-- Among more steps than there are places to pass one stays where it is, and may be taken again. -/
theorem Forward.steps_of_lt (h : Forward last R) (hi : i ≤ last) (hSteps : Steps R n i j)
    (hMany : j - i < n) (hMore : n ≤ m) : Steps R m i j := by
  induction n generalizing i m with
  | zero => omega
  | succ n ih =>
      obtain ⟨k, hStep, hRest⟩ := id hSteps
      obtain ⟨hik, hk⟩ := h i k hi hStep
      obtain ⟨hkj, -⟩ := h.steps n k j hk hRest
      rcases Nat.eq_or_lt_of_le hik with rfl | hLater
      · obtain ⟨more, rfl⟩ := Nat.exists_eq_add_of_le hMore
        rw [Nat.add_comm, steps_add_iff]
        exact ⟨i, steps_of_rel_self hStep, hSteps⟩
      · obtain ⟨m, rfl⟩ : ∃ fewer, m = fewer + 1 := ⟨m - 1, by omega⟩
        exact ⟨k, hStep, ih hk hRest (by omega) (by omega)⟩

/-- No more steps are needed than there are places. -/
theorem Forward.steps_min_iff (h : Forward last R) (hi : i ≤ last) :
    Steps R (min n (last + 1)) i j ↔ Steps R n i j := by
  rcases Nat.le_total n (last + 1) with hFew | hMany
  · rw [Nat.min_eq_left hFew]
  · rw [Nat.min_eq_right hMany]
    constructor
    · intro hSteps
      obtain ⟨-, hj⟩ := h.steps _ i j hi hSteps
      exact h.steps_of_lt hi hSteps (by omega) hMany
    · intro hSteps
      obtain ⟨-, hj⟩ := h.steps _ i j hi hSteps
      exact h.steps_of_le hi hSteps (by omega) hMany

end Steps

namespace Expr

variable {t s : Text} {e first rest : Expr} {i j : Nat}

/-- What an expression spans runs forward and ends within the text. -/
theorem spans_forward (t : Text) (e : Expr) : Forward t.length (e.Spans t) := by
  induction e with
  | empty =>
      rintro i j hi rfl
      exact ⟨Nat.le_refl _, hi⟩
  | text s =>
      rintro i j hi ⟨hPrefix, rfl⟩
      have hLength := hPrefix.length_le
      rw [List.length_drop] at hLength
      omega
  | chars s =>
      rintro i j hi ⟨⟨c, hHead, -⟩, rfl⟩
      rw [List.head?_drop] at hHead
      obtain ⟨hLt, -⟩ := List.getElem?_eq_some_iff.mp hHead
      omega
  | look l =>
      rintro i j hi ⟨-, rfl⟩
      exact ⟨Nat.le_refl _, hi⟩
  | seq first rest ihFirst ihRest =>
      rintro i j hi ⟨k, hFirst, hRest⟩
      obtain ⟨hik, hk⟩ := ihFirst i k hi hFirst
      obtain ⟨hkj, hj⟩ := ihRest k j hk hRest
      exact ⟨Nat.le_trans hik hkj, hj⟩
  | alt first rest ihFirst ihRest =>
      rintro i j hi (hFirst | hRest)
      · exact ihFirst i j hi hFirst
      · exact ihRest i j hi hRest
  | times e least most greedy ih =>
      rintro i j hi ⟨more, -, hSteps⟩
      exact ih.steps _ i j hi hSteps
  | group number e ih => exact ih

/-- A literal text spans what its two halves span in a row. -/
theorem spans_text_append_iff {u : Text} : (text (s ++ u)).Spans t i j ↔
    ∃ k, (text s).Spans t i k ∧ (text u).Spans t k j := by
  constructor
  · rintro ⟨⟨after, hText⟩, rfl⟩
    refine ⟨i + s.length, ⟨⟨u ++ after, by rw [← hText, List.append_assoc]⟩, rfl⟩, ⟨after, ?_⟩, ?_⟩
    · rw [← List.drop_drop, ← hText, List.append_assoc, List.drop_left]
    · rw [List.length_append, Nat.add_assoc]
  · rintro ⟨_, ⟨⟨after, hText⟩, rfl⟩, ⟨rest, hRest⟩, rfl⟩
    rw [← List.drop_drop, ← hText, List.drop_left] at hRest
    exact ⟨⟨rest, by rw [← hText, ← hRest, List.append_assoc]⟩,
      by rw [List.length_append, Nat.add_assoc]⟩

theorem spans_seq_iff :
    (seq first rest).Spans t i j ↔ ∃ k, first.Spans t i k ∧ rest.Spans t k j :=
  Iff.rfl

/-- It does not matter how expressions in a row are bracketed. -/
theorem spans_seq_seq_iff {last : Expr} :
    (seq (seq first rest) last).Spans t i j ↔ (seq first (seq rest last)).Spans t i j := by
  constructor
  · rintro ⟨l, ⟨k, hFirst, hRest⟩, hLast⟩
    exact ⟨k, hFirst, l, hRest, hLast⟩
  · rintro ⟨k, hFirst, l, hRest, hLast⟩
    exact ⟨l, ⟨k, hFirst, hRest⟩, hLast⟩

/-- To stand in a row is to match one behind the other, whatever the row has been made into. -/
theorem spans_followedBy_iff :
    (first.followedBy rest).Spans t i j ↔ ∃ k, first.Spans t i k ∧ rest.Spans t k j := by
  fun_induction followedBy first rest generalizing i j with
  | case1 e => exact ⟨fun h => ⟨i, rfl, h⟩, fun ⟨_, rfl, h⟩ => h⟩
  | case2 e => exact ⟨fun h => ⟨j, h, rfl⟩, fun ⟨_, h, rfl⟩ => h⟩
  | case3 first rest e hFull ihRest ihFirst =>
      simp only [ihFirst, ihRest, ← spans_seq_iff]
      exact spans_seq_seq_iff.symm
  | case4 s u => exact spans_text_append_iff
  | case5 s u e =>
      simp only [spans_seq_iff, spans_text_append_iff]
      simp only [← spans_seq_iff]
      exact spans_seq_seq_iff
  | case6 first e => exact Iff.rfl

theorem spans_row_cons_iff {parts : List Expr} :
    (row (first :: parts)).Spans t i j ↔ ∃ k, first.Spans t i k ∧ (row parts).Spans t k j :=
  spans_followedBy_iff

end Expr

end Rubric.Pattern
