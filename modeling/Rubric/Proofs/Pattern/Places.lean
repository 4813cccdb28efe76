import Mathlib.Data.Set.Basic
import Rubric.Pattern.Search

/-! Sets of places as the numbers that stand for them. -/
namespace Rubric.Pattern.Places

def toSet (m : Places) : Set Nat :=
  {i | m.testBit i = true}

variable {m seen starts : Places} {width i j : Nat} {before : Option Char} {t : Text}

/-- The bits of a number are read as a set of places. -/
theorem mem_toSet : i ∈ m.toSet ↔ m.testBit i = true :=
  Iff.rfl

@[simp] theorem toSet_zero : toSet 0 = ∅ := by
  ext i
  simp [mem_toSet]

theorem toSet_or (m seen : Places) : toSet (m ||| seen) = m.toSet ∪ seen.toSet := by
  ext i
  simp [mem_toSet]

theorem toSet_without (m seen : Places) : (m.without seen).toSet = m.toSet \ seen.toSet := by
  ext i
  simp only [mem_toSet, without, Nat.testBit_xor, Nat.testBit_or, Set.mem_sdiff]
  cases m.testBit i <;> cases seen.testBit i <;> simp

theorem exists_mem_of_ne_zero (h : m ≠ 0) : ∃ i, i ∈ m.toSet :=
  Nat.exists_testBit_of_ne_zero h

/-- A leap moves the places at which it may start by its width, all of them at once. -/
theorem mem_toSet_leap :
    j ∈ toSet ((m &&& starts) <<< width) ↔ ∃ i ∈ m.toSet, i ∈ starts.toSet ∧ j = i + width := by
  simp only [mem_toSet, Nat.testBit_shiftLeft, Nat.testBit_and, Bool.and_eq_true,
    decide_eq_true_eq]
  constructor
  · rintro ⟨hWidth, hPlace, hStart⟩
    exact ⟨j - width, hPlace, hStart, by omega⟩
  · rintro ⟨i, hPlace, hStart, rfl⟩
    rw [Nat.add_sub_cancel]
    exact ⟨by omega, hPlace, hStart⟩

section suiting

variable {p : Option Char → Text → Bool}

theorem zero_mem_suiting : 0 ∈ (suiting p before t).toSet ↔ p before t = true := by
  cases t with
  | nil => cases hHolds : p before [] <;> simp [mem_toSet, suiting, hHolds]
  | cons c t =>
      cases hHolds : p before (c :: t) <;> simp [mem_toSet, suiting, hHolds, Nat.testBit_zero]

theorem succ_mem_suiting_nil : i + 1 ∉ (suiting p before []).toSet := by
  cases hHolds : p before [] <;> simp [mem_toSet, suiting, hHolds, Nat.testBit_succ]

/-- A later place suits in a text as the place before it does in the rest of the text. -/
theorem succ_mem_suiting_cons {c : Char} :
    i + 1 ∈ (suiting p before (c :: t)).toSet ↔ i ∈ (suiting p (some c) t).toSet := by
  have hHalf : suiting p before (c :: t) / 2 = suiting p (some c) t := by
    rw [suiting, Nat.add_mul_div_left _ _ Nat.two_pos, Nat.div_eq_of_lt (Bool.toNat_lt _),
      Nat.zero_add]
  rw [mem_toSet, Nat.testBit_succ, hHalf, mem_toSet]

/-- The places that suit are those where the condition holds on what is around them. -/
theorem mem_suiting_iff : i ∈ (suiting p before t).toSet ↔
    i ≤ t.length ∧ p (before.toList ++ t.take i).getLast? (t.drop i) = true := by
  induction i generalizing before t with
  | zero => cases before <;> simp [zero_mem_suiting]
  | succ i ih =>
      cases t with
      | nil => simp [succ_mem_suiting_nil]
      | cons c t => cases before <;> simp [succ_mem_suiting_cons, ih, List.getLast?_cons]

end suiting

/-- There is a place before each character and one behind the last. -/
theorem mem_all_iff : i ∈ (all t).toSet ↔ i ≤ t.length := by
  rw [all, mem_suiting_iff]
  exact and_iff_left rfl

end Rubric.Pattern.Places
