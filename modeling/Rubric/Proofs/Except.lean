import Mathlib.Data.List.Forall2

/-! Computations that may fail. One that succeeds has succeeded in each of its steps. -/
namespace Rubric

variable {α β ε δ : Type}

/-- A computation in two steps succeeds where both do. -/
theorem bind_eq_ok_iff {first : Except ε α} {next : α → Except ε β} {b : β} :
    first >>= next = .ok b ↔ ∃ a, first = .ok a ∧ next a = .ok b := by
  cases first <;> simp [bind, Except.bind]

/-- A mapped result is there if the result was. -/
theorem map_eq_ok_iff {f : α → β} {result : Except ε α} {b : β} :
    result.map f = .ok b ↔ ∃ a, result = .ok a ∧ f a = b := by
  cases result <;> simp [Except.map]

/-- Rewording an error has no effect on success. -/
theorem mapError_eq_ok_iff {f : ε → δ} {result : Except ε α} {a : α} :
    result.mapError f = .ok a ↔ result = .ok a := by
  cases result with
  | error e => exact ⟨nofun, nofun⟩
  | ok b =>
      exact ⟨fun h => congrArg Except.ok (Except.ok.inj h),
        fun h => congrArg Except.ok (Except.ok.inj h)⟩

theorem mapError_eq_error_iff {f : ε → δ} {result : Except ε α} {d : δ} :
    result.mapError f = .error d ↔ ∃ e, result = .error e ∧ f e = d := by
  cases result with
  | error e =>
      change Except.error (f e) = Except.error d ↔ _
      simp
  | ok b => exact ⟨nofun, nofun⟩

/-- Items are taken one by one, and all of them have to succeed. -/
theorem mapM_eq_ok_iff {f : α → Except ε β} {items : List α} {results : List β} :
    items.mapM f = .ok results ↔
      List.Forall₂ (fun item result => f item = .ok result) items results := by
  induction items generalizing results with
  | nil => simp [pure, Except.pure, eq_comm]
  | cons item items ih =>
      rw [List.mapM_cons, List.forall₂_cons_left_iff]
      simp [bind_eq_ok_iff, ih, pure, Except.pure, eq_comm (a := results)]

/-- If a function goes through on all items then it does on each. -/
theorem exists_of_mapM_eq_ok {f : α → Except ε β} {items : List α} {results : List β} {item : α}
    (h : items.mapM f = .ok results) (hMem : item ∈ items) : ∃ result, f item = .ok result := by
  induction mapM_eq_ok_iff.mp h with
  | nil => cases hMem
  | cons hItem _ ih =>
      rcases List.mem_cons.mp hMem with rfl | hMem
      · exact ⟨_, hItem⟩
      · exact ih (mapM_eq_ok_iff.mpr ‹_›) hMem

end Rubric
