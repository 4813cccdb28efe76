import Mathlib.Data.List.Basic
import Rubric.Text.Basic

/-! Reading characters from the front. Where every character has units of its own, and what is read
first is always written with the units that it is read from, a text is read from the units that it
is written with and from no others. -/
namespace Rubric

variable {α : Type} {p : α → Prop} {read? : List α → Option Text} {write : Char → List α}

/-- Reading among units with a property. A written character is read from the front, and so is the
first character of all that can be read. -/
structure ReadsBack (p : α → Prop) (read? : List α → Option Text) (write : Char → List α) :
    Prop where
  nil : read? [] = some []
  write_append : ∀ c rest, read? (write c ++ rest) = (read? rest).map (c :: ·)
  exists_write : ∀ unit rest t, p unit → read? (unit :: rest) = some t →
    ∃ c later u, write c ++ later = unit :: rest ∧ read? later = some u ∧ t = c :: u

/-- A reader that takes one character at a time reads whole texts back. -/
theorem ReadsBack.read?_flatMap (h : ReadsBack p read? write) (t : Text) :
    read? (t.flatMap write) = some t := by
  induction t with
  | nil => exact h.nil
  | cons c t ih => rw [List.flatMap_cons, h.write_append, ih, Option.map_some]

/-- Such a reader accepts what the writer makes and nothing else. -/
theorem ReadsBack.eq_some_iff (h : ReadsBack p read? write) {units : List α} {t : Text}
    (hUnits : ∀ unit ∈ units, p unit) : read? units = some t ↔ t.flatMap write = units := by
  refine ⟨fun hRead => ?_, fun hWrite => hWrite ▸ h.read?_flatMap t⟩
  induction t generalizing units with
  | nil =>
      cases units with
      | nil => rfl
      | cons unit rest =>
          obtain ⟨c, later, u, -, -, hText⟩ :=
            h.exists_write _ _ _ (hUnits _ List.mem_cons_self) hRead
          cases hText
  | cons c t ih =>
      cases units with
      | nil => cases h.nil.symm.trans hRead
      | cons unit rest =>
          obtain ⟨first, later, u, hUnit, hLater, hText⟩ :=
            h.exists_write _ _ _ (hUnits _ List.mem_cons_self) hRead
          obtain ⟨rfl, rfl⟩ := List.cons.inj hText
          rw [← hUnit] at hUnits ⊢
          rw [List.flatMap_cons, ih (fun v hv => hUnits v (List.mem_append_right _ hv)) hLater]

end Rubric
