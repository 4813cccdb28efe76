import Rubric.Proofs.Text.Fields
import Rubric.Toml.Mark

/-! What is found in tables that are sorted, rid of marks or laid over each other. Each of the three
works field by field, so where no name occurs twice a name leads to what has become of its own value
alone. -/
namespace Rubric.Toml

variable {name : Text} {v : Value} {fields done lower upper kept : Table}

namespace Value

/-- Sorting is laying the fields, one after the other, over those that are done. -/
theorem sortedFields_eq_laid :
    sortedFields done fields = Fields.laid (fun _ v => sorted v) done fields := by
  induction fields generalizing done with
  | nil => rfl
  | cons field fields ih => exact ih

def cleaned? (v : Value) : Option Value :=
  (unmark? v).map sorted

/-- The overlay lays fields over fields, with the overlay of two values where both have the name. -/
theorem overlaidFields_eq_laid : overlaidFields lower upper = Fields.laid overlaid lower upper := by
  induction upper generalizing lower with
  | nil => rfl
  | cons field upper ih => exact ih

/-- Only a table can leave something else than itself where it is laid over a value. -/
theorem overlaid_of_upper_ne_table {old : Option Value} (h : ∀ fields, v ≠ .table fields) :
    overlaid old v = v := by
  rw [overlaid]
  intro lower upper _ hTable
  exact h upper hTable

/-- Only over a table can something else be left. -/
theorem overlaid_of_lower_ne_table {old : Option Value} (h : ∀ fields, old ≠ some (.table fields)) :
    overlaid old v = v := by
  rw [overlaid]
  intro lower upper hTable _
  exact h lower hTable

/-- In the table every name of an upper one leads to the value there, laid over something or over
nothing. -/
def Shows (shown upper : Table) : Prop :=
  ∀ name v, Fields.find? name upper = some v →
    ∃ old, Fields.find? name shown = some (overlaid old v)

/-- A table that was laid over another one shows all of its fields in the outcome. -/
theorem shows_overlaidFields (h : Fields.Distinct upper) :
    Shows (overlaidFields lower upper) upper := by
  intro name v hFound
  rw [overlaidFields_eq_laid]
  exact ⟨_, Fields.find?_laid_of_some h hFound⟩

/-- Laying a table over anything leaves a table that shows it. -/
theorem exists_shows_of_overlaid (old : Option Value) (h : Fields.Distinct upper) :
    ∃ shown, overlaid old (table upper) = table shown ∧ Shows shown upper := by
  by_cases hTable : ∃ lower, old = some (table lower)
  · obtain ⟨lower, rfl⟩ := hTable
    exact ⟨_, by rw [overlaid], shows_overlaidFields h⟩
  · refine ⟨upper, overlaid_of_lower_ne_table (by simpa using hTable), fun name v hFound => ?_⟩
    exact ⟨none, by rw [overlaid_of_lower_ne_table (by simp), hFound]⟩

/-- Taking off the marks of moments leaves each field under its name. -/
theorem find?_unmarkFields? (name : Text) (h : unmarkFields? fields = some kept) :
    Fields.find? name kept = (Fields.find? name fields).bind unmark? := by
  induction fields generalizing kept with
  | nil =>
      obtain rfl : [] = kept := by simpa [unmarkFields?] using h
      rfl
  | cons field fields ih =>
      obtain ⟨other, first⟩ := field
      obtain ⟨v, hFirst, h⟩ := Option.bind_eq_some_iff.mp h
      obtain ⟨rest, hRest, h⟩ := Option.bind_eq_some_iff.mp h
      obtain rfl := Option.some.inj h
      by_cases hName : name = other
      · simp [Fields.find?, hName, hFirst]
      · simp [Fields.find?, hName, ih hRest]

theorem map_fst_unmarkFields? (h : unmarkFields? fields = some kept) :
    kept.map Prod.fst = fields.map Prod.fst := by
  induction fields generalizing kept with
  | nil =>
      obtain rfl : [] = kept := by simpa [unmarkFields?] using h
      rfl
  | cons field fields ih =>
      obtain ⟨other, first⟩ := field
      obtain ⟨v, -, h⟩ := Option.bind_eq_some_iff.mp h
      obtain ⟨rest, hRest, h⟩ := Option.bind_eq_some_iff.mp h
      obtain rfl := Option.some.inj h
      rw [List.map_cons, List.map_cons, ih hRest]

theorem exists_unmark?_of_find? (h : unmarkFields? fields = some kept)
    (hFound : Fields.find? name fields = some v) :
    ∃ w, unmark? v = some w ∧ Fields.find? name kept = some w := by
  have hKept := find?_unmarkFields? name h
  rw [hFound, Option.bind_some] at hKept
  cases hUnmark : unmark? v with
  | some w => exact ⟨w, rfl, hKept.trans hUnmark⟩
  | none =>
      rw [hUnmark, Fields.find?_eq_none_iff, map_fst_unmarkFields? h,
        ← Fields.find?_eq_none_iff, hFound] at hKept
      cases hKept

/-- Sorting a table whose names are distinct loses none of its values. -/
theorem find?_sortedFields (h : Fields.Distinct fields) :
    Fields.find? name (sortedFields [] fields) = (Fields.find? name fields).map sorted := by
  rw [sortedFields_eq_laid]
  cases hFound : Fields.find? name fields with
  | none => exact Fields.find?_laid_of_none hFound
  | some v => exact Fields.find?_laid_of_some h hFound

/-- Without its marks and sorted, a table holds each value cleaned. -/
theorem find?_sortedFields_of_unmarkFields? (hNames : Fields.Distinct fields)
    (h : unmarkFields? fields = some kept) :
    Fields.find? name (sortedFields [] kept) = (Fields.find? name fields).bind cleaned? := by
  have hKept : Fields.Distinct kept := by
    rw [Fields.Distinct, map_fst_unmarkFields? h]
    exact hNames
  rw [find?_sortedFields hKept, find?_unmarkFields? name h, Option.map_bind]
  rfl

/-- An array is cleaned item by item and its items keep their places. -/
theorem cleaned?_array {items : List Value} : cleaned? (array items) =
    (unmarkItems? items).map fun items => array (sortedItems items) := by
  rw [cleaned?, unmark?, Option.map_map]
  rfl

theorem cleaned?_strings {texts : List Text} :
    cleaned? (array (texts.map string)) = some (array (texts.map string)) := by
  have hItems : (unmarkItems? (texts.map string)).map sortedItems = some (texts.map string) := by
    induction texts with
    | nil => rfl
    | cons t texts ih =>
        obtain ⟨items, hItems, hSorted⟩ := Option.map_eq_some_iff.mp ih
        simp [unmarkItems?, unmark?, sortedItems, sorted, hItems, hSorted]
  have h := congrArg (Option.map array) hItems
  rw [Option.map_map] at h
  rw [cleaned?_array]
  exact h

/-- A table that does not begin with the mark stays one. -/
theorem unmark?_table (h : ∀ field ∈ fields, field.1 ≠ momentMark) :
    unmark? (table fields) = (unmarkFields? fields).map table := by
  cases fields with
  | nil => rfl
  | cons field fields =>
      rw [unmark?.eq_def]
      exact if_neg (h field List.mem_cons_self)

theorem ascending_sortedFields : (Fields.Ascending (sortedFields [] fields)) := by
  rw [sortedFields_eq_laid]
  exact Fields.Ascending.laid List.Pairwise.nil

end Value

end Rubric.Toml
