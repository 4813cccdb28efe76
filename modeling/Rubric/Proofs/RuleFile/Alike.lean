import Rubric.Proofs.RuleFile.Entry

/-! Entries with the same fields. Two entries of one shape that differ in values only stay so when
they are sorted. Where a reader takes the values alike, it reads the same from both entries, and
complains in the same way. -/
namespace Rubric

namespace Json

variable {rel next : Text → Json → Json → Prop} {name : Text} {entry other v w : Json}
  {fields others done doneOther : Fields Json} {order : List Text}

/-- Fields with the same names in the same order, whose values are related one by one. -/
def FieldsAlike (rel : Text → Json → Json → Prop) : Fields Json → Fields Json → Prop :=
  List.Forall₂ fun field other => field.1 = other.1 ∧ rel field.1 field.2 other.2

/-- Entries of one shape with related fields, or one entry twice. -/
inductive Alike (order : List Text) (rel : Text → Json → Json → Prop) : Json → Json → Prop where
  | object {fields others : Fields Json} (h : FieldsAlike rel fields others) :
      Alike order rel (.object fields) (.object others)
  | array {items others : List Json} (hLength : items.length = others.length)
      (h : FieldsAlike rel (order.zip items) (order.zip others)) :
      Alike order rel (.array items) (.array others)
  | same (entry : Json) : Alike order rel entry entry

theorem FieldsAlike.put (h : FieldsAlike rel fields others) (hValue : rel name v w) :
    FieldsAlike rel (Fields.put name v fields) (Fields.put name w others) := by
  induction h with
  | nil => exact .cons ⟨rfl, hValue⟩ .nil
  | @cons field other fields others hField hFields ih =>
      obtain ⟨first, old⟩ := field
      obtain ⟨second, oldOther⟩ := other
      obtain ⟨rfl, hOld⟩ := hField
      simp only [Fields.put]
      split
      next => exact .cons ⟨rfl, hValue⟩ hFields
      next =>
        split
        next => exact .cons ⟨rfl, hValue⟩ (.cons ⟨rfl, hOld⟩ hFields)
        next => exact .cons ⟨rfl, hOld⟩ ih

/-- Entries that are alike have alike fields, in both of their shapes. -/
theorem Alike.fieldsIn (hSame : ∀ name v, rel name v v) (h : Alike order rel entry other) :
    FieldsAlike rel (entry.fieldsIn order) (other.fieldsIn order) := by
  cases h with
  | object hFields => exact hFields
  | array _ hFields => exact hFields
  | same => exact List.forall₂_same.mpr fun field _ => ⟨rfl, hSame field.1 field.2⟩

section Sorted

variable (hSorted : ∀ {name v w}, rel name v w → next name v.sorted w.sorted)
include hSorted

/-- Sorting keeps fields alike, since it goes by their names. -/
theorem FieldsAlike.sortedFields (hDone : FieldsAlike next done doneOther)
    (h : FieldsAlike rel fields others) :
    FieldsAlike next (Json.sortedFields done fields) (Json.sortedFields doneOther others) := by
  induction h generalizing done doneOther with
  | nil => exact hDone
  | @cons field other fields others hField _ ih =>
      obtain ⟨name, v⟩ := field
      obtain ⟨second, w⟩ := other
      obtain ⟨rfl, hValue⟩ := hField
      exact ih (hDone.put (hSorted hValue))

/-- Entries that are alike are so when they are sorted. -/
theorem Alike.sorted (h : Alike order rel entry other) :
    Alike order next entry.sorted other.sorted := by
  cases h with
  | object hFields => exact .object (FieldsAlike.sortedFields hSorted .nil hFields)
  | array hLength hFields =>
      rw [Json.sorted, Json.sorted, sortedItems_eq_map, sortedItems_eq_map]
      refine .array (by simpa using hLength) ?_
      rw [List.zip_map_right, List.zip_map_right]
      exact List.forall₂_map_left_iff.mpr (List.forall₂_map_right_iff.mpr
        (hFields.imp fun _ _ hField => ⟨hField.1, hSorted hField.2⟩))
  | same => exact .same _

end Sorted

end Json

namespace RuleFile

open Json

variable {σ : Type} {set : σ → Text → Json → Except Text σ} {rel : Text → Json → Json → Prop}
  {fields others : Fields Json} {entry other : Json}

/-- Fields that are taken alike one by one are taken alike as a whole. -/
theorem foldlM_alike
    (hSet : ∀ {name v w}, rel name v w → ∀ draft, set draft name v = set draft name w)
    (h : FieldsAlike rel fields others) (draft : σ) :
    fields.foldlM (fun draft field => set draft field.1 field.2) draft =
      others.foldlM (fun draft field => set draft field.1 field.2) draft := by
  induction h generalizing draft with
  | nil => rfl
  | @cons field other fields others hField _ ih =>
      obtain ⟨name, v⟩ := field
      obtain ⟨second, w⟩ := other
      obtain ⟨rfl, hValue⟩ := hField
      rw [List.foldlM_cons, List.foldlM_cons, hSet hValue draft]
      exact congrArg _ (funext ih)

/-- Entries of one shape make the same of a draft. -/
theorem Draft.conclude_alike (h : Alike Draft.order rel entry other) :
    conclude entry = conclude other := by
  cases h with
  | object => rfl
  | array hLength =>
      funext draft
      rw [conclude, conclude, hLength]
  | same => rfl

/-- The same is read from entries whose values are taken alike. -/
theorem readEntry_alike (h : Alike Draft.order rel entry other)
    (hSet : ∀ {name v w}, rel name v w →
      ∀ draft : Draft, draft.set name v.sorted = draft.set name w.sorted) :
    readEntry entry = readEntry other := by
  have hSorted : Alike Draft.order (fun name v w => ∀ draft : Draft,
      draft.set name v = draft.set name w) entry.sorted other.sorted :=
    h.sorted fun hValue => hSet hValue
  rw [Draft.readEntry_eq, Draft.readEntry_eq, Draft.conclude_alike hSorted,
    foldlM_alike (fun h => h) (hSorted.fieldsIn fun _ _ _ => rfl)]

/-- Two conditions are read the same if no field of theirs is told apart by the draft. -/
theorem ConditionDraft.read_alike (h : Alike ConditionDraft.order rel entry other)
    (hSet : ∀ {name v w}, rel name v w →
      ∀ draft : ConditionDraft, draft.set name v.sorted = draft.set name w.sorted) :
    read entry.sorted = read other.sorted := by
  have hSorted : Alike ConditionDraft.order (fun name v w => ∀ draft : ConditionDraft,
      draft.set name v = draft.set name w) entry.sorted other.sorted :=
    h.sorted fun hValue => hSet hValue
  generalize entry.sorted = entry, other.sorted = other at hSorted ⊢
  cases hSorted with
  | object hFields => exact foldlM_alike (fun h => h) hFields _
  | array hLength hFields => simp only [read, foldlM_alike (fun h => h) hFields, hLength]
  | same => rfl

end RuleFile
end Rubric
