import Rubric.Proofs.Except
import Rubric.Proofs.Text.Fields
import Rubric.RuleFile.Draft

/-! What the entries of rule files hold. An entry gives a value to each of its names, and of several
the last one counts. A draft takes the fields one by one, so each of its parts is what is read from
the value under one name, or is as blank as it was. -/
namespace Rubric

namespace Json

variable {order : List Text} {name : String} {value : Json}

/-- The fields of an entry: those of an object, or the items of an array under the names of a fixed
order. -/
def fieldsIn (order : List Text) : Json → Fields Json
  | object fields => fields
  | array items => order.zip items
  | _ => []

def field? (order : List Text) (name : String) (entry : Json) : Option Json :=
  Fields.last? name.toList (entry.fieldsIn order)

/-- The text of a string, a number or a truth value. -/
def text? : Json → Option Text
  | string t => some t
  | number n => some n.text
  | bool b => some (if b then "true" else "false").toList
  | _ => none

/-- Sorting lays the fields over those that are sorted already, and the last one of a name stays. -/
theorem sortedFields_eq_laid {done fields : Fields Json} :
    sortedFields done fields = Fields.laid (fun _ v => sorted v) done fields := by
  induction fields generalizing done with
  | nil => rfl
  | cons field fields ih => exact ih

theorem distinct_sortedFields (fields : Fields Json) :
    Fields.Distinct (sortedFields [] fields) := by
  rw [sortedFields_eq_laid]
  exact (Fields.Ascending.laid List.Pairwise.nil).distinct

/-- The last field of a name is the one that sorting keeps. -/
theorem last?_sortedFields {fields : Fields Json} {name : Text} :
    Fields.last? name (sortedFields [] fields) = (Fields.last? name fields).map sorted := by
  rw [Fields.last?_eq_find? (distinct_sortedFields fields), sortedFields_eq_laid,
    Fields.find?_laid_last, Fields.find?, Option.or_none]

theorem sortedItems_eq_map {items : List Json} : sortedItems items = items.map sorted := by
  induction items with
  | nil => rfl
  | cons item items ih => rw [sortedItems, ih, List.map_cons]

/-- Sorting leaves every value under its name. -/
theorem field?_sorted : value.sorted.field? order name = (value.field? order name).map sorted := by
  cases value with
  | object fields => exact last?_sortedFields
  | array items =>
      rw [sorted, sortedItems_eq_map, field?, field?, fieldsIn, fieldsIn, List.zip_map_right,
        ← Fields.last?_map]
      rfl
  | _ => rfl

@[simp] theorem text?_sorted : value.sorted.text? = value.text? := by
  cases value <;> rfl

end Json

namespace RuleFile

section Takes

variable {α σ : Type} {set : σ → Text → Json → Except Text σ} {name : String}
  {read : Json → Except Text α} {get : σ → α}

/-- A part of a draft is read from the fields of one name, and fields of other names leave it
alone. -/
structure Takes (set : σ → Text → Json → Except Text σ) (name : String)
    (read : Json → Except Text α) (get : σ → α) : Prop where
  read_eq : ∀ {draft next v}, set draft name.toList v = .ok next → read v = .ok (get next)
  get_eq : ∀ {draft next other v}, other ≠ name.toList → set draft other v = .ok next →
    get next = get draft

/-- When all fields are taken, the part is read from the last field of its name. -/
theorem Takes.foldlM (h : Takes set name read get) {fields : Fields Json} {draft final : σ}
    (hFields : fields.foldlM (fun draft field => set draft field.1 field.2) draft = .ok final) :
    (Fields.last? name.toList fields).elim (.ok (get draft)) read = .ok (get final) := by
  induction fields generalizing draft with
  | nil =>
      obtain rfl : draft = final := by simpa [pure, Except.pure] using hFields
      rfl
  | cons field fields ih =>
      obtain ⟨other, v⟩ := field
      rw [List.foldlM_cons] at hFields
      obtain ⟨next, hNext, hRest⟩ := bind_eq_ok_iff.mp hFields
      have hLast := ih hRest
      rw [Fields.last?_cons]
      cases hFound : Fields.last? name.toList fields with
      | some found => simpa [hFound] using hLast
      | none =>
          simp only [hFound, Option.elim_none, Except.ok.injEq] at hLast
          split
          next hName =>
            subst hName
            simpa [hLast] using h.read_eq hNext
          next hName => simpa [← hLast] using (h.get_eq (Ne.symm hName) hNext).symm

variable {order : List Text} {entry : Json} {draft final : σ}
  (hFields : (entry.sorted.fieldsIn order).foldlM
    (fun draft field => set draft field.1 field.2) draft = .ok final)
include hFields

/-- From a sorted entry, the part is read from the sorted value under its name. -/
theorem Takes.field? (h : Takes set name read get) :
    (entry.field? order name).elim (.ok (get draft)) (fun v => read v.sorted) =
      .ok (get final) := by
  have hLast := h.foldlM hFields
  rw [← Json.field?, Json.field?_sorted] at hLast
  cases hFound : entry.field? order name <;> simpa [hFound] using hLast

/-- What is read from the text of a value alone does not depend on the sorting. -/
theorem Takes.eq_of_text (h : Takes set name read get) (ofText : Option Text → α)
    (hRead : ∀ {v a}, read v = .ok a → ofText v.text? = a) (hBlank : get draft = ofText none) :
    get final = ofText ((entry.field? order name).bind Json.text?) := by
  have hField := h.field? hFields
  cases hFound : entry.field? order name with
  | none => simpa [hFound, hBlank, eq_comm] using hField
  | some v =>
      have hSorted : read v.sorted = .ok (get final) := by simpa [hFound] using hField
      simpa using (hRead hSorted).symm

end Takes

theorem getD_text?_of_string {v : Json} {t : Text} (h : string v = .ok t) :
    v.text?.getD [] = t := by
  cases v <;> simp_all [string, Json.text?]

theorem text?_of_string? {v : Json} {t : Option Text} (h : string? v = .ok t) : v.text? = t := by
  cases v <;> simp_all [string?, string, Except.map, Json.text?]

/-- A scalar is read as its text, and what is missing as the empty one. -/
theorem getD_text?_of_scalarOrEmpty {v : Json} {t : Text} (h : scalarOrEmpty v = .ok t) :
    v.text?.getD [] = t := by
  cases v <;> simp_all [scalarOrEmpty, scalar, Json.text?]

namespace ConditionDraft

variable {draft next : ConditionDraft} {field : Text} {entry v : Json}

/-- Taking a field changes the part that has its name, and that part alone. -/
theorem set_cases (h : draft.set field v = .ok next) :
    (field = "key".toList ∧ ∃ t, string v = .ok t ∧ next = { draft with key := t }) ∨
    (field = "value".toList ∧ ∃ t, scalarOrEmpty v = .ok t ∧ next = { draft with operand := t }) ∨
    (field = "match_type".toList ∧ ∃ t, string? v = .ok t ∧ next = { draft with kind := t }) ∨
    (field ∉ order ∧ next = draft) := by
  rw [set] at h
  split at h
  next hName =>
    obtain ⟨t, hRead, rfl⟩ := map_eq_ok_iff.mp h
    exact .inl ⟨by simp [← hName], t, hRead, rfl⟩
  next hName =>
    obtain ⟨t, hRead, rfl⟩ := map_eq_ok_iff.mp h
    exact .inr (.inl ⟨by simp [← hName], t, hRead, rfl⟩)
  next hName =>
    obtain ⟨t, hRead, rfl⟩ := map_eq_ok_iff.mp h
    exact .inr (.inr (.inl ⟨by simp [← hName], t, hRead, rfl⟩))
  next hKey hValue hKind =>
    obtain rfl := Except.ok.inj h
    refine .inr (.inr (.inr ⟨fun hMem => ?_, rfl⟩))
    simp only [order, List.map_cons, List.map_nil, List.mem_cons, List.not_mem_nil,
      or_false] at hMem
    rcases hMem with rfl | rfl | rfl
    · exact hKey String.ofList_toList
    · exact hValue String.ofList_toList
    · exact hKind String.ofList_toList

theorem takes_key : Takes set "key" string key where
  read_eq h := by
    rcases set_cases h with ⟨-, t, hRead, rfl⟩ | ⟨hName, -⟩ | ⟨hName, -⟩ | ⟨hName, -⟩
    on_goal 1 => exact hRead
    all_goals exact absurd hName (by decide)
  get_eq hOther h := by
    rcases set_cases h with ⟨hName, -⟩ | ⟨-, t, -, rfl⟩ | ⟨-, t, -, rfl⟩ | ⟨-, rfl⟩
    on_goal 1 => exact absurd hName hOther
    all_goals rfl

theorem takes_operand : Takes set "value" scalarOrEmpty operand where
  read_eq h := by
    rcases set_cases h with ⟨hName, -⟩ | ⟨-, t, hRead, rfl⟩ | ⟨hName, -⟩ | ⟨hName, -⟩
    on_goal 2 => exact hRead
    all_goals exact absurd hName (by decide)
  get_eq hOther h := by
    rcases set_cases h with ⟨-, t, -, rfl⟩ | ⟨hName, -⟩ | ⟨-, t, -, rfl⟩ | ⟨-, rfl⟩
    on_goal 2 => exact absurd hName hOther
    all_goals rfl

theorem takes_kind : Takes set "match_type" string? kind where
  read_eq h := by
    rcases set_cases h with ⟨hName, -⟩ | ⟨hName, -⟩ | ⟨-, t, hRead, rfl⟩ | ⟨hName, -⟩
    on_goal 3 => exact hRead
    all_goals exact absurd hName (by decide)
  get_eq hOther h := by
    rcases set_cases h with ⟨-, t, -, rfl⟩ | ⟨-, t, -, rfl⟩ | ⟨hName, -⟩ | ⟨-, rfl⟩
    on_goal 3 => exact absurd hName hOther
    all_goals rfl

/-- Both shapes of a condition are read field by field. -/
theorem foldlM_of_read (h : read entry = .ok draft) :
    (entry.fieldsIn order).foldlM (fun draft field => draft.set field.1 field.2) blank =
      .ok draft := by
  cases entry with
  | object fields => exact h
  | array items =>
      obtain ⟨taken, hTaken, h⟩ := bind_eq_ok_iff.mp h
      split at h
      next => cases h
      next =>
        obtain rfl : taken = draft := Except.ok.inj h
        exact hTaken
  | _ => cases h

end ConditionDraft

namespace Draft

variable {draft next : Draft} {field : Text} {entry v : Json} {result : Rule × List Event}

/-- Taking a field changes the part that has its name, and that part alone. -/
theorem set_cases (h : draft.set field v = .ok next) :
    (field = "name".toList ∧ ∃ t, string v = .ok t ∧ next = { draft with name := some t }) ∨
    (field = "section_pattern".toList ∧
      ∃ t, string v = .ok t ∧ next = { draft with pattern := some t }) ∨
    (field = "action_key".toList ∧ ∃ t, string? v = .ok t ∧ next = { draft with key := t }) ∨
    (field = "action_value".toList ∧
      ∃ t, scalar v = .ok t ∧ next = { draft with value := some t }) ∨
    (field = "priority".toList ∧
      ∃ n, RuleFile.priority v = .ok n ∧ next = { draft with priority := n }) ∨
    (field = "conditions".toList ∧
      ∃ cs, conditionDrafts v = .ok cs ∧ next = { draft with conditions := cs }) ∨
    (field ∉ order ∧ next = draft) := by
  rw [set] at h
  split at h
  next hName =>
    obtain ⟨t, hRead, rfl⟩ := map_eq_ok_iff.mp h
    exact .inl ⟨by simp [← hName], t, hRead, rfl⟩
  next hName =>
    obtain ⟨t, hRead, rfl⟩ := map_eq_ok_iff.mp h
    exact .inr (.inl ⟨by simp [← hName], t, hRead, rfl⟩)
  next hName =>
    obtain ⟨t, hRead, rfl⟩ := map_eq_ok_iff.mp h
    exact .inr (.inr (.inl ⟨by simp [← hName], t, hRead, rfl⟩))
  next hName =>
    obtain ⟨t, hRead, rfl⟩ := map_eq_ok_iff.mp h
    exact .inr (.inr (.inr (.inl ⟨by simp [← hName], t, hRead, rfl⟩)))
  next hName =>
    obtain ⟨n, hRead, rfl⟩ := map_eq_ok_iff.mp h
    exact .inr (.inr (.inr (.inr (.inl ⟨by simp [← hName], n, hRead, rfl⟩))))
  next hName =>
    obtain ⟨cs, hRead, rfl⟩ := map_eq_ok_iff.mp h
    exact .inr (.inr (.inr (.inr (.inr (.inl ⟨by simp [← hName], cs, hRead, rfl⟩)))))
  next hRule hPattern hKey hValue hPriority hConditions =>
    obtain rfl := Except.ok.inj h
    refine .inr (.inr (.inr (.inr (.inr (.inr ⟨fun hMem => ?_, rfl⟩)))))
    simp only [order, List.map_cons, List.map_nil, List.mem_cons, List.not_mem_nil,
      or_false] at hMem
    rcases hMem with rfl | rfl | rfl | rfl | rfl | rfl
    · exact hRule String.ofList_toList
    · exact hPattern String.ofList_toList
    · exact hKey String.ofList_toList
    · exact hValue String.ofList_toList
    · exact hPriority String.ofList_toList
    · exact hConditions String.ofList_toList

theorem takes_key : Takes set "action_key" string? key where
  read_eq h := by
    rcases set_cases h with ⟨hName, -⟩ | ⟨hName, -⟩ | ⟨-, t, hRead, rfl⟩ | ⟨hName, -⟩ |
      ⟨hName, -⟩ | ⟨hName, -⟩ | ⟨hName, -⟩
    on_goal 3 => exact hRead
    all_goals exact absurd hName (by decide)
  get_eq hOther h := by
    rcases set_cases h with ⟨-, t, -, rfl⟩ | ⟨-, t, -, rfl⟩ | ⟨hName, -⟩ | ⟨-, t, -, rfl⟩ |
      ⟨-, n, -, rfl⟩ | ⟨-, cs, -, rfl⟩ | ⟨-, rfl⟩
    on_goal 3 => exact absurd hName hOther
    all_goals rfl

theorem takes_value :
    Takes set "action_value" (fun v => (scalar v).map some) Draft.value where
  read_eq h := by
    rcases set_cases h with ⟨hName, -⟩ | ⟨hName, -⟩ | ⟨hName, -⟩ | ⟨-, t, hRead, rfl⟩ |
      ⟨hName, -⟩ | ⟨hName, -⟩ | ⟨hName, -⟩
    on_goal 4 => exact map_eq_ok_iff.mpr ⟨t, hRead, rfl⟩
    all_goals exact absurd hName (by decide)
  get_eq hOther h := by
    rcases set_cases h with ⟨-, t, -, rfl⟩ | ⟨-, t, -, rfl⟩ | ⟨-, t, -, rfl⟩ | ⟨hName, -⟩ |
      ⟨-, n, -, rfl⟩ | ⟨-, cs, -, rfl⟩ | ⟨-, rfl⟩
    on_goal 4 => exact absurd hName hOther
    all_goals rfl

theorem takes_conditions : Takes set "conditions" conditionDrafts conditions where
  read_eq h := by
    rcases set_cases h with ⟨hName, -⟩ | ⟨hName, -⟩ | ⟨hName, -⟩ | ⟨hName, -⟩ |
      ⟨hName, -⟩ | ⟨-, cs, hRead, rfl⟩ | ⟨hName, -⟩
    on_goal 6 => exact hRead
    all_goals exact absurd hName (by decide)
  get_eq hOther h := by
    rcases set_cases h with ⟨-, t, -, rfl⟩ | ⟨-, t, -, rfl⟩ | ⟨-, t, -, rfl⟩ | ⟨-, t, -, rfl⟩ |
      ⟨-, n, -, rfl⟩ | ⟨hName, -⟩ | ⟨-, rfl⟩
    on_goal 6 => exact absurd hName hOther
    all_goals rfl

/-- A draft is finished where none of the three fields is missing that must be written. -/
theorem finish_eq_ok_iff {fromArray : Bool} : draft.finish fromArray = .ok result ↔
    ∃ name pattern value, draft.name = some name ∧ draft.pattern = some pattern ∧
      draft.value = some value ∧ draft.rule name pattern value = result := by
  rw [finish]
  constructor
  · intro h
    split at h
    next => cases h
    next => cases h
    next => cases h
    next name pattern value hName hPattern hValue =>
      exact ⟨name, pattern, value, hName, hPattern, hValue, Except.ok.inj h⟩
  · rintro ⟨name, pattern, value, hName, hPattern, hValue, rfl⟩
    simp [hName, hPattern, hValue]

/-- A draft that is finished has the three texts that a rule cannot do without. -/
theorem exists_rule_of_finish {fromArray : Bool} (h : draft.finish fromArray = .ok result) :
    ∃ name pattern value, draft.rule name pattern value = result := by
  obtain ⟨name, pattern, value, -, -, -, hRule⟩ := finish_eq_ok_iff.mp h
  exact ⟨name, pattern, value, hRule⟩

/-- What an entry of a shape makes of its draft. -/
def conclude (entry : Json) (draft : Draft) : Except Text (Rule × List Event) :=
  match entry with
  | .object _ => draft.finish false
  | .array items => do
    let result ← draft.finish true
    if order.length < items.length then
      throw (badLength items.length "fewer elements in array")
    return result
  | value => .error (misfit value "struct RawRule")

/-- An entry of any shape is read field by field before it makes anything of its draft. -/
theorem readEntry_eq (entry : Json) : readEntry entry =
    (entry.sorted.fieldsIn order).foldlM (fun draft field => draft.set field.1 field.2) blank >>=
      conclude entry.sorted := by
  rw [readEntry]
  generalize entry.sorted = sorted
  cases sorted <;> rfl

/-- Both shapes of an entry are concluded by finishing a draft. -/
theorem exists_finish_of_conclude (h : draft.conclude entry = .ok result) :
    ∃ fromArray, draft.finish fromArray = .ok result := by
  cases entry with
  | object fields => exact ⟨false, h⟩
  | array items =>
      obtain ⟨finished, hFinish, h⟩ := bind_eq_ok_iff.mp h
      split at h
      next => cases h
      next =>
        obtain rfl : finished = result := Except.ok.inj h
        exact ⟨true, hFinish⟩
  | _ => cases h

/-- Both shapes of a rule are read field by field before the draft is finished. -/
theorem exists_finish_of_readEntry (h : readEntry entry = .ok result) :
    ∃ draft fromArray,
      (entry.sorted.fieldsIn order).foldlM (fun draft field => draft.set field.1 field.2) blank =
        .ok draft ∧
      draft.finish fromArray = .ok result := by
  rw [readEntry_eq] at h
  obtain ⟨draft, hDraft, h⟩ := bind_eq_ok_iff.mp h
  obtain ⟨fromArray, hFinish⟩ := exists_finish_of_conclude h
  exact ⟨draft, fromArray, hDraft, hFinish⟩

/-- What is read field by field makes up the rule. -/
theorem exists_foldlM_of_readEntry (h : readEntry entry = .ok result) :
    ∃ draft name pattern value,
      (entry.sorted.fieldsIn order).foldlM (fun draft field => draft.set field.1 field.2) blank =
        .ok draft ∧
      draft.rule name pattern value = result := by
  obtain ⟨draft, fromArray, hDraft, hFinish⟩ := exists_finish_of_readEntry h
  obtain ⟨name, pattern, value, hRule⟩ := exists_rule_of_finish hFinish
  exact ⟨draft, name, pattern, value, hDraft, hRule⟩

end Draft

end RuleFile
end Rubric
