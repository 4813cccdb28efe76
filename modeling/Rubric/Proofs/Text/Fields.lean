import Mathlib.Data.List.Nodup
import Rubric.Text.Fields

/-! Values under names. Putting a value changes what is found under its name and nothing else,
whatever the order of the fields, and it keeps ascending fields ascending. -/
namespace Rubric

namespace Text

theorem before_irrefl (t : Text) : before t t = false := by
  induction t with
  | nil => rfl
  | cons c t ih => simp [before, ih]

theorem before_trans {a b c : Text} (hab : before a b = true) (hbc : before b c = true) :
    before a c = true := by
  induction a generalizing b c with
  | nil =>
      cases c with
      | nil => cases b <;> simp [before] at hbc
      | cons z c => rfl
  | cons x a ih =>
      cases b with
      | nil => simp [before] at hab
      | cons y b =>
          cases c with
          | nil => simp [before] at hbc
          | cons z c =>
              by_cases hxy : x = y
              · subst hxy
                by_cases hxz : x = z
                · subst hxz
                  simp only [before, if_true] at hab hbc ⊢
                  exact ih hab hbc
                · simpa [before, hxz] using hbc
              · have hLess : x.toNat < y.toNat := by simpa [before, hxy] using hab
                have hNotMore : y.toNat ≤ z.toNat := by
                  by_cases hyz : y = z
                  · exact Nat.le_of_eq (congrArg Char.toNat hyz)
                  · have : y.toNat < z.toNat := by simpa [before, hyz] using hbc
                    omega
                have hxz : x ≠ z := by
                  rintro rfl
                  omega
                simp only [before, if_neg hxz, decide_eq_true_eq]
                omega

/-- Two names are ordered one way or the other, so a place for a name can always be told. -/
theorem before_total {a b : Text} (hNe : a ≠ b) (h : before a b = false) : before b a = true := by
  induction a generalizing b with
  | nil =>
      cases b with
      | nil => exact absurd rfl hNe
      | cons y b => simp [before] at h
  | cons x a ih =>
      cases b with
      | nil => rfl
      | cons y b =>
          by_cases hxy : x = y
          · subst hxy
            simp only [before, if_true] at h ⊢
            exact ih (fun hab => hNe (by rw [hab])) h
          · have hNotLess : y.toNat ≤ x.toNat := by simpa [before, hxy] using h
            have hOther : x.toNat ≠ y.toNat := fun hSame => hxy (Char.toNat_inj.mp hSame)
            have hyx : y ≠ x := fun hSame => hxy hSame.symm
            simp only [before, if_neg hyx, decide_eq_true_eq]
            omega

end Text

namespace Fields

variable {α β : Type} {name other : Text} {value : α} {fields : Fields α}

def Distinct (fields : Fields α) : Prop :=
  (fields.map Prod.fst).Nodup

/-- Every name comes before those behind it. -/
def Ascending (fields : Fields α) : Prop :=
  fields.Pairwise fun a b => Text.before a.1 b.1 = true

theorem find?_eq_none_iff : find? name fields = none ↔ name ∉ fields.map Prod.fst := by
  induction fields with
  | nil => simp [find?]
  | cons field fields ih =>
      obtain ⟨other, value⟩ := field
      by_cases hName : name = other <;> simp_all [find?]

theorem mem_of_find? (h : find? name fields = some value) : (name, value) ∈ fields := by
  induction fields with
  | nil => simp [find?] at h
  | cons field fields ih =>
      obtain ⟨other, first⟩ := field
      by_cases hName : name = other
      · obtain rfl : first = value := by simpa [find?, hName] using h
        simp [hName]
      · exact List.mem_cons_of_mem _ (ih (by simpa [find?, hName] using h))

/-- A put field is found under its name, and the others are found as before. -/
theorem find?_put : find? other (put name value fields) =
    if other = name then some value else find? other fields := by
  induction fields with
  | nil => simp [put, find?]
  | cons field fields ih =>
      obtain ⟨first, old⟩ := field
      rw [put]
      split
      next hSame =>
        subst hSame
        by_cases hOther : other = name <;> simp [find?, hOther]
      next hNe =>
        split
        next => simp [find?]
        next =>
          by_cases hFirst : other = first
          · subst hFirst
            simp [find?, Ne.symm hNe]
          · simp [find?, hFirst, ih]

/-- A put adds no field but its own. -/
theorem eq_or_mem_of_mem_put {field : Text × α} (h : field ∈ put name value fields) :
    field = (name, value) ∨ field ∈ fields := by
  induction fields with
  | nil => simpa [put] using h
  | cons first fields ih =>
      obtain ⟨other, old⟩ := first
      rw [put] at h
      split at h
      next =>
        rcases List.mem_cons.mp h with rfl | hRest
        · exact .inl rfl
        · exact .inr (List.mem_cons_of_mem _ hRest)
      next =>
        split at h
        next => exact List.mem_cons.mp h
        next =>
          rcases List.mem_cons.mp h with rfl | hRest
          · exact .inr List.mem_cons_self
          · exact (ih hRest).imp_right (List.mem_cons_of_mem _)

/-- Putting keeps the order, which is why no sort is needed behind it. -/
theorem Ascending.put (h : fields.Ascending) (name : Text) (value : α) :
    (Fields.put name value fields).Ascending := by
  induction fields with
  | nil => exact List.pairwise_singleton _ _
  | cons field fields ih =>
      obtain ⟨other, old⟩ := field
      obtain ⟨hFirst, hRest⟩ := List.pairwise_cons.mp h
      rw [Fields.put]
      split
      next hSame =>
        subst hSame
        exact List.pairwise_cons.mpr ⟨hFirst, hRest⟩
      next hNe =>
        split
        next hBefore =>
          refine List.pairwise_cons.mpr ⟨fun later hLater => ?_, h⟩
          rcases List.mem_cons.mp hLater with rfl | hLater
          · exact hBefore
          · exact Text.before_trans hBefore (hFirst later hLater)
        next hNotBefore =>
          refine List.pairwise_cons.mpr ⟨fun later hLater => ?_, ih hRest⟩
          rcases eq_or_mem_of_mem_put hLater with rfl | hLater
          · exact Text.before_total hNe (by simpa using hNotBefore)
          · exact hFirst later hLater

/-- Where names ascend none of them stands twice. -/
theorem Ascending.distinct (h : fields.Ascending) : fields.Distinct := by
  refine List.pairwise_map.mpr (h.imp fun hBefore hSame => ?_)
  rw [hSame, Text.before_irrefl] at hBefore
  cases hBefore

/-- Where no name stands twice, finding a field is the same as its being there. -/
theorem find?_eq_some_iff (h : fields.Distinct) :
    find? name fields = some value ↔ (name, value) ∈ fields := by
  refine ⟨mem_of_find?, fun hMem => ?_⟩
  induction fields with
  | nil => cases hMem
  | cons field fields ih =>
      obtain ⟨other, first⟩ := field
      obtain ⟨hNew, hRest⟩ := List.nodup_cons.mp h
      rcases List.mem_cons.mp hMem with hSame | hMem
      · obtain ⟨rfl, rfl⟩ := Prod.mk.inj hSame
        simp [find?]
      · have hName : name ≠ other := fun hSame =>
          hNew (List.mem_map.mpr ⟨(name, value), hMem, hSame⟩)
        simpa [find?, hName] using ih hRest hMem

/-- Ascending fields are known by what is found in them. -/
theorem Ascending.ext {others : Fields α} (h : fields.Ascending) (hOthers : others.Ascending)
    (hFound : ∀ name, find? name fields = find? name others) : fields = others := by
  have hMem : ∀ field, field ∈ fields ↔ field ∈ others := fun (name, value) => by
    rw [← find?_eq_some_iff h.distinct, hFound name, find?_eq_some_iff hOthers.distinct]
  have hPerm : fields.Perm others :=
    (List.perm_ext_iff_of_nodup (List.Nodup.of_map _ h.distinct)
      (List.Nodup.of_map _ hOthers.distinct)).mpr hMem
  refine hPerm.eq_of_pairwise (fun a b _ _ hBefore hAfter => ?_) h hOthers
  have hSelf := Text.before_trans hBefore hAfter
  rw [Text.before_irrefl] at hSelf
  cases hSelf

/-- Values in the places of different names are fields of different names. -/
theorem distinct_zip {order : List Text} (h : order.Nodup) (items : List α) :
    Distinct (order.zip items) := by
  induction order generalizing items with
  | nil => exact List.nodup_nil
  | cons name order ih =>
      cases items with
      | nil => exact List.nodup_nil
      | cons item items =>
          obtain ⟨hName, hOrder⟩ := List.nodup_cons.mp h
          refine List.nodup_cons.mpr ⟨fun hMem => ?_, ih hOrder items⟩
          obtain ⟨field, hField, hSame⟩ := List.mem_map.mp hMem
          obtain rfl : field.1 = name := hSame
          exact hName (List.of_mem_zip hField).1

/-- Puts upper fields one by one into lower ones. What is put is the upper value joined to the one
that is found under its name. -/
def laid (join : Option α → β → α) (lower : Fields α) (upper : Fields β) : Fields α :=
  upper.foldl (fun done field => put field.1 (join (find? field.1 done) field.2) done) lower

section Laid

variable {join : Option α → β → α} {lower : Fields α} {upper : Fields β}

/-- A name that the upper fields lack is left to the lower ones. -/
theorem find?_laid_of_none (h : find? name upper = none) :
    find? name (laid join lower upper) = find? name lower := by
  induction upper generalizing lower with
  | nil => rfl
  | cons field upper ih =>
      obtain ⟨other, first⟩ := field
      by_cases hName : name = other
      · simp [find?, hName] at h
      · rw [laid, List.foldl_cons, ← laid, ih (by simpa [find?, hName] using h), find?_put,
          if_neg hName]

/-- A name of the upper fields shows what the two values make together. -/
theorem find?_laid_of_some {v : β} (hUpper : upper.Distinct) (h : find? name upper = some v) :
    find? name (laid join lower upper) = some (join (find? name lower) v) := by
  induction upper generalizing lower with
  | nil => simp [find?] at h
  | cons field upper ih =>
      obtain ⟨other, first⟩ := field
      obtain ⟨hNew, hRest⟩ := List.nodup_cons.mp hUpper
      rw [laid, List.foldl_cons, ← laid]
      by_cases hName : name = other
      · subst hName
        obtain rfl : first = v := by simpa [find?] using h
        rw [find?_laid_of_none (find?_eq_none_iff.mpr hNew), find?_put, if_pos rfl]
      · rw [ih hRest (by simpa [find?, hName] using h), find?_put, if_neg hName]

/-- Laying fields over ascending ones keeps the order, whatever order the upper ones have. -/
theorem Ascending.laid (h : lower.Ascending) : (Fields.laid join lower upper).Ascending := by
  induction upper generalizing lower with
  | nil => exact h
  | cons field upper ih => exact ih (h.put _ _)

end Laid

def last? (name : Text) (fields : Fields α) : Option α :=
  find? name fields.reverse

theorem find?_append {rest : Fields α} :
    find? name (fields ++ rest) = (find? name fields).or (find? name rest) := by
  induction fields with
  | nil => rfl
  | cons field fields ih =>
      obtain ⟨other, first⟩ := field
      by_cases hName : name = other <;> simp [find?, hName, ih]

theorem last?_cons : last? name ((other, value) :: fields) =
    (last? name fields).or (if name = other then some value else none) := by
  rw [last?, List.reverse_cons, find?_append]
  rfl

/-- Where no name stands twice, the first field of a name is its last one too. -/
theorem last?_eq_find? (h : fields.Distinct) : last? name fields = find? name fields := by
  induction fields with
  | nil => rfl
  | cons field fields ih =>
      obtain ⟨other, first⟩ := field
      obtain ⟨hNew, hRest⟩ := List.nodup_cons.mp h
      rw [last?_cons, ih hRest, find?]
      split
      next hName => rw [hName, find?_eq_none_iff.mpr hNew, Option.none_or]
      next => rw [Option.or_none]

/-- Changing all values changes the last value of a name with them. -/
theorem last?_map {β : Type} (f : α → β) :
    last? name (fields.map fun field => (field.1, f field.2)) = (last? name fields).map f := by
  induction fields with
  | nil => rfl
  | cons field fields ih =>
      obtain ⟨other, first⟩ := field
      rw [List.map_cons, last?_cons, last?_cons, ih]
      by_cases hName : name = other <;> cases last? name fields <;> simp [hName]

/-- Where each field takes the place of what was under its name, the last one stays. -/
theorem find?_laid_last {β : Type} {lower : Fields α} {upper : Fields β} (f : β → α) :
    find? name (laid (fun _ v => f v) lower upper) =
      ((last? name upper).map f).or (find? name lower) := by
  induction upper generalizing lower with
  | nil => rfl
  | cons field upper ih =>
      obtain ⟨other, first⟩ := field
      change find? name (laid (fun _ v => f v) (put other (f first) lower) upper) = _
      rw [ih, find?_put, last?_cons]
      by_cases hName : name = other <;> cases last? name upper <;> simp [hName]

/-- A field of a new name may be added behind the others. -/
theorem distinct_concat (h : fields.Distinct) (hName : find? name fields = none) :
    Distinct (fields ++ [(name, value)]) := by
  have hNew := find?_eq_none_iff.mp hName
  rw [Distinct, List.map_append]
  exact List.nodup_append.mpr ⟨h, List.nodup_singleton _, by grind⟩

/-- Setting a field that is there keeps all names in their places. -/
theorem map_fst_set {old : α} (h : find? name fields = some old) :
    (set name value fields).map Prod.fst = fields.map Prod.fst := by
  induction fields with
  | nil => simp [find?] at h
  | cons field fields ih =>
      obtain ⟨other, first⟩ := field
      by_cases hName : name = other
      · simp [set, hName]
      · simp [set, hName, ih (by simpa [find?, hName] using h)]

theorem eq_or_mem_of_mem_set {field : Text × α} (h : field ∈ set name value fields) :
    field = (name, value) ∨ field ∈ fields := by
  induction fields with
  | nil => simpa [set] using h
  | cons first fields ih =>
      obtain ⟨other, old⟩ := first
      rw [set] at h
      split at h
      next =>
        rcases List.mem_cons.mp h with rfl | hRest
        · exact .inl rfl
        · exact .inr (List.mem_cons_of_mem _ hRest)
      next =>
        rcases List.mem_cons.mp h with rfl | hRest
        · exact .inr List.mem_cons_self
        · exact (ih hRest).imp_right (List.mem_cons_of_mem _)

/-- A set field is found under its name, and the others are found as before. -/
theorem find?_set : find? other (set name value fields) =
    if other = name then some value else find? other fields := by
  induction fields with
  | nil => simp [set, find?]
  | cons field fields ih =>
      obtain ⟨first, old⟩ := field
      by_cases hName : name = first
      · subst hName
        by_cases hOther : other = name <;> simp [set, find?, hOther]
      · by_cases hOther : other = first
        · subst hOther
          simp [set, find?, hName, Ne.symm hName]
        · simp [set, find?, hName, hOther, ih]

/-- A removal leaves the fields of other names alone. -/
theorem find?_remove_of_ne (h : other ≠ name) :
    find? other (fields.remove name) = find? other fields := by
  induction fields with
  | nil => rfl
  | cons field fields ih =>
      obtain ⟨first, value⟩ := field
      rw [remove] at ih ⊢
      by_cases hName : first = name
      · subst hName
        simpa [find?, h] using ih
      · rw [List.filter_cons_of_pos (by simpa using hName), find?, find?, ih]

theorem distinct_remove (h : fields.Distinct) : (fields.remove name).Distinct :=
  h.sublist (List.filter_sublist.map _)

/-- Nothing is found any more under a name that has been removed. -/
theorem find?_remove : find? name (fields.remove name) = none := by
  refine find?_eq_none_iff.mpr fun hMem => ?_
  obtain ⟨field, hField, hName⟩ := List.mem_map.mp hMem
  simp [remove, hName] at hField

end Fields
end Rubric
