import Rubric.Proofs.Json.Reading

/-! Printing JSON and reading it back. A value without floating-point numbers is read back from both
of its layouts as it was, as long as it nests no deeper than what can be read. -/
namespace Rubric.Json

/-- A value that printing keeps: its numbers are integers that can be read, and its arrays and
objects nest at most this deep. -/
inductive Exact : Nat → Json → Prop where
  | null {depth : Nat} : Exact depth .null
  | bool {depth : Nat} (b : Bool) : Exact depth (.bool b)
  | int {depth : Nat} {n : Int} (h : Whole n) : Exact depth (.number (.int n))
  | string {depth : Nat} (t : Text) : Exact depth (.string t)
  | array {depth : Nat} {items : List Json} (h : ∀ item ∈ items, Exact depth item) :
      Exact (depth + 1) (.array items)
  | object {depth : Nat} {fields : Fields Json} (h : ∀ field ∈ fields, Exact depth field.2) :
      Exact (depth + 1) (.object fields)

variable {α : Type} {first : Bool} {depth : Nat} {last : Text} {value : Json} {items : List Json}
  {fields : Fields Json} {part : α → Text}

def separated (part : α → Text) (first : Bool) : List α → Text
  | [] => []
  | a :: rest => (if first then [] else [',']) ++ part a ++ separated part false rest

theorem separated_cons (a : α) (rest : List α) :
    separated part first (a :: rest) =
      (if first then [] else [',']) ++ Text.joinWith ',' ((a :: rest).map part) := by
  induction rest generalizing a first with
  | nil => simp [separated, Text.joinWith]
  | cons b rest ih =>
      rw [separated, ih, List.map_cons, List.map_cons, List.map_cons,
        Text.joinWith_cons (List.cons_ne_nil _ _)]
      simp

/-- Printing the parts one after the other, a comma before each but the first, joins them with
commas. -/
theorem separated_eq_joinWith (parts : List α) :
    separated part true parts = Text.joinWith ',' (parts.map part) := by
  cases parts with
  | nil => rfl
  | cons a rest => exact separated_cons a rest

/-- The items of an array are printed by the one scheme of separated parts. -/
theorem compactItems_eq : compactItems first items = separated compact first items := by
  induction items generalizing first with
  | nil => rfl
  | cons item items ih => rw [compactItems, separated, ih]

theorem compactFields_eq :
    compactFields first fields =
      separated (fun field => [] ++ quote field.1 ++ ':' :: compact field.2) first fields := by
  induction fields generalizing first with
  | nil => rfl
  | cons field fields ih =>
      rw [compactFields, separated, ih]
      simp

theorem prettyItems_eq {level : Nat} :
    prettyItems level first items =
      separated (fun item => newLine level ++ pretty level item) first items := by
  induction items generalizing first with
  | nil => rfl
  | cons item items ih =>
      rw [prettyItems, separated, ih]
      simp

theorem prettyFields_eq {level : Nat} :
    prettyFields level first fields =
      separated
        (fun field => newLine level ++ quote field.1 ++ ':' :: ([' '] ++ pretty level field.2))
        first fields := by
  induction fields generalizing first with
  | nil => rfl
  | cons field fields ih =>
      rw [prettyFields, separated, ih]
      simp

/-- Line breaks and indents of the layout are space that a reader passes over. -/
theorem space_newLine (level : Nat) : Space (newLine level) := by
  simp [Space, newLine, isSpace]

/-- Items that are read from their texts make up an array that is. -/
theorem reads_array_separated {part : Json → Text}
    (h : ∀ item ∈ items, Reads depth item (part item)) (hNe : items ≠ []) (hLast : Space last) :
    Reads (depth + 1) (.array items) ('[' :: (separated part true items ++ (last ++ [']']))) := by
  rw [separated_eq_joinWith]
  refine reads_array (List.forall₂_map_right_iff.mpr (List.forall₂_same.mpr h)) ?_ hLast
  simpa using hNe

/-- Fields whose values are read from their texts make up an object that is. -/
theorem reads_object_separated {lead : Text} (text : Json → Text) (hLead : Space lead)
    (h : ∀ field ∈ fields, Reads depth field.2 (text field.2)) (hNe : fields ≠ [])
    (hLast : Space last) :
    Reads (depth + 1) (.object fields)
      ('\x7b' ::
        (separated (fun field => lead ++ quote field.1 ++ ':' :: text field.2) true fields ++
          (last ++ ['\x7d']))) := by
  rw [separated_eq_joinWith]
  have hParts : ∀ field ∈ fields,
      ReadsField depth field (lead ++ quote field.1 ++ ':' :: text field.2) :=
    fun field hField => .mk hLead (h field hField)
  refine reads_object (List.forall₂_map_right_iff.mpr (List.forall₂_same.mpr hParts)) ?_ hLast
  simpa using hNe

/-- What is printed without any space is read back. -/
theorem Exact.reads_compact (h : Exact depth value) : Reads depth value value.compact := by
  induction h with
  | null => exact reads_null
  | bool b => exact reads_bool b
  | int hWhole => exact reads_int hWhole
  | string t => exact reads_quote t
  | @array depth items _ ih =>
      by_cases hNe : items = []
      · subst hNe
        exact reads_array_nil
      · have hArray := reads_array_separated ih hNe space_nil
        rwa [List.nil_append, ← compactItems_eq] at hArray
  | @object depth fields _ ih =>
      by_cases hNe : fields = []
      · subst hNe
        exact reads_object_nil
      · have hObject := reads_object_separated compact space_nil ih hNe space_nil
        rwa [List.nil_append, ← compactFields_eq] at hObject

/-- What is printed on many lines is read back. -/
theorem Exact.reads_pretty (h : Exact depth value) (level : Nat) :
    Reads depth value (value.pretty level) := by
  induction h generalizing level with
  | null => exact reads_null
  | bool b => exact reads_bool b
  | int hWhole => exact reads_int hWhole
  | string t => exact reads_quote t
  | @array depth items _ ih =>
      cases items with
      | nil => exact reads_array_nil
      | cons item items =>
          have hArray := reads_array_separated
            (fun item hItem => (ih item hItem (level + 1)).append (space_newLine (level + 1)))
            (List.cons_ne_nil item items) (space_newLine level)
          rw [← prettyItems_eq] at hArray
          simpa [pretty] using hArray
  | @object depth fields _ ih =>
      cases fields with
      | nil => exact reads_object_nil
      | cons field fields =>
          have hGap : Space [' '] := by simp [Space, isSpace]
          have hObject := reads_object_separated ([' '] ++ pretty (level + 1) ·)
            (space_newLine (level + 1))
            (fun field hField => (ih field hField (level + 1)).append hGap)
            (List.cons_ne_nil field fields) (space_newLine level)
          rw [← prettyFields_eq] at hObject
          simpa [pretty] using hObject

/-- A value that printing keeps is read back from both layouts. -/
theorem Exact.read?_print (h : Exact depthLimit value) (indent : Bool) :
    read? (print indent value) = some value := by
  have hReads : Reads depthLimit value (print indent value) := by
    cases indent
    · exact h.reads_compact
    · exact h.reads_pretty 0
  have hRead := hReads.read? space_nil space_nil
  rwa [List.nil_append, List.append_nil] at hRead

/-- Printing tells values apart that it keeps. -/
theorem Exact.print_inj {other : Json} {indent indent' : Bool} (h : Exact depthLimit value)
    (hOther : Exact depthLimit other) (hSame : print indent value = print indent' other) :
    value = other := by
  have hRead := h.read?_print indent
  rw [hSame, hOther.read?_print indent'] at hRead
  exact (Option.some.inj hRead).symm

end Rubric.Json
