import Mathlib.Data.List.Induction
import Rubric.Proofs.Text.Fields
import Rubric.Settings.Environment

/-! The table of environment variables. A variable is known by the path of the setting it gives, and
what the table has under a name is told by the variables alone: the last one with just that name
decides, and without one those with longer paths make a table among themselves. -/
namespace Rubric.Settings

/-- The last value that is given at a path. -/
def lastAt {α : Type} (path : List Text) (assignments : List (List Text × α)) : Option α :=
  (assignments.reverse.find? (·.1 = path)).map (·.2)

/-- What is assigned inside the table under a name, by the rest of the path. -/
def below {α : Type} (name : Text) (assignments : List (List Text × α)) :
    List (List Text × α) :=
  assignments.filterMap fun (path, v) =>
    match path with
    | head :: next :: rest => if head = name then some (next :: rest, v) else none
    | _ => none

def ofAssignments (assignments : List (List Text × Toml.Value)) : Toml.Table :=
  assignments.foldl (fun fields (path, v) => putAt fields v path) []

/-- The variables that give settings, with the paths that their names spell. -/
def assignments (environment : List (Text × Text)) : List (List Text × Text) :=
  environment.filterMap fun (name, raw) => (keyPath? name).map (·, raw)

def valued (environment : List (Text × Text)) : List (List Text × Toml.Value) :=
  (assignments environment).map fun (path, raw) => (path, variableValue path raw)

/-- No table is assigned. -/
def Plain (assignments : List (List Text × Toml.Value)) : Prop :=
  ∀ assignment ∈ assignments, ∀ fields, assignment.2 ≠ .table fields

section Assignments

variable {α : Type} {name : Text} {path other rest : List Text} {v : α}
  {given : List (List Text × α)}

theorem lastAt_concat : lastAt path (given ++ [(other, v)]) =
    if other = path then some v else lastAt path given := by
  by_cases h : other = path <;> simp [lastAt, h]

theorem mem_of_lastAt (h : lastAt path given = some v) : (path, v) ∈ given := by
  obtain ⟨⟨other, v⟩, hFound, rfl⟩ := Option.map_eq_some_iff.mp h
  obtain rfl : other = path := by simpa using List.find?_some hFound
  exact List.mem_reverse.mp (List.mem_of_find?_eq_some hFound)

theorem below_concat_cons {next : Text} :
    below name (given ++ [(name :: next :: rest, v)]) =
      below name given ++ [(next :: rest, v)] := by
  simp [below]

theorem below_concat_of_ne (h : ∀ next rest, other ≠ name :: next :: rest) :
    below name (given ++ [(other, v)]) = below name given := by
  rw [below, List.filterMap_append, ← below]
  match other with
  | [] => simp
  | [_] => simp
  | head :: next :: rest =>
      have hHead : head ≠ name := by
        rintro rfl
        exact h next rest rfl
      simp [hHead]

/-- What is given last inside the table under a name is what is given last at the whole path. -/
theorem lastAt_below (h : path ≠ []) :
    lastAt path (below name given) = lastAt (name :: path) given := by
  induction given using List.reverseRecOn with
  | nil => rfl
  | append_singleton given last ih =>
      obtain ⟨other, v⟩ := last
      rw [lastAt_concat]
      by_cases hInside : ∃ next rest, other = name :: next :: rest
      · obtain ⟨next, rest, rfl⟩ := hInside
        rw [below_concat_cons, lastAt_concat, ih]
        simp
      · rw [below_concat_of_ne (by simpa using hInside), ih, if_neg]
        rintro rfl
        obtain ⟨next, rest, rfl⟩ := List.exists_cons_of_ne_nil h
        exact hInside ⟨next, rest, rfl⟩

/-- Reading the values first or last makes no difference. -/
theorem lastAt_map {β : Type} {f : List Text → α → β} :
    lastAt path (given.map fun (path, v) => (path, f path v)) =
      (lastAt path given).map (f path) := by
  induction given using List.reverseRecOn with
  | nil => rfl
  | append_singleton given last ih =>
      obtain ⟨other, v⟩ := last
      rw [List.map_append, List.map_singleton, lastAt_concat, lastAt_concat, ih]
      split
      next h =>
        obtain rfl : other = path := h
        rfl
      next => rfl

end Assignments

section Table

variable {name : Text} {path : List Text} {v : Toml.Value} {fields : Toml.Table}
  {given : List (List Text × Toml.Value)}

/-- An assignment at the end is carried out last. -/
theorem ofAssignments_concat :
    ofAssignments (given ++ [(path, v)]) = putAt (ofAssignments given) v path := by
  simp [ofAssignments]

theorem ascending_putAt (h : fields.Ascending) : (putAt fields v path).Ascending := by
  rw [putAt.eq_def]
  split
  next => exact h
  next => exact h.put _ _
  next =>
    split
    next => exact h.put _ _
    next => exact h.put _ _
    next => exact h

theorem ascending_ofAssignments : (ofAssignments given).Ascending := by
  induction given using List.reverseRecOn with
  | nil => exact List.Pairwise.nil
  | append_singleton given last ih =>
      rw [ofAssignments_concat]
      exact ascending_putAt ih

theorem find?_putAt_of_ne (h : path.head? ≠ some name) :
    Fields.find? name (putAt fields v path) = Fields.find? name fields := by
  rw [putAt.eq_def]
  split
  next => rfl
  next other =>
    have hName : name ≠ other := fun hSame => h (by simp [hSame])
    rw [Fields.find?_put, if_neg hName]
  next other rest _ =>
    have hName : name ≠ other := fun hSame => h (by simp [hSame])
    split <;> simp [Fields.find?_put, hName]

/-- Where no value is a table, a name leads to the last value given for it. Without one it leads to
the table of what is given inside it, if anything is. -/
theorem find?_ofAssignments (name : Text) (hPlain : Plain given) :
    Fields.find? name (ofAssignments given) = (lastAt [name] given).or
      (if below name given = [] then none
        else some (.table (ofAssignments (below name given)))) := by
  induction given using List.reverseRecOn generalizing name with
  | nil => rfl
  | append_singleton given last ih =>
      obtain ⟨path, v⟩ := last
      have ih := fun name => ih name fun assignment h =>
        hPlain assignment (List.mem_append_left _ h)
      rw [ofAssignments_concat, lastAt_concat]
      match path with
      | [] => rw [below_concat_of_ne (by simp), if_neg (by simp), putAt, ih]
      | [only] =>
          rw [below_concat_of_ne (by simp), putAt, Fields.find?_put, ih]
          by_cases hName : name = only
          · simp [hName]
          · simp [hName, Ne.symm hName]
      | head :: next :: rest =>
          rw [if_neg (by simp)]
          by_cases hName : head = name
          · subst hName
            rw [below_concat_cons, ofAssignments_concat, putAt.eq_3 _ _ _ _ (by simp), ih]
            cases hLast : lastAt [head] given with
            | some value =>
                have hMem := List.mem_append_left [(head :: next :: rest, v)] (mem_of_lastAt hLast)
                cases value with
                | table inner => exact absurd rfl (hPlain _ hMem inner)
                | _ => simp [ih, hLast]
            | none =>
                by_cases hNone : below head given = []
                · simp [hNone, Fields.find?_put, ofAssignments]
                · simp [hNone, Fields.find?_put]
          · rw [below_concat_of_ne (by simp [hName]), find?_putAt_of_ne (by simpa using hName), ih]

end Table

section Scalar

variable {raw : Text} {v : Toml.Value} {fields : Toml.Table}

/-- A text that is a truth value or an integer where a variable says it. -/
def Retyped (raw : Text) : Prop :=
  lowerAscii raw = "true".toList ∨ lowerAscii raw = "false".toList ∨ (Text.readInt? raw).isSome

instance (raw : Text) : Decidable (Retyped raw) :=
  inferInstanceAs (Decidable (_ ∨ _ ∨ _))

/-- What a text is taken for where a variable says it. -/
inductive Taken (raw : Text) : Toml.Value → Prop where
  | flag {b : Bool} (hRetyped : Retyped raw) (hFlag : b = decide (lowerAscii raw = "true".toList)) :
      Taken raw (.boolean b)
  | integer {n : Int} (hRetyped : Retyped raw) : Taken raw (.integer n)
  | text (hText : ¬Retyped raw) : Taken raw (.string raw)

theorem taken_scalar (raw : Text) : Taken raw (scalar raw) := by
  rw [scalar]
  by_cases hTrue : lowerAscii raw = "true".toList
  · rw [if_pos hTrue]
    exact .flag (.inl hTrue) (decide_eq_true hTrue).symm
  · rw [if_neg hTrue]
    by_cases hFalse : lowerAscii raw = "false".toList
    · rw [if_pos hFalse]
      exact .flag (.inr (.inl hFalse)) (decide_eq_false hTrue).symm
    · rw [if_neg hFalse]
      cases hInt : Text.readInt? raw with
      | some n => exact .integer (.inr (.inr (Option.isSome_of_eq_some hInt)))
      | none =>
          refine .text fun hRetyped => ?_
          rcases hRetyped with h | h | h
          · exact hTrue h
          · exact hFalse h
          · simp [hInt] at h

theorem Taken.ne_table (h : Taken raw v) : v ≠ .table fields := by
  cases h <;> simp

end Scalar

section Environment

variable {name : Text} {path : List Text} {environment : List (Text × Text)}

/-- The table of the environment is that of its assignments, each with its value read. -/
theorem ofEnvironment_eq_ofAssignments :
    ofEnvironment environment = ofAssignments (valued environment) := by
  rw [ofEnvironment, ofAssignments, valued, assignments, List.foldl_map, List.foldl_filterMap]
  congr 1
  funext fields assigned
  obtain ⟨name, raw⟩ := assigned
  cases hPath : keyPath? name <;> simp [hPath]

theorem ascending_ofEnvironment : (ofEnvironment environment).Ascending :=
  ofEnvironment_eq_ofAssignments ▸ ascending_ofAssignments

/-- The last value at a path is read from the last text at it. -/
theorem lastAt_valued : lastAt path (valued environment) =
    (lastAt path (assignments environment)).map (variableValue path) :=
  lastAt_map

theorem variableValue_ne_table {raw : Text} {fields : Toml.Table} :
    variableValue path raw ≠ .table fields := by
  rw [variableValue]
  split
  next => simp
  next => exact (taken_scalar raw).ne_table

/-- All values of variables are plain, so tables come of paths only. -/
theorem plain_valued : Plain (valued environment) := by
  intro assignment hMem fields
  obtain ⟨⟨path, raw⟩, -, rfl⟩ := List.mem_map.mp hMem
  exact variableValue_ne_table

theorem plain_below {given : List (List Text × Toml.Value)} (h : Plain given) :
    Plain (below name given) := by
  intro assignment hMem
  obtain ⟨⟨path, v⟩, hGiven, hSome⟩ := List.mem_filterMap.mp hMem
  have hPlain := h _ hGiven
  grind

theorem below_valued_eq_nil_iff :
    below name (valued environment) = [] ↔
      below name (assignments environment) = [] := by
  simp only [below, valued, List.filterMap_eq_nil_iff, List.forall_mem_map]
  refine forall₂_congr fun assignment _ => ?_
  obtain ⟨path, raw⟩ := assignment
  grind

end Environment

end Rubric.Settings
