import Rubric.Proofs.Toml.Overlay

/-! What tables have at the ends of paths. A table whose names ascend at every depth is known by
that. Laying one table over another can then be told path by path: what the upper table has there is
laid over what the lower one has, and where the upper one has nothing the lower one shows, unless a
value that is no table stands on the way. -/
namespace Rubric.Toml

namespace Value

/-- The value at the end of a path that starts at a value. Only tables have anything inside. -/
def at? : List Text → Value → Option Value
  | [], v => some v
  | name :: path, table fields => (Fields.find? name fields).bind (at? path)
  | _ :: _, _ => none

def IsTable (v : Value) : Prop :=
  ∃ fields, v = table fields

def bare : Value → Value
  | table _ => table []
  | v => v

/-- The names of a table ascend, and so do those of all tables that paths lead to. -/
inductive Ordered : Value → Prop where
  | plain {v : Value} (h : ¬v.IsTable) : Ordered v
  | table {fields : List (Text × Value)} (names : Fields.Ascending fields)
      (inner : ∀ field ∈ fields, Ordered field.2) : Ordered (.table fields)

variable {name : Text} {path above : List Text} {v w x : Value} {old : Option Value}
  {fields lower upper : Table}

theorem bare_of_not_isTable (h : ¬v.IsTable) : v.bare = v := by
  cases v with
  | table fields => exact absurd ⟨fields, rfl⟩ h
  | _ => rfl

/-- What is left of a value without its entries tells whether it is a table. -/
theorem bare_eq_table_iff : v.bare = table [] ↔ v.IsTable := by
  cases v <;> simp [bare, IsTable]

theorem at?_cons_of_not_isTable (h : ¬v.IsTable) : at? (name :: path) v = none := by
  cases v with
  | table fields => exact absurd ⟨fields, rfl⟩ h
  | _ => rfl

/-- Something stands at a path if the value is a table with something under the first name at the
rest of it. -/
theorem isSome_at?_cons_iff : (at? (name :: path) v).isSome ↔
    ∃ fields w, v = table fields ∧ Fields.find? name fields = some w ∧ (at? path w).isSome := by
  constructor
  · intro hSome
    by_cases hTable : v.IsTable
    · obtain ⟨fields, rfl⟩ := hTable
      obtain ⟨x, hFound⟩ := Option.isSome_iff_exists.mp hSome
      obtain ⟨w, hName, hFound⟩ := Option.bind_eq_some_iff.mp hFound
      exact ⟨fields, w, rfl, hName, Option.isSome_iff_exists.mpr ⟨x, hFound⟩⟩
    · rw [at?_cons_of_not_isTable hTable] at hSome
      cases hSome
  · rintro ⟨fields, w, rfl, hName, hSome⟩
    rwa [at?, hName]

theorem at?_append (above path : List Text) (v : Value) :
    at? (above ++ path) v = (at? above v).bind (at? path) := by
  induction above generalizing v with
  | nil => rfl
  | cons name above ih =>
      by_cases hTable : v.IsTable
      · obtain ⟨fields, rfl⟩ := hTable
        rw [List.cons_append, at?, at?, Option.bind_assoc]
        exact congrArg (Fields.find? name fields).bind (funext ih)
      · rw [List.cons_append, at?_cons_of_not_isTable hTable, at?_cons_of_not_isTable hTable]
        rfl

theorem bind_at?_cons (old : Option Value) (name : Text) (path : List Text) :
    old.bind (at? (name :: path)) = (old.bind (at? [name])).bind (at? path) := by
  rw [Option.bind_assoc]
  exact congrArg old.bind (funext (at?_append [name] path))

/-- Behind a value that is no table nothing is found. -/
theorem at?_eq_none_of_blocked (hAbove : above <+: path) (hNe : above ≠ path)
    (hFound : at? above v = some w) (hTable : ¬w.IsTable) : at? path v = none := by
  obtain ⟨rest, rfl⟩ := hAbove
  have hRest : rest ≠ [] := fun hNil => hNe (by simp [hNil])
  obtain ⟨name, rest, rfl⟩ := List.exists_cons_of_ne_nil hRest
  rw [at?_append, hFound, Option.bind_some, at?_cons_of_not_isTable hTable]

theorem Ordered.ascending (h : (Value.table fields).Ordered) : Fields.Ascending fields := by
  cases h with
  | plain hTable => exact absurd ⟨fields, rfl⟩ hTable
  | table hNames => exact hNames

/-- The tables in an ordered table are ordered. -/
theorem Ordered.of_find? (h : (Value.table fields).Ordered)
    (hFound : Fields.find? name fields = some v) : v.Ordered := by
  cases h with
  | plain hTable => exact absurd ⟨fields, rfl⟩ hTable
  | table _ hInner => exact hInner _ (Fields.mem_of_find? hFound)

theorem Ordered.put (h : (Value.table fields).Ordered) (hValue : v.Ordered) :
    (Value.table (Fields.put name v fields)).Ordered := by
  refine .table (h.ascending.put _ _) fun field hField => ?_
  rcases Fields.eq_or_mem_of_mem_put hField with rfl | hField
  · exact hValue
  · exact h.of_find? ((Fields.find?_eq_some_iff h.ascending.distinct).mpr hField)

/-- Values with ordered tables are the same if every path leads to the same in both, or to a table
in both. -/
theorem Ordered.ext (hv : v.Ordered) (hw : w.Ordered)
    (h : ∀ path, (at? path v).map bare = (at? path w).map bare) : v = w := by
  have hBare : v.bare = w.bare := Option.some.inj (h [])
  induction hv generalizing w with
  | plain hPlain =>
      rw [bare_of_not_isTable hPlain] at hBare
      by_cases hTable : w.IsTable
      · rw [bare_eq_table_iff.mpr hTable] at hBare
        exact absurd ⟨[], hBare⟩ hPlain
      · rwa [bare_of_not_isTable hTable] at hBare
  | @table fields hNames hInner ih =>
      obtain ⟨others, rfl⟩ := bare_eq_table_iff.mp hBare.symm
      -- What is under a name is met by all paths that begin with the name.
      have hUnder : ∀ name path, ((Fields.find? name fields).bind (at? path)).map bare =
          ((Fields.find? name others).bind (at? path)).map bare := fun name path => h (name :: path)
      congr 1
      refine hNames.ext hw.ascending fun name => ?_
      have hUnder := hUnder name
      have hRoot := hUnder []
      cases hFound : Fields.find? name fields with
      | none =>
          cases hOther : Fields.find? name others with
          | none => rfl
          | some other => simp [hFound, hOther, at?] at hRoot
      | some value =>
          cases hOther : Fields.find? name others with
          | none => simp [hFound, hOther, at?] at hRoot
          | some other =>
              simp only [hFound, hOther, Option.bind_some] at hUnder
              exact congrArg some (ih _ (Fields.mem_of_find? hFound) (hw.of_find? hOther) hUnder
                (Option.some.inj (hUnder [])))

section Overlaid

/-- Laying a table over anything leaves a table in which each of its values is laid over what was
found under the name before. -/
theorem exists_overlaid_table (hUpper : Fields.Distinct upper) (old : Option Value) :
    ∃ fields, overlaid old (table upper) = table fields ∧ ∀ name, Fields.find? name fields =
      (Fields.find? name upper).elim (old.bind (at? [name])) fun v =>
        some (overlaid (old.bind (at? [name])) v) := by
  by_cases hOld : ∃ lower, old = some (table lower)
  · obtain ⟨lower, rfl⟩ := hOld
    have hUnder : ∀ name, (some (table lower)).bind (at? [name]) = Fields.find? name lower :=
      fun name => by simp [at?]
    refine ⟨_, by rw [overlaid], fun name => ?_⟩
    rw [hUnder, overlaidFields_eq_laid]
    cases hFound : Fields.find? name upper with
    | none => exact Fields.find?_laid_of_none hFound
    | some v => exact Fields.find?_laid_of_some hUpper hFound
  · have hPlain : ∀ lower, old ≠ some (table lower) := by simpa using hOld
    have hUnder : ∀ name, old.bind (at? [name]) = none := by
      intro name
      cases old with
      | none => rfl
      | some v =>
          refine at?_cons_of_not_isTable fun hTable => ?_
          obtain ⟨lower, rfl⟩ := hTable
          exact hPlain lower rfl
    refine ⟨upper, overlaid_of_lower_ne_table hPlain, fun name => ?_⟩
    rw [hUnder]
    cases Fields.find? name upper with
    | none => rfl
    | some v => exact congrArg some (overlaid_of_lower_ne_table (by simp)).symm

/-- The upper value decides what kind of value stands there. -/
theorem bare_overlaid : (overlaid old v).bare = v.bare := by
  by_cases hTable : ∃ lower upper, old = some (table lower) ∧ v = table upper
  · obtain ⟨lower, upper, rfl, rfl⟩ := hTable
    rw [overlaid]
    rfl
  · rw [overlaid]
    exact fun lower upper hOld hv => hTable ⟨lower, upper, hOld, hv⟩

theorem overlaid_of_not_isTable (h : ¬v.IsTable) : overlaid old v = v :=
  overlaid_of_upper_ne_table fun fields hv => h ⟨fields, hv⟩

/-- At every path that leads to something in the upper value, this is laid over what the path leads
to in the lower one. -/
theorem at?_overlaid_of_some (hv : v.Ordered) (hFound : at? path v = some x) :
    at? path (overlaid old v) = some (overlaid (old.bind (at? path)) x) := by
  induction path generalizing old v with
  | nil =>
      obtain rfl : v = x := Option.some.inj hFound
      have hSelf : old.bind (at? []) = old := Option.bind_fun_some old
      rw [hSelf]
      rfl
  | cons name path ih =>
      by_cases hTable : v.IsTable
      · obtain ⟨upper, rfl⟩ := hTable
        obtain ⟨fields, hFields, hFind⟩ := exists_overlaid_table hv.ascending.distinct old
        obtain ⟨u, hUpper, hFound⟩ := Option.bind_eq_some_iff.mp hFound
        rw [hFields, at?, hFind, hUpper, bind_at?_cons old name path]
        exact ih (hv.of_find? hUpper) hFound
      · rw [at?_cons_of_not_isTable hTable] at hFound
        cases hFound

/-- At a path that leads to nothing in the upper value, but through tables as far as there are any,
the lower one shows. -/
theorem at?_overlaid_of_none (hv : v.Ordered) (hNone : at? path v = none)
    (hOpen : ∀ above w, above <+: path → at? above v = some w → w.IsTable) :
    at? path (overlaid old v) = old.bind (at? path) := by
  induction path generalizing old v with
  | nil => cases hNone
  | cons name path ih =>
      obtain ⟨upper, rfl⟩ := hOpen [] v List.nil_prefix rfl
      obtain ⟨fields, hFields, hFind⟩ := exists_overlaid_table hv.ascending.distinct old
      rw [hFields, at?, hFind, bind_at?_cons old name path]
      cases hUpper : Fields.find? name upper with
      | none => rfl
      | some u =>
          rw [at?, hUpper, Option.bind_some] at hNone
          refine ih (hv.of_find? hUpper) hNone fun above w hAbove hFound => ?_
          refine hOpen (name :: above) w (List.cons_prefix_cons.mpr ⟨rfl, hAbove⟩) ?_
          rw [at?, hUpper, Option.bind_some, hFound]

/-- Joining ordered values into an ordered table, field by field, leaves one. -/
theorem Ordered.laid {join : Option Value → Value → Value} (hLower : (Value.table lower).Ordered)
    (hJoin : ∀ field ∈ upper, ∀ old : Option Value, (∀ x ∈ old, x.Ordered) →
      (join old field.2).Ordered) : (Value.table (Fields.laid join lower upper)).Ordered := by
  induction upper generalizing lower with
  | nil => exact hLower
  | cons field upper ih =>
      obtain ⟨hFirst, hRest⟩ := List.forall_mem_cons.mp hJoin
      exact ih (hLower.put (hFirst _ fun x hx => hLower.of_find? hx)) hRest

/-- An overlay of ordered values is ordered, whatever order the upper one's fields have. -/
theorem Ordered.overlaid (hv : v.Ordered) (hOld : ∀ x ∈ old, x.Ordered) :
    (overlaid old v).Ordered := by
  induction hv generalizing old with
  | plain hPlain =>
      rw [overlaid_of_not_isTable hPlain]
      exact .plain hPlain
  | @table upper hNames hInner ih =>
      by_cases hTable : ∃ lower, old = some (Value.table lower)
      · obtain ⟨lower, rfl⟩ := hTable
        rw [Value.overlaid, overlaidFields_eq_laid]
        exact (hOld _ rfl).laid fun field hField old hOld => ih field hField hOld
      · rw [overlaid_of_lower_ne_table (by simpa using hTable)]
        exact .table hNames hInner

end Overlaid

mutual

/-- Sorting orders a value and every table within it. -/
theorem ordered_sorted : (v : Value) → v.sorted.Ordered
  | string _ | integer _ | float _ | boolean _ | moment _ | array _ => .plain (by
      simp [sorted, IsTable])
  | table fields => ordered_sortedFields (.table List.Pairwise.nil (by simp)) fields

theorem ordered_sortedFields {done : Table} (h : (Value.table done).Ordered) :
    (fields : List (Text × Value)) → (Value.table (sortedFields done fields)).Ordered
  | [] => h
  | (_, v) :: rest => ordered_sortedFields (h.put (ordered_sorted v)) rest

end

end Value

namespace Table

/-- The names of a table ascend, and so do those of all tables in it that paths lead to. -/
def Ordered (t : Table) : Prop :=
  (Value.table t).Ordered

/-- A value that is no table stands before the end of the path. -/
def Blocked (t : Table) (path : List Text) : Prop :=
  ∃ above v, above <+: path ∧ above ≠ path ∧ t.at? above = some v ∧ ¬v.IsTable

variable {t lower upper : Table} {path : List Text} {v : Value}

/-- A table is a value with the same things at all paths. -/
theorem at?_eq (t : Table) (path : List Text) : t.at? path = Value.at? path (.table t) := by
  induction path generalizing t with
  | nil => rfl
  | cons name path ih =>
      cases path with
      | nil => simp [at?, Value.at?]
      | cons next path =>
          rw [at?, Value.at?]
          · cases hFound : Fields.find? name t with
            | none => rfl
            | some v =>
                by_cases hTable : v.IsTable
                · obtain ⟨fields, rfl⟩ := hTable
                  exact ih fields
                · rw [Option.bind_some, Value.at?_cons_of_not_isTable hTable]
                  split
                  next fields hTable' => exact absurd ⟨fields, Option.some.inj hTable'⟩ hTable
                  next => rfl
          · simp

/-- Every table that is read is sorted, which makes it ordered. -/
theorem ordered_sorted (t : Table) : (Table.sorted t).Ordered :=
  Value.ordered_sortedFields (.table List.Pairwise.nil (by simp)) t

theorem ordered_nil : Ordered [] :=
  .table List.Pairwise.nil (by simp)

/-- The overlay of two tables is the overlay of the values that they are. -/
theorem overlay_eq (lower upper : Table) :
    Value.table (lower.overlay upper) = Value.overlaid (some (.table lower)) (.table upper) := by
  rw [Value.overlaid, overlay]

theorem Ordered.overlay (hLower : lower.Ordered) (hUpper : upper.Ordered) :
    (lower.overlay upper).Ordered := by
  rw [Ordered, overlay_eq]
  exact hUpper.overlaid fun x hx => Option.some.inj hx ▸ hLower

/-- Where the upper table has a value, it is laid over the one of the lower table. -/
theorem at?_overlay_of_some (hUpper : upper.Ordered) (h : upper.at? path = some v) :
    (lower.overlay upper).at? path = some (Value.overlaid (lower.at? path) v) := by
  rw [at?_eq] at h ⊢
  rw [overlay_eq, Value.at?_overlaid_of_some hUpper h, at?_eq, Option.bind_some]

/-- Nothing stands below a value that is no table. -/
theorem at?_eq_none_of_blocked (h : t.Blocked path) : t.at? path = none := by
  obtain ⟨above, v, hAbove, hNe, hFound, hTable⟩ := h
  rw [at?_eq] at hFound ⊢
  exact Value.at?_eq_none_of_blocked hAbove hNe hFound hTable

/-- What the upper table blocks stays blocked. -/
theorem Blocked.overlay (hUpper : upper.Ordered) (h : upper.Blocked path) :
    (lower.overlay upper).Blocked path := by
  obtain ⟨above, v, hAbove, hNe, hFound, hTable⟩ := h
  refine ⟨above, v, hAbove, hNe, ?_, hTable⟩
  rw [at?_overlay_of_some hUpper hFound, Value.overlaid_of_not_isTable hTable]

/-- Where the upper table has nothing and blocks nothing, the lower one shows through. -/
theorem at?_overlay_of_none (hUpper : upper.Ordered) (h : upper.at? path = none)
    (hOpen : ¬upper.Blocked path) : (lower.overlay upper).at? path = lower.at? path := by
  rw [at?_eq] at h
  rw [at?_eq, overlay_eq, Value.at?_overlaid_of_none hUpper h, Option.bind_some, at?_eq]
  intro above v hAbove hFound
  by_contra hTable
  refine hOpen ⟨above, v, hAbove, ?_, (at?_eq upper above).trans hFound, hTable⟩
  rintro rfl
  rw [h] at hFound
  cases hFound

/-- Ordered tables are the same if every path leads to the same in both, or to a table in both. -/
theorem Ordered.ext (hLower : lower.Ordered) (hUpper : upper.Ordered)
    (h : ∀ path, (lower.at? path).map Value.bare = (upper.at? path).map Value.bare) :
    lower = upper := by
  refine Value.table.inj (Value.Ordered.ext hLower hUpper fun path => ?_)
  rw [← at?_eq, ← at?_eq]
  exact h path

/-- Laid over a table that shows nowhere, a table stays as it is. -/
theorem overlay_eq_upper (hLower : lower.Ordered) (hUpper : upper.Ordered)
    (h : ∀ path, upper.at? path = none → lower.at? path = none) :
    lower.overlay upper = upper := by
  refine (hLower.overlay hUpper).ext hUpper fun path => ?_
  cases hFound : upper.at? path with
  | some v =>
      rw [at?_overlay_of_some hUpper hFound, Option.map_some, Option.map_some,
        Value.bare_overlaid]
  | none =>
      by_cases hBlocked : upper.Blocked path
      · rw [at?_eq_none_of_blocked (hBlocked.overlay hUpper)]
      · rw [at?_overlay_of_none hUpper hFound hBlocked, h path hFound]

theorem at?_nil (hPath : path ≠ []) : at? [] path = none := by
  obtain ⟨name, path, rfl⟩ := List.exists_cons_of_ne_nil hPath
  rw [at?_eq]
  rfl

theorem nil_overlay (h : t.Ordered) : overlay [] t = t := by
  refine overlay_eq_upper ordered_nil h fun path hNone => at?_nil ?_
  rintro rfl
  cases hNone

/-- What a table over another one leaves at each path. A value of the upper table that is no table
stays and hides all that the lower one has behind it, a table stays a table, and where the upper one
says nothing the lower one shows. So laying a table over itself or over the empty one, or the empty
one over it, changes nothing. -/
theorem overlay_pointwise (hLower : lower.Ordered) (hUpper : upper.Ordered) :
    (∀ path,
      (∀ v, ¬v.IsTable → upper.at? path = some v → (lower.overlay upper).at? path = some v) ∧
      (upper.Blocked path → (lower.overlay upper).at? path = none) ∧
      (∀ v, v.IsTable → upper.at? path = some v →
        ∃ merged, merged.IsTable ∧ (lower.overlay upper).at? path = some merged) ∧
      (upper.at? path = none → ¬upper.Blocked path →
        (lower.overlay upper).at? path = lower.at? path)) ∧
      lower.overlay lower = lower ∧ overlay [] lower = lower ∧ lower.overlay [] = lower := by
  refine ⟨fun path => ⟨?value, ?blocked, ?table, ?nothing⟩, ?self, nil_overlay hLower, rfl⟩
  case value =>
    intro v hTable hFound
    rw [at?_overlay_of_some hUpper hFound, Value.overlaid_of_not_isTable hTable]
  case blocked =>
    intro hBlocked
    exact at?_eq_none_of_blocked (hBlocked.overlay hUpper)
  case table =>
    intro v hTable hFound
    refine ⟨_, ?_, at?_overlay_of_some hUpper hFound⟩
    rw [← Value.bare_eq_table_iff, Value.bare_overlaid, Value.bare_eq_table_iff]
    exact hTable
  case nothing => exact at?_overlay_of_none hUpper
  case self => exact overlay_eq_upper hLower hLower fun path hNone => hNone

/-- A table with a value under each of its names but one, which has a table. -/
def ground : Table :=
  [(['a'], .table [(['x'], .integer 1), (['y'], .integer 2)]), (['b'], .integer 3),
    (['c'], .table [(['z'], .integer 4)])]

/-- A table that has a table where the other has a value, and a value where it has a table. -/
def crossing : Table :=
  [(['a'], .table [(['y'], .table [])]), (['b'], .table [(['w'], .boolean true)]),
    (['c'], .integer 5)]

/-- Two tables that cross each other in all four ways. -/
theorem overlay_pointwise_crossing : ground.Ordered ∧ crossing.Ordered ∧
    (ground.overlay crossing).at? [['b'], ['w']] = some (.boolean true) ∧
    (ground.overlay crossing).at? [['c'], ['z']] = none ∧
    (∃ merged, merged.IsTable ∧ (ground.overlay crossing).at? [['a'], ['y']] = some merged) ∧
    (ground.overlay crossing).at? [['a'], ['x']] = some (.integer 1) := by
  have hGround : ground.Ordered := ordered_sorted ground
  have hCrossing : crossing.Ordered := ordered_sorted crossing
  obtain ⟨hPaths, -⟩ := overlay_pointwise hGround hCrossing
  have hBlocked : crossing.Blocked [['c'], ['z']] :=
    ⟨[['c']], .integer 5, by decide, by decide, rfl, by simp [Value.IsTable]⟩
  have hOpen : ¬crossing.Blocked [['a'], ['x']] := by
    rintro ⟨above, v, hAbove, hNe, hFound, hTable⟩
    simp only [List.prefix_cons_iff, List.prefix_nil] at hAbove
    obtain rfl | ⟨_, rfl, rfl | ⟨_, rfl, rfl⟩⟩ := hAbove
    · exact hTable ⟨_, (Option.some.inj hFound).symm⟩
    · exact hTable ⟨_, (Option.some.inj hFound).symm⟩
    · exact hNe rfl
  exact ⟨hGround, hCrossing, (hPaths _).1 _ (by simp [Value.IsTable]) rfl,
    (hPaths _).2.1 hBlocked, (hPaths _).2.2.1 _ ⟨[], rfl⟩ rfl, (hPaths _).2.2.2 rfl hOpen⟩

end Table
end Rubric.Toml
