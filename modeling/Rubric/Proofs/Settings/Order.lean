import Rubric.Proofs.Settings.Variables
import Rubric.Proofs.Toml.Path

/-! The order of environment variables. Where no two of them give the same setting, what the table
has at a path is told without their order: the variable for just that path, unless another one
stands on the way to it, and a table where only variables with longer paths go on from there. -/
namespace Rubric.Settings

/-- Nothing is given on the way to the end of a path. -/
def Clear {α : Type} (given : List (List Text × α)) (path : List Text) : Prop :=
  ∀ above, above ≠ [] → above <+: path → above ≠ path → lastAt above given = none

/-- Something is given behind the end of a path. -/
def Continued {α : Type} (given : List (List Text × α)) (path : List Text) : Prop :=
  ∃ longer, path <+: longer ∧ longer ≠ path ∧ lastAt longer given ≠ none

/-- What a path meets in the table of what is given. -/
inductive Meets (given : List (List Text × Toml.Value)) (path : List Text) :
    Option Toml.Value → Prop where
  | value {v : Toml.Value} (clear : Clear given path) (last : lastAt path given = some v) :
      Meets given path (some v)
  | table {fields : Toml.Table} (clear : Clear given path) (last : lastAt path given = none)
      (continued : Continued given path) (fields_ne_nil : fields ≠ []) :
      Meets given path (some (.table fields))
  | blocked (notClear : ¬Clear given path) : Meets given path none
  | nothing (last : lastAt path given = none) (ends : ¬Continued given path) :
      Meets given path none

section Paths

variable {α : Type} {name next : Text} {path rest : List Text} {v : α}
  {given : List (List Text × α)}

theorem lastAt_ne_none (h : (path, v) ∈ given) : lastAt path given ≠ none := by
  intro hNone
  have hAll := Option.map_eq_none_iff.mp hNone
  rw [List.find?_eq_none] at hAll
  exact hAll _ (List.mem_reverse.mpr h) (by simp)

/-- Something is assigned below a name if some longer path that starts with it has a last value. -/
theorem below_ne_nil_iff :
    below name given ≠ [] ↔ ∃ next rest, lastAt (name :: next :: rest) given ≠ none := by
  constructor
  · intro hNe
    obtain ⟨⟨path, v⟩, hMem⟩ := List.exists_mem_of_ne_nil _ hNe
    obtain ⟨⟨whole, _⟩, hWhole, hSome⟩ := List.mem_filterMap.mp hMem
    match whole with
    | [] => cases hSome
    | [_] => cases hSome
    | head :: next :: rest =>
        obtain ⟨rfl, -⟩ := Option.ite_none_right_eq_some.mp hSome
        exact ⟨next, rest, lastAt_ne_none hWhole⟩
  · rintro ⟨next, rest, hLast⟩ hNil
    rw [← lastAt_below (by simp), hNil] at hLast
    exact hLast rfl

theorem clear_singleton : Clear given [name] := by
  intro above hAbove hPrefix hNe
  rcases List.prefix_cons_iff.mp hPrefix with rfl | ⟨rest, rfl, hRest⟩
  · exact absurd rfl hAbove
  · exact absurd (by rw [List.prefix_nil.mp hRest]) hNe

theorem clear_cons_iff : Clear given (name :: next :: rest) ↔
    lastAt [name] given = none ∧ Clear (below name given) (next :: rest) := by
  constructor
  · intro hClear
    refine ⟨hClear _ (by simp) (by simp) (by simp), fun above hAbove hPrefix hNe => ?_⟩
    rw [lastAt_below hAbove]
    exact hClear _ (by simp) (List.cons_prefix_cons.mpr ⟨rfl, hPrefix⟩) (by simpa using hNe)
  · rintro ⟨hHead, hClear⟩ above hAbove hPrefix hNe
    rcases List.prefix_cons_iff.mp hPrefix with rfl | ⟨shorter, rfl, hShorter⟩
    · exact absurd rfl hAbove
    · by_cases hNil : shorter = []
      · rw [hNil, hHead]
      · rw [← lastAt_below hNil]
        exact hClear _ hNil hShorter (by simpa using hNe)

theorem continued_singleton_iff : Continued given [name] ↔ below name given ≠ [] := by
  rw [below_ne_nil_iff]
  constructor
  · rintro ⟨longer, ⟨rest, rfl⟩, hNe, hLast⟩
    cases rest with
    | nil => exact absurd rfl hNe
    | cons next rest => exact ⟨next, rest, hLast⟩
  · rintro ⟨next, rest, hLast⟩
    exact ⟨_, ⟨next :: rest, rfl⟩, by simp, hLast⟩

theorem continued_cons_iff :
    Continued given (name :: next :: rest) ↔ Continued (below name given) (next :: rest) := by
  constructor
  · rintro ⟨longer, ⟨more, rfl⟩, hNe, hLast⟩
    refine ⟨_, ⟨more, rfl⟩, by simpa using hNe, ?_⟩
    rw [lastAt_below (by simp)]
    exact hLast
  · rintro ⟨longer, ⟨more, rfl⟩, hNe, hLast⟩
    refine ⟨_, ⟨more, rfl⟩, by simpa using hNe, ?_⟩
    rw [lastAt_below (by simp)] at hLast
    exact hLast

/-- Of all that is given on the way to the end of a path, something is met first. -/
theorem exists_clear (hPath : path ≠ []) (hLast : lastAt path given ≠ none) :
    ∃ above, above ≠ [] ∧ above <+: path ∧ lastAt above given ≠ none ∧ Clear given above := by
  induction hLength : path.length using Nat.strongRecOn generalizing path with
  | ind n ih =>
      by_cases hClear : Clear given path
      · exact ⟨path, hPath, List.prefix_refl _, hLast, hClear⟩
      · simp only [Clear, not_forall] at hClear
        obtain ⟨above, hAbove, hPrefix, hNe, hGiven⟩ := hClear
        have hShorter : above.length < n := by
          refine hLength ▸ Nat.lt_of_le_of_ne hPrefix.length_le fun hSame => hNe ?_
          exact hPrefix.eq_of_length hSame
        obtain ⟨first, hFirst, hBefore, hRest⟩ := ih _ hShorter hAbove hGiven rfl
        exact ⟨first, hFirst, hBefore.trans hPrefix, hRest⟩

/-- Where no path is assigned twice, the last value at a path is the only one. -/
theorem lastAt_eq_some_iff (h : (given.map Prod.fst).Nodup) :
    lastAt path given = some v ↔ (path, v) ∈ given := by
  refine ⟨mem_of_lastAt, fun hMem => ?_⟩
  obtain ⟨w, hLast⟩ := Option.ne_none_iff_exists'.mp (lastAt_ne_none hMem)
  rw [hLast, List.inj_on_of_nodup_map h (mem_of_lastAt hLast) hMem rfl |> Prod.mk.inj |>.2]

/-- So the order of the assignments does not change it. -/
theorem lastAt_perm {others : List (List Text × α)} (h : (given.map Prod.fst).Nodup)
    (hPerm : others.Perm given) (path : List Text) : lastAt path others = lastAt path given := by
  have hOthers : (others.map Prod.fst).Nodup := (hPerm.map Prod.fst).nodup_iff.mpr h
  refine Option.ext fun v => ?_
  rw [lastAt_eq_some_iff hOthers, lastAt_eq_some_iff h, hPerm.mem_iff]

end Paths

section Table

variable {path : List Text} {given : List (List Text × Toml.Value)}

open Toml

theorem ordered_putAt {fields : Table} {v : Toml.Value} (h : fields.Ordered) (hValue : v.Ordered) :
    (putAt fields v path).Ordered := by
  fun_induction putAt fields v path with
  | case1 => exact h
  | case2 => exact Value.Ordered.put h hValue
  | case3 fields name path _ _ ih => exact Value.Ordered.put h (ih Table.ordered_nil)
  | case4 fields name path _ inner hFound ih =>
      exact Value.Ordered.put h (ih (Value.Ordered.of_find? h hFound))
  | case5 => exact h

theorem ordered_ofAssignments (hPlain : Plain given) : Table.Ordered (ofAssignments given) := by
  induction given using List.reverseRecOn with
  | nil => exact Table.ordered_nil
  | append_singleton given last ih =>
      obtain ⟨path, v⟩ := last
      obtain ⟨hGiven, hLast⟩ := List.forall_mem_append.mp hPlain
      rw [ofAssignments_concat]
      refine ordered_putAt (ih hGiven) (.plain ?_)
      rintro ⟨fields, rfl⟩
      exact hLast _ List.mem_cons_self fields rfl

/-- Where nothing is given under a name itself, a longer path goes on in what is given inside. -/
theorem at?_ofAssignments_cons {name next : Text} {rest : List Text} (hPlain : Plain given)
    (hHead : lastAt [name] given = none) :
    Table.at? (ofAssignments given) (name :: next :: rest) =
      Table.at? (ofAssignments (below name given)) (next :: rest) := by
  rw [Table.at?_eq, Table.at?_eq, Value.at?, find?_ofAssignments name hPlain, hHead]
  by_cases hNone : below name given = []
  · rw [if_pos hNone, hNone]
    rfl
  · rw [if_neg hNone]
    rfl

theorem ofAssignments_ne_nil {name : Text} {rest : List Text} (hPlain : Plain given)
    (hLast : lastAt (name :: rest) given ≠ none) : ofAssignments given ≠ [] := by
  intro hNil
  have hFound := find?_ofAssignments name hPlain
  rw [hNil, Fields.find?, eq_comm, Option.or_eq_none_iff] at hFound
  obtain ⟨hHead, hBelow⟩ := hFound
  cases rest with
  | nil => exact hLast hHead
  | cons next rest => simp [below_ne_nil_iff.mpr ⟨next, rest, hLast⟩] at hBelow

/-- At every path the table of assignments is decided by the last values above, at and below that
path. -/
theorem meets_at? (hPlain : Plain given) (hPath : path ≠ []) :
    Meets given path (Table.at? (ofAssignments given) path) := by
  induction path generalizing given with
  | nil => exact absurd rfl hPath
  | cons name path ih =>
      have hFound := find?_ofAssignments name hPlain
      -- A value at the first name ends every path there. Without one the rest of the path decides.
      cases hLast : lastAt [name] given with
      | some v =>
          rw [hLast, Option.some_or] at hFound
          cases path with
          | nil =>
              rw [Table.at?, hFound]
              exact .value clear_singleton hLast
          | cons next rest =>
              have hBlocked : ¬Clear given (name :: next :: rest) := fun hClear => by
                rw [(clear_cons_iff.mp hClear).1] at hLast
                cases hLast
              have hValue : ¬v.IsTable := by
                rintro ⟨fields, hTable⟩
                exact hPlain _ (mem_of_lastAt hLast) fields hTable
              rw [Table.at?_eq, Value.at?, hFound, Option.bind_some,
                Value.at?_cons_of_not_isTable hValue]
              exact .blocked hBlocked
      | none =>
          rw [hLast, Option.none_or] at hFound
          cases path with
          | nil =>
              rw [Table.at?, hFound]
              by_cases hNone : below name given = []
              · rw [if_pos hNone]
                exact .nothing hLast fun hMore => continued_singleton_iff.mp hMore hNone
              · rw [if_neg hNone]
                obtain ⟨next, rest, hInside⟩ := below_ne_nil_iff.mp hNone
                rw [← lastAt_below (by simp)] at hInside
                exact .table clear_singleton hLast (continued_singleton_iff.mpr hNone)
                  (ofAssignments_ne_nil (plain_below hPlain) hInside)
          | cons next rest =>
              rw [at?_ofAssignments_cons hPlain hLast]
              have hInside : Plain (below name given) := plain_below hPlain
              have hIn := ih hInside (List.cons_ne_nil next rest)
              generalize Table.at? (ofAssignments (below name given)) (next :: rest) = met at hIn
              cases hIn with
              | value hClear hGiven =>
                  rw [lastAt_below (by simp)] at hGiven
                  exact .value (clear_cons_iff.mpr ⟨hLast, hClear⟩) hGiven
              | table hClear hGiven hMore hFields =>
                  rw [lastAt_below (by simp)] at hGiven
                  exact .table (clear_cons_iff.mpr ⟨hLast, hClear⟩) hGiven
                    (continued_cons_iff.mpr hMore) hFields
              | blocked hBlocked =>
                  exact .blocked fun hClear => hBlocked (clear_cons_iff.mp hClear).2
              | nothing hGiven hEnds =>
                  rw [lastAt_below (by simp)] at hGiven
                  exact .nothing hGiven fun hMore => hEnds (continued_cons_iff.mp hMore)

/-- A clear path shows its last value. -/
theorem Meets.eq_of_last {x : Option Value} {v : Value} (h : Meets given path x)
    (hClear : Clear given path) (hLast : lastAt path given = some v) : x = some v := by
  cases h with
  | value _ hSome => rw [← hLast, hSome]
  | table _ hNone => rw [hNone] at hLast; cases hLast
  | blocked hBlocked => exact absurd hClear hBlocked
  | nothing hNone => rw [hNone] at hLast; cases hLast

/-- Two lists with the same last values agree on what kind of value stands at a path. -/
theorem Meets.bare_eq {others : List (List Text × Toml.Value)} {x y : Option Value}
    (hx : Meets others path x) (hy : Meets given path y)
    (hLast : ∀ path, lastAt path others = lastAt path given) :
    x.map Value.bare = y.map Value.bare := by
  have hClear : Clear others path ↔ Clear given path := by simp only [Clear, hLast]
  have hMore : Continued others path ↔ Continued given path := by simp only [Continued, hLast]
  have hHere := hLast path
  cases hx <;> cases hy <;> simp_all [Value.bare]

/-- Assignments in another order make the same table if no path is assigned twice. -/
theorem ofAssignments_perm {others : List (List Text × Toml.Value)} (hPlain : Plain given)
    (h : (given.map Prod.fst).Nodup) (hPerm : others.Perm given) :
    ofAssignments others = ofAssignments given := by
  have hOthers : Plain others := fun assignment hMem => hPlain assignment (hPerm.subset hMem)
  refine (ordered_ofAssignments hOthers).ext (ordered_ofAssignments hPlain) fun path => ?_
  by_cases hPath : path = []
  · rw [hPath]
    rfl
  · exact (meets_at? hOthers hPath).bare_eq (meets_at? hPlain hPath) (lastAt_perm h hPerm)

end Table

section Environment

open Toml

variable {path : List Text} {raw : Text} {environment : List (Text × Text)}

/-- A variable gives a setting, and none gives one on the way to it. -/
structure Kept (environment : List (Text × Text)) (path : List Text) (raw : Text) : Prop where
  given : ∃ name, (name, raw) ∈ environment ∧ keyPath? name = some path
  free : ∀ other ∈ environment, ∀ above, keyPath? other.1 = some above → above <+: path →
    above = path

theorem splitPairs_ne_nil (t : Text) : splitPairs t ≠ [] := by
  fun_cases splitPairs t <;> simp

theorem ne_nil_of_keyPath? {name : Text} (h : keyPath? name = some path) : path ≠ [] := by
  rw [keyPath?] at h
  split at h
  next =>
    obtain ⟨-, hPath⟩ := Option.ite_none_left_eq_some.mp h
    obtain rfl := Option.some.inj hPath
    simpa using splitPairs_ne_nil _
  next => cases h

theorem mem_assignments_iff :
    (path, raw) ∈ assignments environment ↔
      ∃ name, (name, raw) ∈ environment ∧ keyPath? name = some path := by
  simp [assignments]

theorem map_fst_assignments (environment : List (Text × Text)) :
    (assignments environment).map Prod.fst =
      environment.filterMap fun (name, _) => keyPath? name := by
  simp [assignments, List.map_filterMap, Option.map_map, Function.comp_def]

/-- Where no path is given twice, the value at a path is that of its variable. -/
theorem lastAt_valued_eq_some_iff {v : Value}
    (h : ((assignments environment).map Prod.fst).Nodup) :
    lastAt path (valued environment) = some v ↔
      ∃ raw, (path, raw) ∈ assignments environment ∧ v = variableValue path raw := by
  rw [lastAt_valued, Option.map_eq_some_iff]
  simp only [lastAt_eq_some_iff h, eq_comm]

/-- A path has no value if no variable tells it. -/
theorem lastAt_valued_eq_none_iff : lastAt path (valued environment) = none ↔
    ∀ given ∈ environment, keyPath? given.1 ≠ some path := by
  rw [lastAt_valued, Option.map_eq_none_iff]
  constructor
  · rintro hLast ⟨name, raw⟩ hMem hPath
    exact lastAt_ne_none (mem_assignments_iff.mpr ⟨name, hMem, hPath⟩) hLast
  · intro hNone
    by_contra hLast
    obtain ⟨raw, hSome⟩ := Option.ne_none_iff_exists'.mp hLast
    obtain ⟨name, hMem, hPath⟩ := mem_assignments_iff.mp (mem_of_lastAt hSome)
    exact hNone _ hMem hPath

/-- The variables that are kept are those whose paths nothing that is given stands in the way of. -/
theorem kept_iff : Kept environment path raw ↔
    (path, raw) ∈ assignments environment ∧ Clear (valued environment) path := by
  constructor
  · rintro ⟨hGiven, hFree⟩
    refine ⟨mem_assignments_iff.mpr hGiven, fun above _ hPrefix hNe => ?_⟩
    exact lastAt_valued_eq_none_iff.mpr fun other hMem hPath =>
      hNe (hFree other hMem above hPath hPrefix)
  · rintro ⟨hGiven, hClear⟩
    refine ⟨mem_assignments_iff.mp hGiven, fun other hMem above hPath hPrefix => ?_⟩
    by_contra hNe
    have hLast := hClear above (ne_nil_of_keyPath? hPath) hPrefix hNe
    exact lastAt_valued_eq_none_iff.mp hLast other hMem hPath

/-- The values of the table are those of the variables that are kept. -/
theorem at?_ofEnvironment_iff {v : Value} (h : ((assignments environment).map Prod.fst).Nodup)
    (hTable : ¬v.IsTable) : (ofEnvironment environment).at? path = some v ↔
      ∃ raw, Kept environment path raw ∧ v = variableValue path raw := by
  rw [ofEnvironment_eq_ofAssignments]
  constructor
  · intro hFound
    have hPath : path ≠ [] := by
      rintro rfl
      exact hTable ⟨_, (Option.some.inj hFound).symm⟩
    have hMet : Meets (valued environment) path _ := meets_at? plain_valued hPath
    rw [hFound] at hMet
    cases hMet with
    | value hClear hLast =>
        obtain ⟨raw, hMem, hValue⟩ := (lastAt_valued_eq_some_iff h).mp hLast
        exact ⟨raw, kept_iff.mpr ⟨hMem, hClear⟩, hValue⟩
    | table => exact absurd ⟨_, rfl⟩ hTable
  · rintro ⟨raw, hKept, rfl⟩
    obtain ⟨hMem, hClear⟩ := kept_iff.mp hKept
    obtain ⟨name, -, hName⟩ := hKept.given
    have hLast := (lastAt_valued_eq_some_iff h).mpr ⟨raw, hMem, rfl⟩
    exact (meets_at? plain_valued (ne_nil_of_keyPath? hName)).eq_of_last hClear hLast

/-- Where nothing is given on the way or at the end, what is given behind it leads to a variable
that is kept. -/
theorem exists_kept (h : ((assignments environment).map Prod.fst).Nodup) (hPath : path ≠ [])
    (hClear : Clear (valued environment) path) (hNone : lastAt path (valued environment) = none)
    (hContinued : Continued (valued environment) path) :
    ∃ longer raw, Kept environment longer raw ∧ path <+: longer ∧ path ≠ longer := by
  obtain ⟨longer, hLonger, -, hLast⟩ := hContinued
  have hNe : longer ≠ [] := by
    rintro rfl
    exact hPath (List.prefix_nil.mp hLonger)
  obtain ⟨first, hFirst, hPrefix, hGiven, hFree⟩ := exists_clear hNe hLast
  obtain ⟨v, hSome⟩ := Option.ne_none_iff_exists'.mp hGiven
  obtain ⟨raw, hMem, -⟩ := (lastAt_valued_eq_some_iff h).mp hSome
  have hOther : path ≠ first := by
    rintro rfl
    exact hGiven hNone
  refine ⟨first, raw, kept_iff.mpr ⟨hMem, hFree⟩, ?_, hOther⟩
  rcases List.prefix_or_prefix_of_prefix hLonger hPrefix with hOn | hBack
  · exact hOn
  · -- The first variable on the way would stand before the path, which is free.
    exact absurd (hClear first hFirst hBack (Ne.symm hOther)) hGiven

/-- Variables that give different settings make the same table in every order. It holds the value of
each variable that no other one stands in the way of, at the path that its name spells, and nothing
else: every table in it leads on to such a variable. -/
theorem ofEnvironment_order
    (h : (environment.filterMap fun (name, _) => keyPath? name).Nodup) :
    (∀ other : List (Text × Text), other.Perm environment →
      ofEnvironment other = ofEnvironment environment) ∧
      (∀ path v, ¬v.IsTable → ((ofEnvironment environment).at? path = some v ↔
        ∃ raw, Kept environment path raw ∧ v = variableValue path raw)) ∧
      ∀ path fields, path ≠ [] → (ofEnvironment environment).at? path = some (.table fields) →
        fields ≠ [] ∧ ∃ longer raw, Kept environment longer raw ∧ path <+: longer ∧
          path ≠ longer := by
  rw [← map_fst_assignments] at h
  refine ⟨?order, fun path v hTable => at?_ofEnvironment_iff h hTable, ?tables⟩
  case order =>
    intro other hPerm
    have hPaths : ((valued environment).map Prod.fst).Nodup := by
      rw [valued, List.map_map]
      exact h
    rw [ofEnvironment_eq_ofAssignments, ofEnvironment_eq_ofAssignments]
    exact ofAssignments_perm plain_valued hPaths ((hPerm.filterMap _).map _)
  case tables =>
    intro path fields hPath hFound
    have hMet : Meets (valued environment) path _ := meets_at? plain_valued hPath
    rw [← ofEnvironment_eq_ofAssignments, hFound] at hMet
    cases hMet with
    | value _ hLast => exact absurd rfl (plain_valued _ (mem_of_lastAt hLast) fields)
    | table hClear hNone hContinued hFields =>
        exact ⟨hFields, exists_kept h hPath hClear hNone hContinued⟩

/-- Variables of which one stands in the way of another, one gives a list, one leads through two
tables, and two give nothing. -/
def tangled : List (Text × Text) :=
  [("RULEDIT__REPORT__STDERR", "false"), ("RULEDIT__REPORT", "x"), ("RULEDIT__RULES", "a, b"),
    ("RULEDIT__A____B", "1"), ("HOME", "/"), ("RULEDIT__Extra__B__C", "7")].map
    fun (name, raw) => (name.toList, raw.toList)

/-- Variables of which some stand in the way of others, in two orders. -/
theorem ofEnvironment_order_tangled :
    (tangled.filterMap fun (name, _) => keyPath? name).Nodup ∧
      ofEnvironment tangled.reverse = ofEnvironment tangled ∧
      (∃ raw, Kept tangled ["report".toList] raw ∧
        .string "x".toList = variableValue ["report".toList] raw) ∧
      ∃ longer raw, Kept tangled longer raw ∧ ["extra".toList] <+: longer := by
  have hPaths : (tangled.filterMap fun (name, _) => keyPath? name).Nodup := by decide +kernel
  have hTable : ofEnvironment tangled =
      [("extra".toList, .table [("b".toList, .table [("c".toList, .integer 7)])]),
        ("report".toList, .string "x".toList),
        ("rules".toList, .array [.string "a".toList, .string "b".toList])] := by
    have hAssigned : assignments tangled = [(["report".toList, "stderr".toList], "false".toList),
        (["report".toList], "x".toList), (["rules".toList], "a, b".toList),
        (["extra".toList, "b".toList, "c".toList], "7".toList)] := by decide +kernel
    rw [ofEnvironment_eq_ofAssignments, valued, hAssigned]
    rfl
  obtain ⟨hOrder, hValues, hTables⟩ := ofEnvironment_order hPaths
  refine ⟨hPaths, hOrder _ (List.reverse_perm tangled), ?_, ?_⟩
  · exact (hValues _ _ (by simp [Value.IsTable])).mp (by rw [hTable]; rfl)
  · obtain ⟨-, longer, raw, hKept, hPrefix, -⟩ :=
      hTables ["extra".toList] _ (by simp) (by rw [hTable]; rfl)
    exact ⟨longer, raw, hKept, hPrefix⟩

end Environment
end Rubric.Settings
