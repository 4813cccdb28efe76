import Rubric.Proofs.Toml.Names
import Rubric.Proofs.Toml.Path
import Rubric.Proofs.Toml.Rows

/-! Where the keys and tables of a file that can be taken line by line come from. Its headers and
assignments are places with a line and a path. They give exactly what the file has, and at and
behind the path of an assignment no other place gives anything. -/
namespace Rubric.Toml

/-- A line that gives something at a path: a table with its header, or a value with a key. -/
structure Place where
  line : Nat
  path : List Text
  value : Option Value

/-- The places of lines that are counted from `line`, where the last header before them was that of
the table at `current`. -/
def places (current : List Text) (line : Nat) : List Row → List Place
  | [] => []
  | .empty :: rows => places current (line + 1) rows
  | .header path key :: rows =>
    ⟨line, path ++ [key], none⟩ :: places (path ++ [key]) (line + 1) rows
  | .assign key v :: rows => ⟨line, current ++ [key], some v⟩ :: places current (line + 1) rows

/-- A place gives what its path leads to or past, and what its value has inside. -/
def Place.Gives (place : Place) (path : List Text) : Prop :=
  path <+: place.path ∨
    ∃ v rest, place.value = some v ∧ path = place.path ++ rest ∧ (v.at? rest).isSome

/-- The names that a line mentions. -/
def Row.names : Row → List Text
  | .empty => []
  | .header path key => path ++ [key]
  | .assign key _ => [key]

/-- The lines of a file give something at a path. -/
def Yields (rows : List Row) (path : List Text) : Prop :=
  ∃ place ∈ places [] 1 rows, place.Gives path

inductive Entry.Plain : Entry → Prop where
  | value (v : Value) : Plain (.value v)
  | table {origin : Origin} {entries : List (Text × Entry)}
      (inner : ∀ name entry, Fields.find? name entries = some entry → Plain entry) :
      Plain (.table origin entries)

namespace Draft

def Plain (draft : Draft) : Prop :=
  ∀ name entry, draft.find? name = some entry → entry.Plain

/-- The table that comes of the draft has something at a path. -/
def Shows (draft : Draft) (path : List Text) : Prop :=
  (Value.at? path (.table (finish draft))).isSome

/-- A path ends in a value that no statement can add to. -/
inductive Complete : Draft → List Text → Prop where
  | value {draft : Draft} {name : Text} {v : Value} (found : draft.find? name = some (.value v)) :
      Complete draft [name]
  | table {draft : Draft} {name : Text} {origin : Origin} {inner : Draft} {path : List Text}
      (found : draft.find? name = some (.table origin inner)) (inside : Complete inner path) :
      Complete draft (name :: path)

def under (name : Text) (draft : Draft) : Draft :=
  match draft.find? name with
  | some (.table _ entries) => entries
  | _ => []

/-- One draft has an entry under a name, and is otherwise like another. -/
def Sets (draft : Draft) (name : Text) (entry : Entry) (changed : Draft) : Prop :=
  ∀ other, changed.find? other = if other = name then some entry else draft.find? other

/-- What a place does to a draft. -/
structure Takes (draft : Draft) (place : Place) (next : Draft) : Prop where
  plain : next.Plain
  shows_iff : ∀ path, next.Shows path ↔ draft.Shows path ∨ place.Gives path
  complete : ∀ path, draft.Complete path → next.Complete path ∧ ¬path <+: place.path
  fresh : place.value.isSome → ¬draft.Shows place.path ∧ next.Complete place.path

/-- A draft takes places one after the other. -/
inductive Runs : Draft → List Place → Draft → Prop where
  | nil (draft : Draft) : Runs draft [] draft
  | cons {draft next last : Draft} {place : Place} {places : List Place}
      (takes : Takes draft place next) (runs : Runs next places last) :
      Runs draft (place :: places) last

variable {name key other : Text} {entry : Entry} {draft inner changed last : Draft}
  {made origin found : Origin} {change : Origin → Draft → Option Draft}
  {path tail p : List Text} {line : Nat} {v : Value} {value : Option Value} {place : Place}
  {taken : List Place}

section Found

theorem find?_finish (name : Text) (draft : Draft) :
    Fields.find? name (finish draft) = (draft.find? name).map finishEntry := by
  induction draft with
  | nil => rfl
  | cons field draft ih =>
      obtain ⟨other, entry⟩ := field
      rw [finish, Fields.find?, Fields.find?, ih]
      split <;> rfl

theorem shows_nil (draft : Draft) : draft.Shows [] :=
  rfl

/-- A draft shows a path if its entry of the first name, once finished, has something at the
rest. -/
theorem shows_cons_iff : draft.Shows (name :: path) ↔
    ((draft.find? name).bind fun entry => Value.at? path (finishEntry entry)).isSome := by
  rw [Shows, Value.at?, find?_finish, Option.bind_map]
  rfl

theorem plain_nil : Plain [] := by
  simp [Plain, Fields.find?]

theorem Plain.under (h : draft.Plain) (name : Text) : (under name draft).Plain := by
  rw [Draft.under]
  split
  next origin entries hTable =>
    cases h _ _ hTable with
    | table hInner => exact hInner
  next => exact plain_nil

/-- Setting a plain entry keeps a draft plain. -/
theorem Sets.plain (h : draft.Sets name entry changed) (hDraft : draft.Plain)
    (hEntry : entry.Plain) : changed.Plain := by
  intro other found hFound
  rw [h] at hFound
  split at hFound
  next => exact Option.some.inj hFound ▸ hEntry
  next => exact hDraft _ _ hFound

theorem sets_concat (h : draft.find? name = none) :
    draft.Sets name entry (draft ++ [(name, entry)]) := by
  intro other
  rw [Fields.find?_append]
  by_cases hName : other = name
  · subst hName
    simp [h, Fields.find?]
  · simp [hName, Fields.find?]

theorem sets_set (name : Text) (entry : Entry) (draft : Draft) :
    draft.Sets name entry (Fields.set name entry draft) :=
  fun _ => Fields.find?_set

theorem sets_remove (name : Text) (entry : Entry) (draft : Draft) :
    draft.Sets name entry (draft.remove name ++ [(name, entry)]) := by
  intro other
  rw [Fields.find?_append]
  by_cases hName : other = name
  · subst hName
    simp [Fields.find?_remove, Fields.find?]
  · simp [hName, Fields.find?_remove_of_ne, Fields.find?]

/-- A draft in which an entry was set shows the paths of that entry and those of the other names
that it showed before. -/
theorem Sets.shows_iff (h : draft.Sets name entry changed) : changed.Shows (other :: path) ↔
    if other = name then (Value.at? path (finishEntry entry)).isSome = true else
      draft.Shows (other :: path) := by
  rw [shows_cons_iff, h]
  split
  next => rfl
  next => rw [shows_cons_iff]

theorem shows_empty_iff : Shows [] path ↔ path = [] := by
  cases path with
  | nil => simp [shows_nil]
  | cons name path => simp [shows_cons_iff, Fields.find?]

/-- A table that is missing on the way is made, so it has its own path from then on. -/
theorem shows_under_iff (hPlain : draft.Plain) (hOpen : ∀ v, draft.find? name ≠ some (.value v)) :
    (under name draft).Shows path ↔ draft.Shows (name :: path) ∨ path = [] := by
  rw [under, shows_cons_iff]
  cases hFound : draft.find? name with
  | none => simpa using shows_empty_iff
  | some entry =>
      cases hPlain _ _ hFound with
      | value v => exact absurd hFound (hOpen v)
      | @table origin entries =>
          rw [Option.bind_some]
          refine ⟨.inl, ?_⟩
          rintro (hShows | rfl)
          · exact hShows
          · exact shows_nil entries

end Found

section Gives

theorem gives_nil (place : Place) : place.Gives [] :=
  .inl List.nil_prefix

/-- A place gives the paths below its first name that the rest of it gives. -/
theorem gives_cons_iff : Place.Gives ⟨line, name :: tail, value⟩ (other :: p) ↔
    other = name ∧ Place.Gives ⟨line, tail, value⟩ p := by
  simp only [Place.Gives, List.cons_prefix_cons, List.cons_append, List.cons.injEq]
  grind

/-- At its end a place gives what its value has. -/
theorem gives_value_iff : Place.Gives ⟨line, [], some v⟩ p ↔ (v.at? p).isSome := by
  refine ⟨?_, fun hSome => .inr ⟨v, p, rfl, rfl, hSome⟩⟩
  rintro (hPrefix | ⟨w, rest, hValue, rfl, hSome⟩)
  · rw [List.prefix_nil.mp hPrefix]
    rfl
  · rwa [Option.some.inj hValue]

end Gives

section Steps

theorem Complete.ne_nil (h : draft.Complete p) : p ≠ [] := by
  cases h <;> simp

/-- Where no value stands under a name, a change under it leaves complete values alone, but for
those in the table there. -/
theorem Complete.sets (hComplete : draft.Complete p)
    (hOpen : ∀ v, draft.find? name ≠ some (.value v)) (hSets : draft.Sets name entry changed) :
    changed.Complete p ∧ ¬p <+: name :: tail ∨
      ∃ rest, p = name :: rest ∧ (under name draft).Complete rest := by
  cases hComplete with
  | @value _ other v hFound =>
      have hName : other ≠ name := by
        rintro rfl
        exact hOpen v hFound
      exact .inl ⟨.value (by rw [hSets, if_neg hName, hFound]), by simp [hName]⟩
  | @table _ other origin entries p hFound hInside =>
      by_cases hName : other = name
      · subst hName
        exact .inr ⟨p, rfl, by rwa [under, hFound]⟩
      · exact .inl ⟨.table (by rw [hSets, if_neg hName, hFound]) hInside, by simp [hName]⟩

/-- The empty path of a header is taken without a change. -/
theorem takes_self (hPlain : draft.Plain) (line : Nat) : draft.Takes ⟨line, [], none⟩ draft where
  plain := hPlain
  shows_iff path := by
    refine ⟨.inl, ?_⟩
    rintro (hShows | hPrefix | ⟨v, rest, hValue, -⟩)
    · exact hShows
    · rw [List.prefix_nil.mp hPrefix]
      exact shows_nil draft
    · cases hValue
  complete path hComplete := ⟨hComplete, by simpa using hComplete.ne_nil⟩
  fresh hValue := by cases hValue

/-- What the table under a name takes, the table around it takes behind the name. -/
theorem Takes.cons (hPlain : draft.Plain) (hOpen : ∀ v, draft.find? name ≠ some (.value v))
    (hInner : (under name draft).Takes ⟨line, tail, value⟩ inner)
    (hSets : draft.Sets name (.table found inner) changed) :
    draft.Takes ⟨line, name :: tail, value⟩ changed where
  plain := hSets.plain hPlain (.table hInner.plain)
  shows_iff p := by
    cases p with
    | nil => simp [shows_nil]
    | cons other p =>
        rw [hSets.shows_iff, gives_cons_iff]
        by_cases hName : other = name
        · subst hName
          have hRoot : p = [] → Place.Gives ⟨line, tail, value⟩ p := by
            rintro rfl
            exact gives_nil _
          have hInside := (hInner.shows_iff p).trans
            (or_congr_left (shows_under_iff hPlain hOpen))
          rw [if_pos rfl]
          refine hInside.trans ?_
          tauto
        · simp [hName]
  complete p hComplete := by
    obtain hKept | ⟨p, rfl, hInside⟩ := hComplete.sets hOpen hSets
    · exact hKept
    · obtain ⟨hKept, hApart⟩ := hInner.complete p hInside
      exact ⟨.table (by rw [hSets, if_pos rfl]) hKept, by simpa using hApart⟩
  fresh hValue := by
    obtain ⟨hNew, hComplete⟩ := hInner.fresh hValue
    exact ⟨fun hShows => hNew ((shows_under_iff hPlain hOpen).mpr (.inl hShows)),
      .table (by rw [hSets, if_pos rfl]) hComplete⟩

/-- One step along a path leads into the table under the first name, which is made if nothing is
there. No value stands there. -/
theorem exists_within_cons (hPlain : draft.Plain)
    (h : within made change origin draft (name :: path) = some changed) :
    (∀ v, draft.find? name ≠ some (.value v)) ∧
      ∃ found inner, within made change found (under name draft) path = some inner ∧
        draft.Sets name (.table found inner) changed := by
  rw [within] at h
  rw [under]
  split at h
  next hNone =>
    obtain ⟨inner, hInner, hSome⟩ := Option.bind_eq_some_iff.mp h
    obtain rfl := Option.some.inj hSome
    exact ⟨by simp [hNone], made, inner, by rwa [hNone], sets_concat hNone⟩
  next => cases h
  next found entries hTable =>
    split at h
    next => cases h
    next =>
      obtain ⟨inner, hInner, hSome⟩ := Option.bind_eq_some_iff.mp h
      obtain rfl := Option.some.inj hSome
      exact ⟨by simp [hTable], found, inner, by rwa [hTable], sets_set _ _ _⟩
  next => cases h
  next hTables => cases hPlain _ _ hTables

/-- What the table at the end of a path takes, the whole draft takes behind the path. -/
theorem takes_within (hPlain : draft.Plain)
    (hChange : ∀ found inner changed, Plain inner → change found inner = some changed →
      inner.Takes ⟨line, tail, value⟩ changed)
    (h : within made change origin draft path = some changed) :
    draft.Takes ⟨line, path ++ tail, value⟩ changed := by
  induction path generalizing origin draft changed with
  | nil => exact hChange _ _ _ hPlain h
  | cons name path ih =>
      obtain ⟨hOpen, found, inner, hInner, hSets⟩ := exists_within_cons hPlain h
      exact (ih (hPlain.under name) hInner).cons hPlain hOpen hSets

/-- The header of a table is taken. -/
theorem takes_declare (hPlain : draft.Plain) (h : declare path key draft = some changed)
    (line : Nat) : draft.Takes ⟨line, path ++ [key], none⟩ changed := by
  refine takes_within hPlain (fun found inner changed hInner hChanged => ?_) h
  have hSelf := takes_self (hInner.under key) line
  split at hChanged
  next hNone =>
    obtain rfl := Option.some.inj hChanged
    have hUnder : under key inner = [] := by rw [under, hNone]
    exact hSelf.cons hInner (by simp [hNone]) (by rw [hUnder]; exact sets_concat hNone)
  next entries hTable =>
    obtain rfl := Option.some.inj hChanged
    have hUnder : under key inner = entries := by rw [under, hTable]
    exact hSelf.cons hInner (by simp [hTable]) (by rw [hUnder]; exact sets_remove _ _ _)
  next => cases hChanged

/-- A value is taken under a key that is new. -/
theorem takes_value (hPlain : inner.Plain) (hNone : inner.find? key = none) (line : Nat) :
    inner.Takes ⟨line, [key], some v⟩ (inner ++ [(key, .value v)]) where
  plain := (sets_concat hNone).plain hPlain (.value v)
  shows_iff p := by
    cases p with
    | nil => simp [shows_nil]
    | cons other p =>
        rw [(sets_concat hNone).shows_iff, gives_cons_iff, gives_value_iff]
        by_cases hName : other = key
        · simp [hName, shows_cons_iff, hNone, finishEntry]
        · simp [hName]
  complete p hComplete := by
    obtain hKept | ⟨p, rfl, hInside⟩ := hComplete.sets (by simp [hNone]) (sets_concat hNone)
    · exact hKept
    · rw [under, hNone] at hInside
      cases hInside with
      | value hFound => cases hFound
      | table hFound => cases hFound
  fresh _ :=
    ⟨by simp [shows_cons_iff, hNone], .value ((sets_concat hNone key).trans (if_pos rfl))⟩

/-- The assignment of a value is taken. -/
theorem takes_assign (hPlain : draft.Plain)
    (h : within .implied (assign [] key v) .declared draft path = some changed) (line : Nat) :
    draft.Takes ⟨line, path ++ [key], some v⟩ changed := by
  refine takes_within hPlain (fun found inner changed hInner hChanged => ?_) h
  rw [assign, within] at hChanged
  split at hChanged
  next => cases hChanged
  next =>
    split at hChanged
    next => cases hChanged
    next hNone =>
      obtain rfl := Option.some.inj hChanged
      exact takes_value hInner (by simpa using hNone) line

end Steps

section Run

variable {rows : List Row} {progress next : Progress} {p q : List Text}

/-- Behind a run, a draft shows just what it showed before and what the places on the way give. -/
theorem Runs.shows_iff (h : Runs draft taken last) (path : List Text) :
    last.Shows path ↔ draft.Shows path ∨ ∃ place ∈ taken, place.Gives path := by
  induction h with
  | nil => simp
  | cons hTakes _ ih => simp [ih, hTakes.shows_iff, or_assoc]

/-- Nothing is assigned below a value that is complete. -/
theorem Runs.complete (h : Runs draft taken last) (hComplete : draft.Complete path) :
    ∀ place ∈ taken, ¬path <+: place.path := by
  induction h with
  | nil => simp
  | cons hTakes _ ih =>
      obtain ⟨hKept, hApart⟩ := hTakes.complete path hComplete
      exact List.forall_mem_cons.mpr ⟨hApart, ih hKept⟩

/-- A path that is shown already is not assigned again. -/
theorem Runs.fresh (h : Runs draft taken last) (hShows : draft.Shows path) :
    ∀ place ∈ taken, place.value.isSome → place.path ≠ path := by
  induction h with
  | nil => simp
  | cons hTakes _ ih =>
      refine List.forall_mem_cons.mpr ⟨fun hValue hSame => ?_, ih ?_⟩
      · exact (hTakes.fresh hValue).1 (hSame ▸ hShows)
      · exact (hTakes.shows_iff path).mpr (.inl hShows)

/-- A value is alone at its path and behind it. -/
theorem Runs.alone (h : Runs draft taken last) {a b : Place} (ha : a ∈ taken) (hb : b ∈ taken)
    (hValue : a.value.isSome) (hPrefix : a.path <+: b.path) : a = b := by
  induction h with
  | nil => cases ha
  | @cons draft next last place taken hTakes hRuns ih =>
      rcases List.mem_cons.mp ha with rfl | haLater
      · rcases List.mem_cons.mp hb with rfl | hbLater
        · rfl
        · exact absurd hPrefix (hRuns.complete (hTakes.fresh hValue).2 b hbLater)
      · rcases List.mem_cons.mp hb with rfl | hbLater
        · have hShows : next.Shows a.path := (hTakes.shows_iff _).mpr (.inr (.inl hPrefix))
          exact absurd rfl (hRuns.fresh hShows a haLater hValue)
        · exact ih haLater hbLater

/-- The statements of lines are taken as their places are. -/
theorem runs_places (hPlain : progress.draft.Plain)
    (h : (rows.filterMap Row.statement?).foldlM Progress.take progress = some next) (line : Nat) :
    Runs progress.draft (places progress.current line rows) next.draft := by
  induction rows generalizing progress line with
  | nil =>
      obtain rfl : progress = next := by simpa using h
      exact .nil _
  | cons row rows ih =>
      cases row with
      | empty => exact ih hPlain h (line + 1)
      | header path key =>
          obtain ⟨middle, hTake, hRest⟩ := Option.bind_eq_some_iff.mp h
          obtain ⟨draft, hDraft, hSome⟩ := Option.bind_eq_some_iff.mp hTake
          obtain rfl := Option.some.inj hSome
          have hTakes := takes_declare hPlain hDraft line
          exact .cons hTakes (ih hTakes.plain hRest (line + 1))
      | assign key v =>
          obtain ⟨middle, hTake, hRest⟩ := Option.bind_eq_some_iff.mp h
          obtain ⟨draft, hDraft, hSome⟩ := Option.bind_eq_some_iff.mp hTake
          obtain rfl := Option.some.inj hSome
          have hTakes := takes_assign hPlain hDraft line
          exact .cons hTakes (ih hTakes.plain hRest (line + 1))

end Run

end Draft

section Names

variable {content line tail rest name : Text} {row : Row} {rows : List Row} {current : List Text}
  {place : Place} {path above : List Text} {n : Nat}

/-- Where a path leads, every part of it leads. -/
theorem Place.Gives.of_prefix (h : place.Gives path) (hAbove : above <+: path) :
    place.Gives above := by
  rcases h with hPath | ⟨v, rest, hValue, rfl, hSome⟩
  · exact .inl (hAbove.trans hPath)
  · rcases List.prefix_or_prefix_of_prefix hAbove (List.prefix_append _ _) with
      hPrefix | ⟨before, rfl⟩
    · exact .inl hPrefix
    · obtain ⟨behind, rfl⟩ := List.prefix_append_right_inj _ |>.mp hAbove
      rw [Value.at?_append, Option.isSome_bind] at hSome
      exact .inr ⟨v, before, hValue, rfl, Option.isSome_of_any hSome⟩

/-- Rows that yield a path yield the tables above it too. -/
theorem Yields.of_prefix (h : Yields rows path) (hAbove : above <+: path) : Yields rows above :=
  let ⟨place, hPlace, hGives⟩ := h
  ⟨place, hPlace, hGives.of_prefix hAbove⟩

/-- A path that a place gives starts with one of the names of that place. -/
theorem Place.Gives.mem_of_cons (h : place.Gives (name :: path)) (hPath : place.path ≠ []) :
    name ∈ place.path := by
  rcases h with hPrefix | ⟨v, rest, -, hSame, -⟩
  · exact hPrefix.subset List.mem_cons_self
  · obtain ⟨first, names, hFirst⟩ := List.exists_cons_of_ne_nil hPath
    rw [hFirst] at hSame ⊢
    rw [(List.cons.inj hSame).1]
    exact List.mem_cons_self

theorem path_ne_nil (h : place ∈ places current n rows) : place.path ≠ [] := by
  induction rows generalizing current n with
  | nil => cases h
  | cons row rows ih =>
      cases row with
      | empty => exact ih h
      | header path key =>
          rcases List.mem_cons.mp h with rfl | h
          · simp
          · exact ih h
      | assign key v =>
          rcases List.mem_cons.mp h with rfl | h
          · simp
          · exact ih h

theorem isBare_of_padded {names parts : List Text} (h : List.Forall₂ Padded names parts) :
    ∀ name ∈ names, IsBare name := by
  induction h with
  | nil => simp
  | cons hName _ ih => exact List.forall_mem_cons.mpr ⟨hName.1, ih⟩

theorem Row.Spells.isBare (h : row.Spells tail rest line) : ∀ name ∈ row.names, IsBare name := by
  cases h with
  | blank => simp [names]
  | comment => simp [names]
  | header _ _ hPadded => exact isBare_of_padded hPadded
  | assign hPadded => exact List.forall_mem_singleton.mpr hPadded.1

/-- All names of a place are written in some row, or belong to the table that was current before. -/
theorem mem_names_of_mem_path (h : place ∈ places current n rows) (hName : name ∈ place.path) :
    name ∈ current ∨ ∃ row ∈ rows, name ∈ row.names := by
  induction rows generalizing current n with
  | nil => cases h
  | cons row rows ih =>
      cases row with
      | empty => exact (ih h).imp_right fun ⟨row, hRow, hName⟩ => ⟨row, by simp [hRow], hName⟩
      | header path key =>
          right
          rcases List.mem_cons.mp h with rfl | h
          · exact ⟨_, List.mem_cons_self, hName⟩
          · rcases ih h with hHeader | ⟨row, hRow, hName⟩
            · exact ⟨_, List.mem_cons_self, hHeader⟩
            · exact ⟨row, by simp [hRow], hName⟩
      | assign key v =>
          rcases List.mem_cons.mp h with rfl | h
          · rcases List.mem_append.mp hName with hName | hName
            · exact .inl hName
            · exact .inr ⟨_, List.mem_cons_self, hName⟩
          · exact (ih h).imp_right fun ⟨row, hRow, hName⟩ => ⟨row, by simp [hRow], hName⟩

/-- All names in rows are bare. -/
theorem Rows.isBare_names (h : Rows content rows) :
    ∀ row ∈ rows, ∀ name ∈ row.names, IsBare name := by
  induction h with
  | last hSpells => exact List.forall_mem_singleton.mpr hSpells.isBare
  | cons hSpells _ _ ih => exact List.forall_mem_cons.mpr ⟨hSpells.isBare, ih⟩

/-- The names in the paths of places need no quotes. -/
theorem Rows.isBare (h : Rows content rows) (hPlace : place ∈ places [] n rows)
    (hName : name ∈ place.path) : IsBare name := by
  obtain hNil | ⟨row, hRow, hName⟩ := mem_names_of_mem_path hPlace hName
  · cases hNil
  · exact h.isBare_names row hRow _ hName

end Names

section Files

variable {content : Text} {rows : List Row} {fields : Table} {path : List Text}

/-- A text of rows that reads as a table is read by a run through its places. -/
theorem Rows.exists_runs (h : Rows content rows) (hRead : read? content = some fields) :
    ∃ last, Draft.Runs [] (places [] 1 rows) last ∧ Draft.finish last = fields := by
  obtain ⟨last, hLast, hSome⟩ := Option.bind_eq_some_iff.mp (h.ofStatements? hRead)
  exact ⟨last.draft, Draft.runs_places Draft.plain_nil hLast 1, Option.some.inj hSome⟩

/-- A file has what its lines give, and nothing else. -/
theorem Rows.isSome_at?_iff (h : Rows content rows) (hRead : read? content = some fields) :
    (fields.at? path).isSome ↔ path = [] ∨ Yields rows path := by
  obtain ⟨last, hRuns, rfl⟩ := h.exists_runs hRead
  rw [Table.at?_eq, ← Draft.shows_empty_iff]
  exact hRuns.shows_iff path

/-- A value is alone at its path in a file, and behind it. -/
theorem Rows.alone (h : Rows content rows) (hRead : read? content = some fields) {a b : Place}
    (ha : a ∈ places [] 1 rows) (hb : b ∈ places [] 1 rows) (hValue : a.value.isSome)
    (hPrefix : a.path <+: b.path) : a = b := by
  obtain ⟨last, hRuns, -⟩ := h.exists_runs hRead
  exact hRuns.alone ha hb hValue hPrefix

end Files
end Rubric.Toml
