import Mathlib.Data.List.Forall2
import Rubric.RuleFile.Basic

/-! Loading rule files. A file gives one rule for each of its entries, or fails with the first entry
that is no rule. Its shape makes no difference, and what is reported on the way is what the entries
before the failure report by themselves. -/
namespace Rubric.RuleFile

/-- A rule file with these entries: an array of them, or an object with this array under `rules` and
nothing else under this name. -/
def Holds (content : Text) (items : List Json) : Prop :=
  Json.read? content = some (.array items) ∨
    ∃ fields, Json.read? content = some (.object fields) ∧
      fields.filter (·.1 == "rules".toList) = [("rules".toList, .array items)]

/-- Entries that load by themselves, with the rules they load to and what is reported on each. -/
def LoadTo (items : List Json) (loaded : List (Rule × List Event)) : Prop :=
  items.map readEntry = loaded.map .ok

variable {path content : Text} {index : Nat} {items : List Json} {entry : Json}
  {loaded : List (Rule × List Event)}

theorem loadTo_cons {result : Rule × List Event} (h : readEntry entry = .ok result)
    (hItems : LoadTo items loaded) : LoadTo (entry :: items) (result :: loaded) := by
  rw [LoadTo, List.map_cons, List.map_cons, h, hItems]

/-- A file that reads as a list of entries, or as a table with one, holds those entries. -/
theorem entries_of_read? {value : Json} (h : Json.read? content = some value)
    (hItems : entries.listed value = some items) : entries content = .ok items := by
  obtain ⟨⟨start, rest⟩, hStart, hRest⟩ := Option.bind_eq_some_iff.mp h
  have hEmpty : (Json.skipSpace rest).isEmpty = true ∧ start = value := by
    simpa using hRest
  obtain ⟨hEmpty, rfl⟩ := hEmpty
  simp [entries, hStart, hItems, hEmpty]

theorem Holds.entries (h : Holds content items) : entries content = .ok items := by
  rcases h with hArray | ⟨fields, hObject, hRules⟩
  · exact entries_of_read? hArray rfl
  · exact entries_of_read? hObject (by rw [entries.listed, hRules])

/-- Entries either all load, or the first that does not has only entries before it that do. -/
theorem loadTo_or_exists_error (items : List Json) :
    (∃ loaded, LoadTo items loaded) ∨
      ∃ earlier entry later reason loaded, items = earlier ++ entry :: later ∧
        LoadTo earlier loaded ∧ readEntry entry = .error reason := by
  induction items with
  | nil => exact .inl ⟨[], rfl⟩
  | cons entry items ih =>
      cases hEntry : readEntry entry with
      | error reason => exact .inr ⟨[], entry, items, reason, [], rfl, rfl, hEntry⟩
      | ok result =>
          rcases ih with ⟨loaded, hLoaded⟩ |
            ⟨earlier, other, later, reason, loaded, rfl, hLoaded, hOther⟩
          · exact .inl ⟨result :: loaded, loadTo_cons hEntry hLoaded⟩
          · exact .inr ⟨entry :: earlier, other, later, reason, result :: loaded, rfl,
              loadTo_cons hEntry hLoaded, hOther⟩

/-- One entry that loads puts its rule and its events in front of those of the others. -/
theorem loadEntries_cons {result : Rule × List Event} (h : readEntry entry = .ok result) :
    loadEntries path index (entry :: items) =
      ⟨(loadEntries path (index + 1) items).result.map (result.1 :: ·),
        result.2 ++ (loadEntries path (index + 1) items).events⟩ := by
  simp [loadEntries, h]

/-- Entries that load leave the loading of those behind them as it is. -/
theorem LoadTo.loadEntries_append (h : LoadTo items loaded) (rest : List Json) :
    loadEntries path index (items ++ rest) =
      ⟨(loadEntries path (index + items.length) rest).result.map (loaded.map Prod.fst ++ ·),
        loaded.flatMap Prod.snd ++ (loadEntries path (index + items.length) rest).events⟩ := by
  induction items generalizing index loaded with
  | nil =>
      obtain rfl : loaded = [] := by simpa [LoadTo] using h.symm
      cases hRest : (loadEntries path index rest).result <;> simp [Except.map, ← hRest]
  | cons entry items ih =>
      cases loaded with
      | nil => simp [LoadTo] at h
      | cons result loaded =>
          obtain ⟨hEntry, hItems⟩ := List.cons.inj h
          rw [List.cons_append, loadEntries_cons hEntry, ih hItems, List.length_cons,
            Nat.add_right_comm, Nat.add_assoc]
          cases (loadEntries path (index + (items.length + 1)) rest).result <;>
            simp [Except.map]

/-- Loading a file is loading the entries it holds. -/
theorem Holds.load_eq (h : Holds content items) : load path content = loadEntries path 0 items := by
  simp only [load, h.entries]

/-- If all entries load, then the file loads to their rules and events in order. -/
theorem LoadTo.load_eq (h : LoadTo items loaded) (hHolds : Holds content items) :
    load path content = ⟨.ok (loaded.map Prod.fst), loaded.flatMap Prod.snd⟩ := by
  have hAll : loadEntries path 0 (items ++ []) = _ := h.loadEntries_append []
  rw [hHolds.load_eq, ← List.append_nil items, hAll]
  simp [loadEntries, Except.map]

/-- Entries that load as a whole load in two parts. -/
theorem LoadTo.exists_of_append {rest : List Json} (h : LoadTo (items ++ rest) loaded) :
    ∃ first second, loaded = first ++ second ∧ LoadTo items first ∧ LoadTo rest second := by
  rw [LoadTo, List.map_append] at h
  obtain ⟨first, second, rfl, hFirst, hSecond⟩ := List.map_eq_append_iff.mp h.symm
  exact ⟨first, second, rfl, hFirst.symm, hSecond.symm⟩

/-- An entry that every file has this rule from, in its place, when all other entries load. -/
def Gives (entry : Json) (rule : Rule) (events : List Event) : Prop :=
  ∀ {path content : Text} {earlier later before after},
    Holds content (earlier ++ entry :: later) → LoadTo earlier before → LoadTo later after →
      load path content =
        ⟨.ok (before.map Prod.fst ++ rule :: after.map Prod.fst),
          before.flatMap Prod.snd ++ events ++ after.flatMap Prod.snd⟩

/-- An entry that is a rule by itself gives this rule wherever it stands. -/
theorem gives_of_readEntry {rule : Rule} {events : List Event}
    (h : readEntry entry = .ok (rule, events)) : Gives entry rule events := by
  intro path content earlier later before after hHolds hEarlier hLater
  have hAll : LoadTo (earlier ++ entry :: later) (before ++ (rule, events) :: after) := by
    rw [LoadTo, List.map_append, List.map_append, hEarlier, loadTo_cons h hLater]
  simpa using hAll.load_eq hHolds

/-- The rules of a file that loads are those of its entries, one by one. -/
theorem Holds.forall₂_of_load {rules : List Rule} (h : Holds content items)
    (hLoad : (load path content).result = .ok rules) :
    List.Forall₂ (fun entry rule => ∃ events, readEntry entry = .ok (rule, events))
      items rules := by
  rcases loadTo_or_exists_error items with
    ⟨loaded, hLoaded⟩ | ⟨earlier, entry, later, reason, loaded, rfl, hLoaded, hEntry⟩
  · rw [hLoaded.load_eq h] at hLoad
    obtain rfl := Except.ok.inj hLoad
    rw [List.forall₂_map_right_iff]
    rw [LoadTo, ← List.forall₂_eq_eq_eq, List.forall₂_map_left_iff, List.forall₂_map_right_iff]
      at hLoaded
    exact hLoaded.imp fun _ result hEntry => ⟨result.2, hEntry⟩
  · rw [h.load_eq, hLoaded.loadEntries_append] at hLoad
    simp [loadEntries, hEntry, Outcome.fail, Except.map] at hLoad

/-- An entry that makes every file fail with its place, when all entries before it load. -/
def Invalid (entry : Json) : Prop :=
  ∃ reason, ∀ {path content : Text} {earlier later loaded},
    Holds content (earlier ++ entry :: later) → LoadTo earlier loaded →
      load path content =
        ⟨.error (.invalidRule path earlier.length reason), loaded.flatMap Prod.snd⟩

/-- An entry that is no rule by itself is invalid wherever it stands. -/
theorem invalid_of_error {reason : Text} (h : readEntry entry = .error reason) : Invalid entry := by
  refine ⟨reason, fun hHolds hEarlier => ?_⟩
  rw [hHolds.load_eq, hEarlier.loadEntries_append]
  simp [loadEntries, h, Outcome.fail, Except.map]

/-- Entries that load alike one by one do so together. -/
theorem loadEntries_alike {others : List Json}
    (h : List.Forall₂ (fun entry other => readEntry entry = readEntry other) items others) :
    loadEntries path index items = loadEntries path index others := by
  induction h generalizing index with
  | nil => rfl
  | cons hEntry _ ih => rw [loadEntries, loadEntries, hEntry, ih]

/-- A rule file is loaded as a whole or not at all, whichever of its shapes it has. Where all
entries load by themselves it gives their rules in order. Otherwise the first that does not is named
with its place and its own complaint. What the entries before it report is reported, and nothing
else. -/
theorem load_all_or_nothing (path : Text) {content : Text} {items : List Json}
    (h : Holds content items) :
    (∀ other, Holds other items → load path other = load path content) ∧
      ((∃ loaded, LoadTo items loaded ∧
          load path content = ⟨.ok (loaded.map Prod.fst), loaded.flatMap Prod.snd⟩) ∨
        ∃ earlier entry later reason loaded, items = earlier ++ entry :: later ∧
          LoadTo earlier loaded ∧ readEntry entry = .error reason ∧
          load path content =
            ⟨.error (.invalidRule path earlier.length reason), loaded.flatMap Prod.snd⟩) := by
  have hLoad : ∀ other, Holds other items → load path other = loadEntries path 0 items := by
    intro other hOther
    simp only [load, hOther.entries]
  refine ⟨fun other hOther => (hLoad other hOther).trans (hLoad content h).symm, ?_⟩
  rw [hLoad content h]
  rcases loadTo_or_exists_error items with
    ⟨loaded, hLoaded⟩ | ⟨earlier, entry, later, reason, loaded, rfl, hLoaded, hEntry⟩
  · refine .inl ⟨loaded, hLoaded, ?_⟩
    have hAll : loadEntries path 0 (items ++ []) = _ := hLoaded.loadEntries_append []
    simpa [loadEntries, Except.map] using hAll
  · refine .inr ⟨earlier, entry, later, reason, loaded, rfl, hLoaded, hEntry, ?_⟩
    rw [hLoaded.loadEntries_append]
    simp [loadEntries, hEntry, Outcome.fail, Except.map]

def mixedEntries : List Json :=
  [.array [.string "r".toList, .string "A".toList, .null, .number (.int 1), .string "7".toList,
    .array [.array [.string [], .string "v".toList]]], .number (.int 5)]

/-- The second of two entries is no entry at all. The warning of the first one stands in both shapes
of the file. -/
theorem load_all_or_nothing_mixed :
    Holds "[[\"r\",\"A\",null,1,\"7\",[[\"\",\"v\"]]],5]".toList mixedEntries ∧
      Holds "\x7b\"x\":0,\"rules\":[[\"r\",\"A\",null,1,\"7\",[[\"\",\"v\"]]],5]\x7d".toList
        mixedEntries ∧
      ∃ earlier entry later reason loaded, mixedEntries = earlier ++ entry :: later ∧
        LoadTo earlier loaded ∧ readEntry entry = .error reason ∧
        load [] "\x7b\"x\":0,\"rules\":[[\"r\",\"A\",null,1,\"7\",[[\"\",\"v\"]]],5]\x7d".toList =
          ⟨.error (.invalidRule [] earlier.length reason), loaded.flatMap Prod.snd⟩ := by
  have hArray : Holds "[[\"r\",\"A\",null,1,\"7\",[[\"\",\"v\"]]],5]".toList mixedEntries := by
    refine .inl ?_
    simp only [String.reduceToList]
    rfl
  have hObject : Holds
      "\x7b\"x\":0,\"rules\":[[\"r\",\"A\",null,1,\"7\",[[\"\",\"v\"]]],5]\x7d".toList
      mixedEntries := by
    refine .inr ⟨[("x".toList, .number (.int 0)), ("rules".toList, .array mixedEntries)], ?_, rfl⟩
    simp only [String.reduceToList]
    rfl
  obtain ⟨hShape, hLoad⟩ := load_all_or_nothing [] hArray
  refine ⟨hArray, hObject, ?_⟩
  rw [hShape _ hObject]
  rcases hLoad with ⟨loaded, hLoaded, -⟩ | hStopped
  · have hNumber : .error (misfit (.number (.int 5)) "struct RawRule") ∈
        mixedEntries.map readEntry :=
      List.mem_map.mpr ⟨.number (.int 5), by simp [mixedEntries], rfl⟩
    rw [LoadTo] at hLoaded
    simp [hLoaded] at hNumber
  · exact hStopped

end Rubric.RuleFile
