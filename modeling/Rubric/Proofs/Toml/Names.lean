import Rubric.Proofs.Text.Fields
import Rubric.Toml.Reader

/-! Names in tables that are read. A statement only adds what no earlier one has fixed, so no name
occurs twice in a table under construction, and none does in the table that comes of it. -/
namespace Rubric.Toml

/-- No name occurs twice in the value itself, should it be a table. Nothing is said of what stands
inside it. -/
def Value.Tidy (v : Value) : Prop :=
  ∀ fields, v = .table fields → Fields.Distinct fields

/-- No name occurs twice in any table of the entry that is still under construction, nor in a
complete one that stands in it. -/
inductive Entry.Tidy : Entry → Prop where
  | value {v : Value} (h : v.Tidy) : Tidy (.value v)
  | table {origin : Origin} {entries : List (Text × Entry)} (names : Fields.Distinct entries)
      (inner : ∀ field ∈ entries, Tidy field.2) : Tidy (.table origin entries)
  | tables {elements : List (List (Text × Entry))}
      (names : ∀ entries ∈ elements, Fields.Distinct entries)
      (inner : ∀ entries ∈ elements, ∀ field ∈ entries, Tidy field.2) : Tidy (.tables elements)

/-- No name occurs twice in a table under construction, nor in those inside it. -/
structure Draft.Tidy (draft : Draft) : Prop where
  names : Fields.Distinct draft
  inner : ∀ field ∈ draft, field.2.Tidy

/-- No name occurs twice in a table, nor in the tables right inside it. -/
structure Table.Tidy (t : Table) : Prop where
  names : Fields.Distinct t
  inner : ∀ field ∈ t, field.2.Tidy

def Statement.Tidy : Statement → Prop
  | .assign _ _ v => v.Tidy
  | _ => True

namespace Draft

variable {name key : Text} {entry : Entry} {draft changed : Draft} {made origin : Origin}
  {change : Origin → Draft → Option Draft} {path : List Text} {v : Value}

theorem tidy_nil : Tidy [] :=
  ⟨List.nodup_nil, by simp⟩

/-- What is found under a name of a tidy draft is tidy itself. -/
theorem Tidy.find? (h : draft.Tidy) (hEntry : Fields.find? name draft = some entry) : entry.Tidy :=
  h.inner _ (Fields.mem_of_find? hEntry)

theorem Tidy.concat (h : draft.Tidy) (hName : Fields.find? name draft = none)
    (hEntry : entry.Tidy) : Tidy (draft ++ [(name, entry)]) where
  names := Fields.distinct_concat h.names hName
  inner := by
    intro field hField
    rcases List.mem_append.mp hField with hField | hField
    · exact h.inner field hField
    · obtain rfl := List.mem_singleton.mp hField
      exact hEntry

theorem Tidy.set {old : Entry} (h : draft.Tidy) (hName : Fields.find? name draft = some old)
    (hEntry : entry.Tidy) : Tidy (Fields.set name entry draft) where
  names := by
    rw [Fields.Distinct, Fields.map_fst_set hName]
    exact h.names
  inner := by
    intro field hField
    rcases Fields.eq_or_mem_of_mem_set hField with rfl | hField
    · exact hEntry
    · exact h.inner field hField

theorem Tidy.remove (h : draft.Tidy) (name : Text) : Tidy (Fields.remove name draft) where
  names := Fields.distinct_remove h.names
  inner field hField := h.inner field (List.mem_of_mem_filter hField)

/-- A change that keeps tables tidy does so at the end of every path. -/
theorem Tidy.within
    (hChange : ∀ found inner changed, Tidy inner → change found inner = some changed → Tidy changed)
    (h : draft.Tidy) (hResult : within made change origin draft path = some changed) :
    changed.Tidy := by
  induction path generalizing origin draft changed with
  | nil => exact hChange _ _ _ h hResult
  | cons name path ih =>
      rw [Draft.within] at hResult
      split at hResult
      next hNone =>
        obtain ⟨inner, hInner, hSome⟩ := Option.bind_eq_some_iff.mp hResult
        obtain rfl := Option.some.inj hSome
        have hTidy := ih tidy_nil hInner
        exact h.concat hNone (.table hTidy.names hTidy.inner)
      next => cases hResult
      next found entries hTable =>
        split at hResult
        next => cases hResult
        next =>
          obtain ⟨inner, hInner, hSome⟩ := Option.bind_eq_some_iff.mp hResult
          obtain rfl := Option.some.inj hSome
          cases h.find? hTable with
          | table hNames hEntries =>
              have hTidy := ih ⟨hNames, hEntries⟩ hInner
              exact h.set hTable (.table hTidy.names hTidy.inner)
      next => cases hResult
      next latest earlier hTables =>
        obtain ⟨inner, hInner, hSome⟩ := Option.bind_eq_some_iff.mp hResult
        obtain rfl := Option.some.inj hSome
        cases h.find? hTables with
        | tables hNames hEntries =>
            obtain ⟨hLatest, hEarlier⟩ := List.forall_mem_cons.mp hNames
            obtain ⟨hLatestInner, hEarlierInner⟩ := List.forall_mem_cons.mp hEntries
            have hTidy := ih ⟨hLatest, hLatestInner⟩ hInner
            exact h.set hTables (.tables (List.forall_mem_cons.mpr ⟨hTidy.names, hEarlier⟩)
              (List.forall_mem_cons.mpr ⟨hTidy.inner, hEarlierInner⟩))

/-- An assignment keeps a draft tidy, since it is refused where the name is taken. -/
theorem Tidy.assign (h : draft.Tidy) (hValue : v.Tidy)
    (hResult : assign path key v origin draft = some changed) : changed.Tidy := by
  refine h.within (fun found inner changed hInner hChanged => ?_) hResult
  split at hChanged
  next => cases hChanged
  next =>
    split at hChanged
    next => cases hChanged
    next hNone =>
      obtain rfl := Option.some.inj hChanged
      exact hInner.concat (by simpa using hNone) (.value hValue)

theorem Tidy.declare (h : draft.Tidy) (hResult : declare path key draft = some changed) :
    changed.Tidy := by
  refine h.within (fun found inner changed hInner hChanged => ?_) hResult
  split at hChanged
  next hNone =>
    obtain rfl := Option.some.inj hChanged
    exact hInner.concat hNone (.table List.nodup_nil (by simp))
  next entries hTable =>
    obtain rfl := Option.some.inj hChanged
    cases hInner.find? hTable with
    | table hNames hEntries =>
        exact (hInner.remove key).concat Fields.find?_remove (.table hNames hEntries)
  next => cases hChanged

theorem Tidy.extend (h : draft.Tidy) (hResult : extend path key draft = some changed) :
    changed.Tidy := by
  refine h.within (fun found inner changed hInner hChanged => ?_) hResult
  split at hChanged
  next hNone =>
    obtain rfl := Option.some.inj hChanged
    exact hInner.concat hNone (.tables (by simp [Fields.Distinct]) (by simp))
  next elements hTables =>
    obtain rfl := Option.some.inj hChanged
    cases hInner.find? hTables with
    | tables hNames hEntries =>
        exact hInner.set hTables
          (.tables (List.forall_mem_cons.mpr ⟨List.nodup_nil, hNames⟩)
            (List.forall_mem_cons.mpr ⟨by simp, hEntries⟩))
  next => cases hChanged

/-- A draft is finished entry by entry, in the order in which the names came up. -/
theorem finish_eq_map (draft : Draft) :
    finish draft = draft.map fun field => (field.1, finishEntry field.2) := by
  induction draft with
  | nil => rfl
  | cons field draft ih =>
      obtain ⟨name, entry⟩ := field
      rw [finish, ih, List.map_cons]

theorem distinct_finish (h : Fields.Distinct draft) : Fields.Distinct (finish draft) := by
  rw [Fields.Distinct, finish_eq_map, List.map_map]
  exact h

/-- A tidy entry finishes as a tidy value, by recursion on the entry. -/
theorem tidy_finishEntry (h : entry.Tidy) : (finishEntry entry).Tidy := by
  intro fields hTable
  cases h with
  | value hValue => exact hValue fields hTable
  | table hNames =>
      obtain rfl : finish _ = fields := Value.table.inj hTable
      exact distinct_finish hNames
  | tables => cases hTable

theorem Tidy.finish (h : draft.Tidy) : Table.Tidy (finish draft) where
  names := distinct_finish h.names
  inner := by
    intro field hField
    rw [finish_eq_map] at hField
    obtain ⟨source, hSource, rfl⟩ := List.mem_map.mp hField
    exact tidy_finishEntry (h.inner source hSource)

end Draft

/-- One statement keeps the draft tidy. -/
theorem Progress.tidy_take {p next : Progress} {statement : Statement} (h : p.draft.Tidy)
    (hStatement : statement.Tidy) (hNext : p.take statement = some next) : next.draft.Tidy := by
  cases statement with
  | assign path key v =>
      obtain ⟨draft, hDraft, hSome⟩ := Option.bind_eq_some_iff.mp hNext
      obtain rfl := Option.some.inj hSome
      exact h.within (fun _ _ _ hInner hChanged => hInner.assign hStatement hChanged) hDraft
  | table path key =>
      obtain ⟨draft, hDraft, hSome⟩ := Option.bind_eq_some_iff.mp hNext
      obtain rfl := Option.some.inj hSome
      exact h.declare hDraft
  | element path key =>
      obtain ⟨draft, hDraft, hSome⟩ := Option.bind_eq_some_iff.mp hNext
      obtain rfl := Option.some.inj hSome
      exact h.extend hDraft

namespace Table

variable {fields : Table}

/-- What every step keeps holds at the end of all of them. -/
theorem keeps_foldlM {α β : Type} {step : β → α → Option β} {items : List α} {start last : β}
    (keeps : β → Prop) (hStep : ∀ item ∈ items, ∀ state next, keeps state →
      step state item = some next → keeps next)
    (hStart : keeps start) (hLast : items.foldlM step start = some last) : keeps last := by
  induction items generalizing start with
  | nil =>
      obtain rfl : start = last := by simpa using hLast
      exact hStart
  | cons item items ih =>
      obtain ⟨hItem, hRest⟩ := List.forall_mem_cons.mp hStep
      rw [List.foldlM_cons] at hLast
      obtain ⟨next, hNext, hLast⟩ := Option.bind_eq_some_iff.mp hLast
      exact ih hRest (hItem start next hStart hNext) hLast

theorem tidy_ofStatements? {statements : List Statement} (h : ∀ s ∈ statements, s.Tidy)
    (hFields : ofStatements? statements = some fields) : fields.Tidy := by
  obtain ⟨last, hLast, hSome⟩ := Option.bind_eq_some_iff.mp hFields
  obtain rfl := Option.some.inj hSome
  have hTidy : last.draft.Tidy := keeps_foldlM (·.draft.Tidy)
    (fun statement hStatement _ _ hp hNext => Progress.tidy_take hp (h statement hStatement) hNext)
    Draft.tidy_nil hLast
  exact hTidy.finish

/-- An inline table is a draft of its own and hence tidy. -/
theorem tidy_ofPairs? {pairs : List (List Text × Text × Value)}
    (h : ∀ pair ∈ pairs, pair.2.2.Tidy) (hFields : ofPairs? pairs = some fields) :
    fields.Tidy := by
  obtain ⟨last, hLast, hSome⟩ := Option.bind_eq_some_iff.mp hFields
  obtain rfl := Option.some.inj hSome
  have hTidy : Draft.Tidy last := keeps_foldlM Draft.Tidy
    (fun pair hPair _ _ hDraft hNext => hDraft.assign (h pair hPair) hNext) Draft.tidy_nil hLast
  exact hTidy.finish

end Table

variable {t rest : Text} {v : Value} {fuel depth : Nat}

theorem tidy_of_readBased {base : Nat} {isDigit : Char → Bool}
    (h : readBased base isDigit t = some (v, rest)) : v.Tidy := by
  obtain ⟨⟨ds, after⟩, -, h⟩ := Option.bind_eq_some_iff.mp h
  dsimp only at h
  split at h
  next =>
    obtain ⟨rfl, -⟩ : Value.integer _ = v ∧ _ := by simpa using h
    simp [Value.Tidy]
  next => cases h

theorem tidy_of_readDecimal (h : readDecimal t = some (v, rest)) : v.Tidy := by
  rw [readDecimal] at h
  rcases hSign : takeSign t with ⟨sign, afterSign⟩
  simp only [hSign] at h
  obtain ⟨⟨whole, afterWhole⟩, -, h⟩ := Option.bind_eq_some_iff.mp h
  dsimp only at h
  split at h
  next => cases h
  next =>
    obtain ⟨⟨fraction, afterFraction⟩, -, h⟩ := Option.bind_eq_some_iff.mp h
    obtain ⟨⟨exponent, afterExponent⟩, -, h⟩ := Option.bind_eq_some_iff.mp h
    dsimp only at h
    split at h
    next =>
      split at h
      next =>
        obtain ⟨rfl, -⟩ := Prod.mk.inj (Option.some.inj h)
        simp [Value.Tidy]
      next => cases h
    next =>
      split at h
      next => cases h
      next =>
        obtain ⟨rfl, -⟩ := Prod.mk.inj (Option.some.inj h)
        simp [Value.Tidy]

theorem tidy_of_readNumber (h : readNumber t = some (v, rest)) : v.Tidy := by
  rw [readNumber.eq_def] at h
  split at h
  next => exact tidy_of_readBased h
  next => exact tidy_of_readBased h
  next => exact tidy_of_readBased h
  next =>
    split at h
    next =>
      obtain ⟨rfl, -⟩ : Value.float _ = v ∧ _ := by simpa using h
      simp [Value.Tidy]
    next =>
      obtain ⟨rfl, -⟩ : Value.float _ = v ∧ _ := by simpa using h
      simp [Value.Tidy]
    next => exact tidy_of_readDecimal h

/-- Values that are read are tidy. Values and the pairs of an inline table are read by mutual
recursion, which spends fuel at each step. -/
theorem tidy_of_readValue_and_readPairs (fuel : Nat) :
    (∀ depth t v rest, readValue fuel depth t = some (v, rest) → v.Tidy) ∧
      ∀ depth t pairs rest, readPairs fuel depth t = some (pairs, rest) →
        ∀ pair ∈ pairs, pair.2.2.Tidy := by
  induction fuel with
  | zero => simp [readValue, readPairs]
  | succ fuel ih =>
      obtain ⟨ihValue, ihPairs⟩ := ih
      constructor
      · intro depth t v rest h
        rw [readValue.eq_def] at h
        dsimp only at h
        split at h
        next =>
          obtain ⟨⟨s, after⟩, -, hSome⟩ := Option.map_eq_some_iff.mp h
          obtain ⟨rfl, -⟩ := Prod.mk.inj hSome
          simp [Value.Tidy]
        next =>
          obtain ⟨⟨s, after⟩, -, hSome⟩ := Option.map_eq_some_iff.mp h
          obtain ⟨rfl, -⟩ := Prod.mk.inj hSome
          simp [Value.Tidy]
        next =>
          obtain ⟨rfl, -⟩ := Prod.mk.inj (Option.some.inj h)
          simp [Value.Tidy]
        next =>
          obtain ⟨rfl, -⟩ := Prod.mk.inj (Option.some.inj h)
          simp [Value.Tidy]
        next =>
          split at h
          next => cases h
          next =>
            obtain ⟨⟨items, after⟩, -, hSome⟩ := Option.map_eq_some_iff.mp h
            obtain ⟨rfl, -⟩ := Prod.mk.inj hSome
            simp [Value.Tidy]
        next =>
          split at h
          next => cases h
          next =>
            split at h
            next =>
              obtain ⟨rfl, -⟩ := Prod.mk.inj (Option.some.inj h)
              simp [Value.Tidy, Fields.Distinct]
            next =>
              obtain ⟨⟨pairs, after⟩, hPairs, h⟩ := Option.bind_eq_some_iff.mp h
              obtain ⟨fields, hFields, hSome⟩ := Option.bind_eq_some_iff.mp h
              obtain ⟨rfl, -⟩ := Prod.mk.inj (Option.some.inj hSome)
              have hTidy := Table.tidy_ofPairs? (ihPairs _ _ _ _ hPairs) hFields
              intro found hFound
              obtain rfl := Value.table.inj hFound
              exact hTidy.names
        next =>
          split at h
          next =>
            obtain ⟨rfl, -⟩ := Prod.mk.inj (Option.some.inj h)
            simp [Value.Tidy]
          next => exact tidy_of_readNumber h
      · intro depth t pairs rest h
        rw [readPairs] at h
        obtain ⟨⟨path, key, after⟩, -, h⟩ := Option.bind_eq_some_iff.mp h
        dsimp only at h
        split at h
        next =>
          obtain ⟨⟨v, afterValue⟩, hValue, h⟩ := Option.bind_eq_some_iff.mp h
          have hTidy := ihValue _ _ _ _ hValue
          dsimp only at h
          split at h
          next =>
            obtain ⟨rfl, -⟩ := Prod.mk.inj (Option.some.inj h)
            exact List.forall_mem_singleton.mpr hTidy
          next =>
            obtain ⟨⟨others, afterOthers⟩, hOthers, h⟩ := Option.bind_eq_some_iff.mp h
            obtain ⟨rfl, -⟩ := Prod.mk.inj (Option.some.inj h)
            exact List.forall_mem_cons.mpr ⟨hTidy, ihPairs _ _ _ _ hOthers⟩
          next => cases h
        next => cases h

theorem tidy_of_readStatement {statement : Statement}
    (h : readStatement t = some (statement, rest)) : statement.Tidy := by
  rw [readStatement.eq_def] at h
  split at h
  next =>
    obtain ⟨⟨path, key, after⟩, -, h⟩ := Option.bind_eq_some_iff.mp h
    split at h
    next =>
      obtain ⟨after, -, h⟩ := Option.bind_eq_some_iff.mp h
      obtain ⟨rfl, -⟩ := Prod.mk.inj (Option.some.inj h)
      trivial
    next => cases h
  next =>
    obtain ⟨⟨path, key, after⟩, -, h⟩ := Option.bind_eq_some_iff.mp h
    split at h
    next =>
      obtain ⟨after, -, h⟩ := Option.bind_eq_some_iff.mp h
      obtain ⟨rfl, -⟩ := Prod.mk.inj (Option.some.inj h)
      trivial
    next => cases h
  next =>
    obtain ⟨⟨path, key, after⟩, -, h⟩ := Option.bind_eq_some_iff.mp h
    dsimp only at h
    split at h
    next =>
      obtain ⟨⟨v, after⟩, hAssigned, h⟩ := Option.bind_eq_some_iff.mp h
      obtain ⟨rfl, -⟩ := Prod.mk.inj (Option.some.inj h)
      obtain ⟨⟨v, after⟩, hValue, h⟩ := Option.bind_eq_some_iff.mp hAssigned
      obtain ⟨after, -, h⟩ := Option.bind_eq_some_iff.mp h
      obtain ⟨rfl, -⟩ := Prod.mk.inj (Option.some.inj h)
      exact (tidy_of_readValue_and_readPairs _).1 _ _ _ _ hValue
    next => cases h

/-- The statements of a text assign tidy values only. -/
theorem tidy_of_readStatements {statements : List Statement}
    (h : readStatements fuel t = some statements) : ∀ s ∈ statements, s.Tidy := by
  induction fuel generalizing t statements with
  | zero => simp [readStatements] at h
  | succ fuel ih =>
      rw [readStatements] at h
      split at h
      next =>
        obtain rfl := Option.some.inj h
        simp
      next =>
        obtain ⟨⟨statement, after⟩, hFirst, h⟩ := Option.bind_eq_some_iff.mp h
        obtain ⟨others, hOthers, h⟩ := Option.bind_eq_some_iff.mp h
        obtain rfl := Option.some.inj h
        exact List.forall_mem_cons.mpr ⟨tidy_of_readStatement hFirst, ih hOthers⟩

/-- No name occurs twice in a table that is read, nor in the tables right inside it. -/
theorem tidy_of_read? {fields : Table} (h : read? t = some fields) : fields.Tidy := by
  obtain ⟨statements, hStatements, hFields⟩ := Option.bind_eq_some_iff.mp h
  exact Table.tidy_ofStatements? (tidy_of_readStatements hStatements) hFields

end Rubric.Toml
