import Mathlib.Data.List.Forall2
import Rubric.Proofs.Edit.Ledger

/-! What a log says about the section it was made in. Every line that differs from the old section
is accounted for by an entry, and the entries fix the lines of the new section. -/
namespace Rubric

/-- A log accounts for the lines of `t` by those of `s`. An entry without a previous value has no
line of its key in `s`; the lines of these entries stand behind all old lines, in the order of the
log. Any other entry has replaced the first line of its key, which had the previous value. No other
old line has changed or moved. -/
structure Section.Accounts (s : Section) (log : List Modification) (t : Section) : Prop where
  previous_eq_none_iff : ∀ m ∈ log, m.previous = none ↔ ∀ line ∈ s.lines, line.key ≠ some m.key
  replaced : ∀ m ∈ log, ∀ old, m.previous = some old → ∃ i line, s.position? m.key = some i ∧
    s.lines[i]? = some line ∧ line.value = some old ∧ t.lines[i]? = some m.line
  kept : ∀ i < s.lines.length, (∀ m ∈ log, s.position? m.key ≠ some i) →
    t.lines[i]? = s.lines[i]?
  added : t.lines.drop s.lines.length =
    (log.filter (·.previous.isNone)).map Modification.line

namespace Section

variable {s t u : Section} {log : List Modification} {m : Modification} {key : Text} {i : Nat}

/-- An old line stays as it is when it is not the first line of a key that is written. -/
theorem getElem?_lines_after_of_forall_ne (hDistinct : (log.map (·.key)).Nodup)
    (hi : i < s.lines.length) (h : ∀ m ∈ log, s.position? m.key ≠ some i) :
    (s.after log).lines[i]? = s.lines[i]? := by
  induction log using List.reverseRecOn with
  | nil => rfl
  | append_singleton log m ih =>
      obtain ⟨hLog, hFresh⟩ := Modification.nodup_keys_concat_iff.mp hDistinct
      simp only [List.mem_append, List.mem_singleton, or_imp, forall_and, forall_eq] at h
      rw [after_append, after_singleton,
        getElem?_lines_put (Nat.lt_of_lt_of_le hi length_lines_le_after),
        position?_after_of_forall_ne hFresh, if_neg h.2, ih hLog h.1]

/-- The first line of a key is replaced by the line of the one entry that writes it. -/
theorem getElem?_lines_after_of_mem (hDistinct : (log.map (·.key)).Nodup) (hm : m ∈ log)
    (hPosition : s.position? m.key = some i) : (s.after log).lines[i]? = some m.line := by
  have hi := lt_of_position? hPosition
  induction log using List.reverseRecOn with
  | nil => simp at hm
  | append_singleton log last ih =>
      obtain ⟨hLog, hFresh⟩ := Modification.nodup_keys_concat_iff.mp hDistinct
      rw [after_append, after_singleton,
        getElem?_lines_put (Nat.lt_of_lt_of_le hi length_lines_le_after),
        position?_after_of_forall_ne hFresh]
      rcases List.mem_append.mp hm with hm | hm
      · have hOther : s.position? last.key ≠ some i := by
          intro hLast
          exact hFresh m hm (position?_inj hPosition hLast)
        rw [if_neg hOther, ih hLog hm]
      · obtain rfl := List.mem_singleton.mp hm
        rw [if_pos hPosition, Modification.ofPair_eq_line]

/-- Behind the old lines stand the lines of the entries whose key had none. -/
theorem drop_lines_after (hDistinct : (log.map (·.key)).Nodup) :
    (s.after log).lines.drop s.lines.length =
      (log.filter fun m => (s.position? m.key).isNone).map Modification.line := by
  induction log using List.reverseRecOn with
  | nil => simp
  | append_singleton log m ih =>
      obtain ⟨hLog, hFresh⟩ := Modification.nodup_keys_concat_iff.mp hDistinct
      have hPosition := position?_after_of_forall_ne (s := s) hFresh
      rw [after_append, after_singleton, List.filter_append, List.map_append, ← ih hLog]
      cases h : s.position? m.key with
      | none =>
          rw [lines_put_of_position?_eq_none (hPosition.trans h),
            List.drop_append_of_le_length length_lines_le_after]
          simp [h, Modification.ofPair_eq_line]
      | some i =>
          rw [lines_put_of_position?_eq_some (hPosition.trans h),
            List.drop_set_of_lt (lt_of_position? h)]
          simp [h]

theorem Records.accounts (h : s.Records log) : s.Accounts log (s.after log) where
  previous_eq_none_iff m hm := by
    rw [h.previous m hm, value?_eq_none_iff]
  replaced m hm old hOld := by
    rw [h.previous m hm, value?, first?_eq_bind_position?] at hOld
    obtain ⟨line, hLine, hValue⟩ := Option.bind_eq_some_iff.mp hOld
    obtain ⟨i, hPosition, hFound⟩ := Option.bind_eq_some_iff.mp hLine
    exact ⟨i, line, hPosition, hFound, hValue,
      getElem?_lines_after_of_mem h.distinct hm hPosition⟩
  kept i hi hOther := getElem?_lines_after_of_forall_ne h.distinct hi hOther
  added := by
    rw [drop_lines_after h.distinct]
    congr 1
    apply List.filter_congr
    intro m hm
    rw [h.previous m hm, Bool.eq_iff_iff, Option.isNone_iff_eq_none, Option.isNone_iff_eq_none,
      value?_eq_none_iff, position?_eq_none_iff]

/-- Old lines and entries leave no choice for the new lines. -/
theorem Accounts.lines_unique (ht : s.Accounts log t) (hu : s.Accounts log u) :
    t.lines = u.lines := by
  apply List.ext_getElem?
  intro i
  by_cases hi : i < s.lines.length
  · by_cases hWritten : ∃ m ∈ log, s.position? m.key = some i
    · obtain ⟨m, hm, hPosition⟩ := hWritten
      obtain ⟨old, hOld⟩ : ∃ old, m.previous = some old := by
        rw [← Option.ne_none_iff_exists', ne_eq, ht.previous_eq_none_iff m hm,
          ← position?_eq_none_iff, hPosition]
        simp
      obtain ⟨j, -, hj, -, -, htLine⟩ := ht.replaced m hm old hOld
      obtain ⟨k, -, hk, -, -, huLine⟩ := hu.replaced m hm old hOld
      obtain rfl : i = j := by simpa [hPosition] using hj
      obtain rfl : i = k := by simpa [hPosition] using hk
      rw [htLine, huLine]
    · have hOther : ∀ m ∈ log, s.position? m.key ≠ some i :=
        fun m hm hPosition => hWritten ⟨m, hm, hPosition⟩
      rw [ht.kept i hi hOther, hu.kept i hi hOther]
  · have hDrop : t.lines.drop s.lines.length = u.lines.drop s.lines.length :=
      ht.added.trans hu.added.symm
    have hIndex : s.lines.length + (i - s.lines.length) = i := by omega
    rw [← hIndex, ← List.getElem?_drop, ← List.getElem?_drop, hDrop]

end Section

/-- Applying rules whose patterns compile leaves the number, names and headers of sections and the
preamble as they were. In every other section the lines differ from the old ones only by what its
own sub-log accounts for, and the old lines and the sub-log admit no other lines. -/
theorem Document.apply_accounts (document : Document) (rules : List Rule)
    (hCompiles : ∀ r ∈ rules, r.Compiles) :
    (document.apply rules).result = .ok (document.flatMap fun s => s.sublog rules) ∧
      List.Forall₂ (fun s t =>
        t.name = s.name ∧ t.header = s.header ∧ (s.isPreamble = true → t = s) ∧
        (s.isPreamble = false → s.Accounts (s.sublog rules) t ∧
          ∀ u, s.Accounts (s.sublog rules) u → u.lines = t.lines))
        document (document.apply rules).document := by
  refine ⟨apply_result hCompiles document, ?_⟩
  rw [apply_document hCompiles, List.forall₂_map_right_iff, List.forall₂_same]
  intro s _
  have hAccounts := (s.records_sublog hCompiles).accounts
  refine ⟨Section.after_name, Section.after_header, ?_, ?_⟩
  · intro hPreamble
    simp [Section.sublog_eq_entries hCompiles, Section.entries, hPreamble]
  · intro _
    exact ⟨hAccounts, fun u hu => hu.lines_unique hAccounts⟩

/-- The lines of a contested section after all three rules. -/
theorem Document.apply_accounts_rivals :
    (∀ r ∈ Rule.rivals, r.Compiles) ∧
      ∃ t, (Document.apply Rule.rivals [.contested]).document = [t] ∧
        Section.contested.Accounts Section.contestedLog t := by
  have h := (apply_accounts [.contested] Rule.rivals Rule.compiles_rivals).2
  rw [apply_document Rule.compiles_rivals] at h ⊢
  obtain ⟨-, -, -, hAccounts⟩ := (List.forall₂_cons.mp h).1
  refine ⟨Rule.compiles_rivals, _, rfl, ?_⟩
  rw [← Section.sublog_rivals_contested]
  exact (hAccounts (by decide)).1

end Rubric
