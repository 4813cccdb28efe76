import Rubric.Proofs.Edit.Isolation

/-! Applying rules twice. Where no condition asks for a key that the rules write, the first
application changes no match, so the same rules win again. What they write is there already: each
entry of the second log replaces a value by itself, and the document stays as it is. -/
namespace Rubric

/-- The entry of a write that finds its own value under the key. -/
def Modification.repeated (m : Modification) : Modification :=
  { m with previous := some m.value }

/-- Putting a pair that is the first of its key already changes no line. -/
theorem Line.put_eq_self {lines : List Line} {key value : Text}
    (h : lines.find? (·.key == some key) = some (ofPair key value)) :
    put key value lines = lines := by
  induction lines with
  | nil => simp at h
  | cons line rest ih =>
      rw [put]
      split
      next hKey =>
        obtain rfl : line = ofPair key value := by simpa [hKey] using h
        rfl
      next hKey => rw [ih (by simpa [hKey] using h)]

namespace Section

variable {K : Set Text} {s : Section} {above log : List Modification} {r : Rule} {rules : List Rule}
  {key value : Text}

theorem put_eq_self (h : s.first? key = some (.ofPair key value)) : s.put key value = s := by
  rw [put, Line.put_eq_self h]

/-- Writes that find their own lines in place change nothing. -/
theorem after_eq_self (h : ∀ m ∈ log, s.first? m.key = some m.line) : s.after log = s := by
  induction log with
  | nil => rfl
  | cons m log ih =>
      obtain ⟨hFirst, hRest⟩ := List.forall_mem_cons.mp h
      rw [← List.singleton_append, after_append, after_singleton, put_eq_self hFirst, ih hRest]

/-- Writes under keys that no condition of a rule asks for do not change whether it matches. -/
theorem matches?_after (hReads : ∀ c ∈ r.conditions, c.key ∉ K) (hLog : ∀ m ∈ log, m.key ∈ K) :
    r.matches? (s.after log) = r.matches? s := by
  classical
  have hAgree : AgreeOn Kᶜ (s.after log) (s.after (log.filter (·.key ∈ (∅ : Set Text)))) :=
    agreeOn_after fun m hm hOutside => absurd (hLog m hm) hOutside
  simpa using hAgree.matches?_eq hReads

/-- Where no condition reads what is written, a rule wins the second time if it won the first
time. -/
theorem wins_after_iff (hReads : ∀ c ∈ r.conditions, c.key ∉ K) (hLog : ∀ m ∈ log, m.key ∈ K)
    (hAbove : ∀ m ∈ above, m.key ∈ K) :
    r.Wins (s.after log) (above.map Modification.repeated) ↔ r.Wins s above := by
  have hRepeated : ∀ m ∈ above.map Modification.repeated, m.key ∈ K :=
    List.forall_mem_map.mpr hAbove
  rw [Rule.Wins, Rule.Wins, matches?_after hReads hRepeated, matches?_after hReads hLog,
    matches?_after hReads hAbove, List.forall_mem_map]
  rfl

/-- A rule whose own value stands under its key records that it replaces the value by itself. -/
theorem entry_after_eq (hFresh : ∀ m ∈ above, m.key ≠ r.key)
    (hSettled : (s.after log).value? r.key = some r.value) :
    r.entry ((s.after log).after (above.map Modification.repeated)) =
      (r.entry (s.after above)).repeated := by
  have hRepeated : ∀ m ∈ above.map Modification.repeated, m.key ≠ r.key :=
    List.forall_mem_map.mpr hFresh
  simp [Rule.entry, Modification.repeated, value?_after_of_forall_ne hRepeated, hSettled]

/-- The ledger of rules in a section that writes of theirs have changed before. A rule wins there
exactly where it won at first, and it records a repetition where its value has been left under its
key. -/
theorem ledger_after (hReads : ∀ r ∈ rules, ∀ c ∈ r.conditions, c.key ∉ K)
    (hWrites : ∀ r ∈ rules, r.key ∈ K) (hLog : ∀ m ∈ log, m.key ∈ K)
    (hAbove : ∀ m ∈ above, m.key ∈ K)
    (hSettled : ∀ m ∈ (s.ledger above rules).reduceOption,
      (s.after log).value? m.key = some m.value) :
    (s.after log).ledger (above.map Modification.repeated) rules =
      (s.ledger above rules).map (·.map Modification.repeated) := by
  induction rules generalizing above with
  | nil => rfl
  | cons r rest ih =>
      obtain ⟨hReadsFirst, hReadsRest⟩ := List.forall_mem_cons.mp hReads
      obtain ⟨hWritesFirst, hWritesRest⟩ := List.forall_mem_cons.mp hWrites
      have hSame := wins_after_iff (s := s) hReadsFirst hLog hAbove
      rw [ledger] at hSettled
      rw [ledger, ledger]
      by_cases hWins : r.Wins s above
      · rw [if_pos hWins, List.reduceOption_cons_of_some] at hSettled
        obtain ⟨hSettledFirst, hSettledRest⟩ := List.forall_mem_cons.mp hSettled
        have hNext : ∀ m ∈ above ++ [r.entry (s.after above)], m.key ∈ K := by
          simpa [or_imp, forall_and, Rule.entry] using ⟨hAbove, hWritesFirst⟩
        have hLater := ih hReadsRest hWritesRest hNext hSettledRest
        rw [List.map_append, List.map_singleton] at hLater
        rw [if_pos hWins, if_pos (hSame.mpr hWins), entry_after_eq hWins.2 hSettledFirst, hLater]
        rfl
      · rw [if_neg hWins, List.reduceOption_cons_of_none] at hSettled
        rw [if_neg hWins, if_neg (mt hSame.mp hWins), ih hReadsRest hWritesRest hAbove hSettled]
        rfl

section

variable (hCompiles : ∀ r ∈ rules, r.Compiles)
include hCompiles

/-- The rules that wrote in a section write there again, over their own values. -/
theorem sublog_after_sublog
    (hConditions : ∀ r ∈ rules, ∀ c ∈ r.conditions, ∀ other ∈ rules, other.key ≠ c.key)
    (s : Section) :
    (s.after (s.sublog rules)).sublog rules = (s.sublog rules).map Modification.repeated := by
  have hLog : ∀ m ∈ s.sublog rules, m.key ∈ {key | ∃ r ∈ rules, r.key = key} := by
    intro m hm
    obtain ⟨r, hr, hMade⟩ := exists_made_of_mem_sublog hCompiles hm
    exact ⟨r, hr, hMade.key.symm⟩
  have hReads : ∀ r ∈ Rule.ranked rules, ∀ c ∈ r.conditions,
      c.key ∉ {key | ∃ r ∈ rules, r.key = key} := by
    rintro r hr c hc ⟨other, hOther, hKey⟩
    exact hConditions r (Rule.mem_ranked.mp hr) c hc other hOther hKey
  have hWrites : ∀ r ∈ Rule.ranked rules, r.key ∈ {key | ∃ r ∈ rules, r.key = key} :=
    fun r hr => ⟨r, Rule.mem_ranked.mp hr, rfl⟩
  have hSublog : s.sublog rules = (s.ledger [] (Rule.ranked rules)).reduceOption := by
    rw [sublog_eq_entries hCompiles, entries_eq_reduceOption_ledger]
  have hSettled : ∀ m ∈ (s.ledger [] (Rule.ranked rules)).reduceOption,
      (s.after (s.sublog rules)).value? m.key = some m.value := by
    intro m hm
    rw [← hSublog] at hm
    rw [value?, first?_after_of_mem (s.records_sublog hCompiles).distinct hm]
    rfl
  have hLedger := ledger_after hReads hWrites hLog (by simp) hSettled
  rw [sublog_eq_entries hCompiles (s.after (s.sublog rules)), entries_eq_reduceOption_ledger,
    ← List.map_nil (f := Modification.repeated), hLedger, List.reduceOption_map, ← hSublog]

/-- The second log writes what stands there. -/
theorem after_after_repeated (s : Section) :
    (s.after (s.sublog rules)).after ((s.sublog rules).map Modification.repeated) =
      s.after (s.sublog rules) := by
  apply after_eq_self
  rw [List.forall_mem_map]
  intro m hm
  have hFirst : (s.after (s.sublog rules)).first? m.key = some m.line :=
    first?_after_of_mem (s.records_sublog hCompiles).distinct hm
  exact hFirst

end

end Section

/-- Applying rules is idempotent where no condition of theirs names a key that one of them writes.
A second application leaves all sections as the first one left them, and its log is the first one
with the new value of each entry as its previous value. -/
theorem Document.apply_idempotent (document : Document) (rules : List Rule)
    (hCompiles : ∀ r ∈ rules, r.Compiles)
    (hConditions : ∀ r ∈ rules, ∀ c ∈ r.conditions, ∀ other ∈ rules, other.key ≠ c.key) :
    ∃ log, (document.apply rules).result = .ok log ∧
      ((document.apply rules).document.apply rules).document = (document.apply rules).document ∧
      ((document.apply rules).document.apply rules).result =
        .ok (log.map fun m => { m with previous := some m.value }) := by
  have hSublog := Section.sublog_after_sublog hCompiles hConditions
  refine ⟨_, apply_result hCompiles document, ?_, ?_⟩
  · rw [apply_document hCompiles (document.apply rules).document, apply_document hCompiles,
      List.map_map]
    apply List.map_congr_left
    intro s _
    rw [Function.comp_apply, hSublog, Section.after_after_repeated hCompiles]
  · rw [apply_result hCompiles, apply_document hCompiles, List.flatMap_map, List.map_flatMap]
    simp only [hSublog]
    rfl

def Rule.steadfast : List Rule :=
  [⟨"rewrite".toList, "A".toList, "foo".toList, "2".toList, 2, []⟩,
    ⟨"add".toList, "".toList, "run".toList, "y".toList, 1,
      [⟨"kind".toList, "raw".toList, .equals⟩]⟩]

/-- The second application tells as previous values what the first one wrote. -/
theorem Document.apply_idempotent_steadfast :
    (∀ r ∈ Rule.steadfast, r.Compiles) ∧
      (∀ r ∈ Rule.steadfast, ∀ c ∈ r.conditions, ∀ other ∈ Rule.steadfast, other.key ≠ c.key) ∧
      ∃ left, (Document.apply Rule.steadfast
          [Section.contested.push (.read "kind = raw".toList)]).document = left ∧
        (left.apply Rule.steadfast).document = left ∧
        (left.apply Rule.steadfast).result =
          .ok [⟨"A".toList, "rewrite".toList, "foo".toList, some "2".toList, "2".toList⟩,
            ⟨"A".toList, "add".toList, "run".toList, some "y".toList, "y".toList⟩] := by
  have hCompiles : ∀ r ∈ Rule.steadfast, r.Compiles := by decide +kernel
  have hConditions : ∀ r ∈ Rule.steadfast, ∀ c ∈ r.conditions, ∀ other ∈ Rule.steadfast,
      other.key ≠ c.key := by
    decide
  have hRanked : Rule.ranked Rule.steadfast = Rule.steadfast :=
    List.mergeSort_of_pairwise (by decide)
  obtain ⟨log, hResult, hDocument, hAgain⟩ := apply_idempotent
    [Section.contested.push (.read "kind = raw".toList)] Rule.steadfast hCompiles hConditions
  obtain rfl : log = Section.contestedLog := by
    rw [apply_result hCompiles, List.flatMap_singleton, Section.sublog_eq_entries hCompiles,
      hRanked] at hResult
    exact (Except.ok.inj hResult).symm.trans (by decide +kernel)
  exact ⟨hCompiles, hConditions, _, rfl, hDocument, hAgain⟩

end Rubric
