import Rubric.Proofs.Edit.Winners

/-! The trace that rules leave behind. Each turn of a rule in a section is reported unless the rule
does not match there, and the reports stand in the order of the turns. So the trace tells the writes
that the log tells, and of a rule that matched and did not write it tells the reason: a report
before its own names the key as written. -/
namespace Rubric

/-- The section, the rule and the key of a write that an event tells of. -/
def Event.written? : Event → Option (Text × Text × Text)
  | applied sectionName rule key => some (sectionName, rule, key)
  | _ => none

/-- The section, the rule and the key of the write behind an entry. -/
def Modification.written (m : Modification) : Text × Text × Text :=
  (m.sectionName, m.ruleName, m.key)

/-- The trace has a place for each rule of the ranking, beside its place in the ledger. A rule that
fills the one reports its write in the other. A rule that matches the section as better ranked rules
have left it, but finds its key among their entries, reports that, and one of them has reported the
write before. A rule that does not match reports nothing. -/
structure Section.Traces (s : Section) (ranked : List Rule) (ledger : List (Option Modification))
    (told : List (Option Event)) : Prop where
  length_eq : told.length = ranked.length
  applied_iff : ∀ (i : Nat) (r : Rule), ranked[i]? = some r →
    (told[i]? = some (some (.applied s.name r.name r.key)) ↔ ∃ m, ledger[i]? = some (some m))
  alreadyWritten_iff : ∀ (i : Nat) (r : Rule), ranked[i]? = some r →
    (told[i]? = some (some (.alreadyWritten s.name r.name r.key)) ↔
      r.matches? (s.after (ledger.take i).reduceOption) = some true ∧
        ∃ m ∈ (ledger.take i).reduceOption, m.key = r.key)
  silent_iff : ∀ (i : Nat) (r : Rule), ranked[i]? = some r →
    (told[i]? = some none ↔ r.matches? (s.after (ledger.take i).reduceOption) ≠ some true)
  preceded : ∀ (i : Nat) (sectionName rule key : Text),
    told[i]? = some (some (.alreadyWritten sectionName rule key)) →
      ∃ j < i, ∃ better, ranked[j]? = some better ∧ better.key = key ∧
        told[j]? = some (some (.applied sectionName better.name key))

namespace Rule

variable {r : Rule} {s : Section} {above : List Modification} {sectionName name key : Text}

/-- A rule is told as applied just when it wins. -/
theorem report?_eq_applied_iff :
    r.report? s above = some (.applied s.name r.name r.key) ↔ r.Wins s above := by
  rw [report?, Wins]
  by_cases hMatches : r.matches? (s.after above) = some true
  · by_cases hTaken : ∃ m ∈ above, m.key = r.key
    · simp [hMatches, hTaken]
    · have hFresh : ∀ m ∈ above, m.key ≠ r.key := fun m hm hKey => hTaken ⟨m, hm, hKey⟩
      rw [if_pos hMatches, if_neg hTaken]
      exact iff_of_true rfl ⟨hMatches, hFresh⟩
  · simp [hMatches]

/-- It is told as late just when it matches and its key is taken. -/
theorem report?_eq_alreadyWritten_iff :
    r.report? s above = some (.alreadyWritten sectionName name key) ↔
      (s.name = sectionName ∧ r.name = name ∧ r.key = key) ∧
        r.matches? (s.after above) = some true ∧ ∃ m ∈ above, m.key = r.key := by
  rw [report?]
  by_cases hMatches : r.matches? (s.after above) = some true
  · by_cases hTaken : ∃ m ∈ above, m.key = r.key
    · simp [hMatches, hTaken]
    · simp [hMatches, hTaken]
  · simp [hMatches]

/-- It is not told at all just when it does not match. -/
theorem report?_eq_none_iff :
    r.report? s above = none ↔ r.matches? (s.after above) ≠ some true := by
  rw [report?]
  split
  next hMatches => split <;> simp [hMatches]
  next hMatches => simpa using hMatches

/-- Only a rule that wins tells of a write. -/
theorem bind_written?_report? : (r.report? s above).bind Event.written? =
    if r.Wins s above then some (r.entry (s.after above)).written else none := by
  split
  next hWins =>
    rw [report?_eq_applied_iff.mpr hWins]
    simp [Event.written?, Modification.written, entry]
  next hLoses =>
    rw [← report?_eq_applied_iff] at hLoses
    rw [report?] at hLoses ⊢
    split at hLoses
    next => split at hLoses <;> simp_all [Event.written?]
    next => simp_all

end Rule

namespace Section

variable {s : Section} {above : List Modification} {rules : List Rule} {r : Rule} {i : Nat}

theorem length_reports : (s.reports above rules).length = rules.length := by
  induction rules generalizing above with
  | nil => rfl
  | cons r rest ih => simp [reports, ih]

/-- A rule reports on its turn behind the entries in the places before its own. -/
theorem getElem?_reports (hr : rules[i]? = some r) : (s.reports above rules)[i]? =
    some (r.report? s (above ++ ((s.ledger above rules).take i).reduceOption)) := by
  induction rules generalizing above i with
  | nil => simp at hr
  | cons first rest ih =>
      rw [reports, ledger]
      cases i with
      | zero =>
          obtain rfl : first = r := by simpa using hr
          simp
      | succ i =>
          have hRest : rest[i]? = some r := by simpa using hr
          rw [List.getElem?_cons_succ, ih hRest]
          split <;> simp

/-- The reports on writes are those of the entries, in the same order. -/
theorem filterMap_written?_reports : (s.reports above rules).reduceOption.filterMap Event.written? =
    (s.ledger above rules).reduceOption.map Modification.written := by
  induction rules generalizing above with
  | nil => rfl
  | cons r rest ih =>
      have hReport : (r.report? s above).bind Event.written? = _ := Rule.bind_written?_report?
      rw [reports, ledger]
      split at hReport
      next hWins =>
        obtain ⟨e, hEvent, hWritten⟩ := Option.bind_eq_some_iff.mp hReport
        simp [hWins, hEvent, hWritten, ih]
      next hLoses =>
        cases hEvent : r.report? s above with
        | none => simp [hLoses, ih]
        | some e =>
            have hSilent : e.written? = none := by simpa [hEvent] using hReport
            simp [hLoses, hSilent, ih]

/-- The reports of the rules are a trace of their ledger. -/
theorem traces_reports (s : Section) (ranked : List Rule) :
    s.Traces ranked (s.ledger [] ranked) (s.reports [] ranked) where
  length_eq := length_reports
  applied_iff i r hr := by
    rw [getElem?_reports hr, getElem?_ledger hr]
    simp only [List.nil_append, Option.some.injEq, Rule.report?_eq_applied_iff]
    split <;> simp_all
  alreadyWritten_iff i r hr := by
    rw [getElem?_reports hr]
    simp [Rule.report?_eq_alreadyWritten_iff]
  silent_iff i r hr := by
    rw [getElem?_reports hr]
    simp [Rule.report?_eq_none_iff]
  preceded i sectionName rule key hTaken := by
    have hLength : (s.reports [] ranked).length = ranked.length := length_reports
    have hBound : i < ranked.length := hLength ▸ (List.getElem?_eq_some_iff.mp hTaken).1
    have hr := List.getElem?_eq_getElem hBound
    rw [getElem?_reports hr, Option.some.injEq, Rule.report?_eq_alreadyWritten_iff] at hTaken
    obtain ⟨⟨rfl, -, rfl⟩, -, m, hm, hKey⟩ := hTaken
    rw [List.nil_append, List.reduceOption_mem_iff, List.mem_iff_getElem?] at hm
    obtain ⟨j, hPlace⟩ := hm
    obtain ⟨hj, hPlace⟩ : j < i ∧ (s.ledger [] ranked)[j]? = some (some m) := by
      simpa [List.getElem?_take] using hPlace
    have hBetter := List.getElem?_eq_getElem (Nat.lt_trans hj hBound)
    obtain ⟨hWins, rfl⟩ := (decides_ledger.entry_iff j _ m hBetter).mp hPlace
    refine ⟨j, hj, _, hBetter, hKey, ?_⟩
    rw [← hKey, getElem?_reports hBetter, Option.some.injEq, Rule.report?_eq_applied_iff]
    exact hWins

end Section

/-- The trace of an application of rules whose patterns compile. It has the reports on the sections
in their order, and in the end the numbers of all sections, rules and entries. In a section other
than the preamble every rule of the ranking reports in its turn: its write where it makes the entry,
the key that it came too late for where it matches and one ranked better has written that key, and
otherwise nothing. The writes that the trace tells of are those of the log. -/
theorem Document.apply_traces (document : Document) (rules : List Rule)
    (hCompiles : ∀ r ∈ rules, r.Compiles) :
    ∃ log, (document.apply rules).result = .ok log ∧
      log = document.flatMap (·.sublog rules) ∧
      Rule.IsRanking rules (Rule.ranked rules) ∧
      (document.apply rules).events =
        (document.flatMap fun s => (s.trace (Rule.ranked rules)).reduceOption) ++
          [.finished document.length rules.length log.length] ∧
      (∀ s ∈ document, (s.isPreamble = true → s.trace (Rule.ranked rules) = []) ∧
        (s.isPreamble = false → ∃ ledger, s.Decides (Rule.ranked rules) ledger ∧
          s.sublog rules = ledger.reduceOption ∧
          s.Traces (Rule.ranked rules) ledger (s.trace (Rule.ranked rules)))) ∧
      (document.apply rules).events.filterMap Event.written? = log.map Modification.written := by
  have hEvents := apply_events hCompiles document
  refine ⟨_, apply_result hCompiles document, rfl, Rule.isRanking_ranked rules, hEvents, ?_, ?_⟩
  · intro s _
    refine ⟨fun hPreamble => by simp [Section.trace, hPreamble], fun hOrdinary => ?_⟩
    refine ⟨s.ledger [] (Rule.ranked rules), Section.decides_ledger, ?_, ?_⟩
    · rw [Section.sublog_eq_entries hCompiles, Section.entries_eq_reduceOption_ledger]
    · simpa [Section.trace, hOrdinary] using s.traces_reports (Rule.ranked rules)
  · have hSection (s : Section) : (s.trace (Rule.ranked rules)).reduceOption.filterMap
        Event.written? = (s.sublog rules).map Modification.written := by
      rw [Section.sublog_eq_entries hCompiles, Section.trace, Section.entries]
      split
      next => rfl
      next => exact Section.filterMap_written?_reports
    rw [hEvents, List.filterMap_append, List.filterMap_flatMap, List.map_flatMap]
    simp [hSection, Event.written?]

/-- The rivals, and behind the first of them a rule that comes too late for its key. -/
def Rule.crowd : List Rule :=
  rivals.take 1 ++ ⟨"late".toList, "".toList, "foo".toList, "3".toList, 1,
    [⟨"foo".toList, "2".toList, .equals⟩]⟩ :: rivals.drop 1

/-- One rule comes late and one never matches. The events tell the first and pass over the other. -/
theorem Document.apply_traces_crowd :
    (∀ r ∈ Rule.crowd, r.Compiles) ∧
      (Document.apply Rule.crowd [.preamble, .contested]).result = .ok Section.contestedLog ∧
      (Document.apply Rule.crowd [.preamble, .contested]).events =
        [.applied "A".toList "rewrite".toList "foo".toList,
          .alreadyWritten "A".toList "late".toList "foo".toList,
          .applied "A".toList "add".toList "run".toList, .finished 2 4 2] ∧
      (Document.apply Rule.crowd [.preamble, .contested]).events.filterMap Event.written? =
        Section.contestedLog.map Modification.written := by
  have hCompiles : ∀ r ∈ Rule.crowd, r.Compiles := by decide +kernel
  have hRanked : Rule.ranked Rule.crowd = Rule.crowd := List.mergeSort_of_pairwise (by decide)
  obtain ⟨log, hResult, hLog, -, hEvents, hSections, hWritten⟩ :=
    apply_traces [.preamble, .contested] Rule.crowd hCompiles
  obtain rfl : log = Section.contestedLog := by
    rw [hLog, List.flatMap_cons, List.flatMap_singleton, Section.sublog_eq_entries hCompiles,
      Section.sublog_eq_entries hCompiles, hRanked]
    decide +kernel
  obtain ⟨hPreamble, -⟩ := hSections .preamble (by simp)
  have hContested : (Section.contested.trace Rule.crowd).reduceOption =
      [.applied "A".toList "rewrite".toList "foo".toList,
        .alreadyWritten "A".toList "late".toList "foo".toList,
        .applied "A".toList "add".toList "run".toList] := by
    decide +kernel
  refine ⟨hCompiles, hResult, ?_, hWritten⟩
  rw [hEvents, List.flatMap_cons, hPreamble (by decide), List.flatMap_singleton, hRanked,
    hContested]
  rfl

end Rubric
