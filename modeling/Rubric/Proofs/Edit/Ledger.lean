import Mathlib.Data.List.ReduceOption
import Rubric.Proofs.Edit.Writing
import Rubric.Proofs.Rule.Ranking

/-! What rules leave behind in a section. The ledger gives each rule of a list its turn, with the
keys already taken and the section as it stands read off the entries before it. A visit, which
carries the section and the keys along, makes the same entries, reports on the same turns, and never
stops. -/
namespace Rubric

/-- The pattern of a rule can be compiled. -/
def Rule.Compiles (r : Rule) : Prop :=
  (Pattern.compile? r.pattern).isSome = true

instance (r : Rule) : Decidable r.Compiles :=
  inferInstanceAs (Decidable (_ = true))

theorem Rule.compiles_filter {rules : List Rule} {keep : Rule → Bool}
    (h : ∀ r ∈ rules, r.Compiles) : ∀ r ∈ rules.filter keep, r.Compiles :=
  fun r hr => h r (List.mem_of_mem_filter hr)

/-- What a rule records when it writes in a section. -/
def Rule.entry (r : Rule) (s : Section) : Modification where
  sectionName := s.name
  ruleName := r.name
  key := r.key
  previous := s.value? r.key
  value := r.value

/-- A rule wins its turn behind the entries `above`: it matches the section as their writes left
it, and none of them is under its key. -/
def Rule.Wins (r : Rule) (s : Section) (above : List Modification) : Prop :=
  r.matches? (s.after above) = some true ∧ ∀ m ∈ above, m.key ≠ r.key

instance (r : Rule) (s : Section) (above : List Modification) : Decidable (r.Wins s above) :=
  inferInstanceAs (Decidable (_ ∧ _))

/-- What each rule adds in its turn to the entries `above`. A rule that does not win adds none. -/
def Section.ledger (s : Section) (above : List Modification) :
    List Rule → List (Option Modification)
  | [] => []
  | r :: rest =>
    if r.Wins s above then
      some (r.entry (s.after above)) :: s.ledger (above ++ [r.entry (s.after above)]) rest
    else none :: s.ledger above rest

/-- What a rule reports in its turn behind the entries `above`: its write, or, where one of them is
under its key, that it came too late for the key. A rule that does not match reports nothing. -/
def Rule.report? (r : Rule) (s : Section) (above : List Modification) : Option Event :=
  if r.matches? (s.after above) = some true then
    if ∃ m ∈ above, m.key = r.key then some (.alreadyWritten s.name r.name r.key)
    else some (.applied s.name r.name r.key)
  else none

/-- What each rule reports in its turn, place by place beside the ledger. -/
def Section.reports (s : Section) (above : List Modification) : List Rule → List (Option Event)
  | [] => []
  | r :: rest =>
    r.report? s above ::
      s.reports (if r.Wins s above then above ++ [r.entry (s.after above)] else above) rest

/-- The reports of rules on a section. Rules leave the preamble alone. -/
def Section.trace (s : Section) (ranked : List Rule) : List (Option Event) :=
  if s.isPreamble then [] else s.reports [] ranked

/-- The entries of rules in a section. Rules leave the preamble alone. -/
def Section.entries (s : Section) (ranked : List Rule) : List Modification :=
  if s.isPreamble then [] else (s.ledger [] ranked).reduceOption

/-- The log of applying rules to a document of this section alone, if that succeeds. -/
def Section.sublog (s : Section) (rules : List Rule) : List Modification :=
  (Document.apply rules [s]).result.toOption.getD []

namespace ReadyRule

def Sound (ready : ReadyRule) : Prop :=
  Pattern.compile? ready.rule.pattern = some ready.pattern

/-- With a sound pattern a rule is matched without compiling it again. -/
theorem Sound.matches?_eq {ready : ReadyRule} (h : ready.Sound) (s : Section) :
    ready.rule.matches? s = some (ready.rule.matchesWith ready.pattern s) := by
  simp only [Sound] at h
  simp [Rule.matches?, h]

/-- Rules that compile can all be made ready. -/
theorem ofRules_of_compiles {rules : List Rule} (h : ∀ r ∈ rules, r.Compiles) :
    ∃ ready, ofRules rules = .ok ready ∧ ready.map (·.rule) = rules ∧
      ∀ x ∈ ready, x.Sound := by
  induction rules with
  | nil => exact ⟨[], rfl, rfl, by simp⟩
  | cons r rest ih =>
      obtain ⟨pattern, hPattern⟩ := Option.isSome_iff_exists.mp (h r (by simp))
      obtain ⟨ready, hReady, hRules, hSound⟩ := ih fun x hx => h x (by simp [hx])
      refine ⟨⟨r, pattern⟩ :: ready, ?_, by simp [hRules], ?_⟩
      · simp [ofRules, hPattern, hReady, Except.map]
      · simpa [Sound, hPattern] using hSound

/-- Rules that do not all compile end in an error before any section is looked at. -/
theorem compiles_of_ofRules {rules : List Rule} {ready : List ReadyRule}
    (h : ofRules rules = .ok ready) : ∀ r ∈ rules, r.Compiles := by
  induction rules generalizing ready with
  | nil => simp
  | cons r rest ih =>
      rw [ofRules] at h
      cases hPattern : Pattern.compile? r.pattern with
      | none => simp [hPattern] at h
      | some pattern =>
          cases hRest : ofRules rest with
          | error e => simp [hPattern, hRest, Except.map] at h
          | ok others => simpa [Rule.Compiles, hPattern] using ih hRest

end ReadyRule

namespace Visit

/-- A visit stands where the writes of its log lead, and has taken the keys of its log. -/
structure Tracks (s : Section) (v : Visit) : Prop where
  current : v.current = s.after v.log.reverse
  written : ∀ key, key ∈ v.written ↔ ∃ m ∈ v.log, m.key = key

theorem tracks_start (s : Section) : Tracks s (start s) where
  current := rfl
  written := by simp [start]

section

variable {v : Visit} {ready : ReadyRule}

/-- One turn of a rule that does not match changes nothing. -/
theorem turn_of_not_matches (h : ready.rule.matchesWith ready.pattern v.current = false) :
    v.turn ready = .ok v := by
  simp [turn, h]

/-- One turn of a rule whose key is taken only tells so. -/
theorem turn_of_written (h : ready.rule.matchesWith ready.pattern v.current = true)
    (hWritten : ready.rule.key ∈ v.written) :
    v.turn ready = .ok { v with
      events := .alreadyWritten v.current.name ready.rule.name ready.rule.key :: v.events } := by
  simp [turn, h, hWritten]

/-- One turn of a rule that wins writes its line, takes its key and logs an entry. -/
theorem turn_of_fresh (h : ready.rule.matchesWith ready.pattern v.current = true)
    (hFresh : ready.rule.key ∉ v.written) :
    v.turn ready = .ok
      { current := v.current.put ready.rule.key ready.rule.value
        written := ready.rule.key :: v.written
        log := ready.rule.entry v.current :: v.log
        events := .applied v.current.name ready.rule.name ready.rule.key :: v.events } := by
  simp [turn, h, hFresh, Section.write_eq_ok, Except.map, Rule.entry]

end

/-- The keys that are taken are those of the entries. -/
theorem Tracks.mem_written_iff {s : Section} {v : Visit} (hv : Tracks s v) {key : Text} :
    key ∈ v.written ↔ ∃ m ∈ v.log.reverse, m.key = key := by
  simp [hv.written]

/-- What a rule tells in its turn, by the state of the visit. -/
theorem Tracks.report?_eq {s : Section} {v : Visit} (hv : Tracks s v) {ready : ReadyRule}
    (hSound : ready.Sound) : ready.rule.report? s v.log.reverse =
      if ready.rule.matchesWith ready.pattern v.current = true then
        if ready.rule.key ∈ v.written then
          some (.alreadyWritten v.current.name ready.rule.name ready.rule.key)
        else some (.applied v.current.name ready.rule.name ready.rule.key)
      else none := by
  have hName : v.current.name = s.name := by rw [hv.current, Section.after_name]
  simp only [Rule.report?, ← hv.current, hSound.matches?_eq, Option.some.injEq, hv.mem_written_iff,
    hName]

/-- What one turn does to a visit: a rule that wins writes and records its entry, and any other
leaves the section, the taken keys and the log as they are. What the turn reports is put before the
earlier reports. -/
theorem Tracks.turn {s : Section} {v : Visit} (hv : Tracks s v) {ready : ReadyRule}
    (hSound : ready.Sound) :
    ∃ w, v.turn ready = .ok w ∧ Tracks s w ∧
      (w.log = if ready.rule.Wins s v.log.reverse
        then ready.rule.entry (s.after v.log.reverse) :: v.log else v.log) ∧
      w.events = (ready.rule.report? s v.log.reverse).toList ++ v.events := by
  have hMatch := hSound.matches?_eq v.current
  rw [hv.report?_eq hSound]
  cases hMatches : ready.rule.matchesWith ready.pattern v.current with
  | false =>
      have hLoses : ¬ready.rule.Wins s v.log.reverse := by
        rintro ⟨hMatched, -⟩
        rw [← hv.current, hMatch, hMatches] at hMatched
        cases hMatched
      exact ⟨v, turn_of_not_matches hMatches, hv, by simp [hLoses], rfl⟩
  | true =>
      by_cases hWritten : ready.rule.key ∈ v.written
      · have hLoses : ¬ready.rule.Wins s v.log.reverse := by
          obtain ⟨m, hm, hKey⟩ := hv.mem_written_iff.mp hWritten
          exact fun hWins => hWins.2 m hm hKey
        exact ⟨_, turn_of_written hMatches hWritten, ⟨hv.current, hv.written⟩, by simp [hLoses],
          by simp [hWritten]⟩
      · have hWins : ready.rule.Wins s v.log.reverse := by
          refine ⟨by rw [← hv.current, hMatch, hMatches], ?_⟩
          intro m hm hKey
          exact hWritten (hv.mem_written_iff.mpr ⟨m, hm, hKey⟩)
        refine ⟨_, turn_of_fresh hMatches hWritten, ⟨?_, ?_⟩, ?_, ?_⟩
        · simp [hv.current, Rule.entry]
        · simp [hv.written, Rule.entry, eq_comm]
        · simp [hWins, hv.current]
        · simp [hWritten]

/-- Turns never stop. What they add to the log is the ledger behind the entries so far, and what
they report stands behind the reports so far. -/
theorem Tracks.turns {s : Section} {v : Visit} (hv : Tracks s v) {ready : List ReadyRule}
    (hSound : ∀ x ∈ ready, x.Sound) :
    ∃ w, v.turns ready = (w, none) ∧ Tracks s w ∧
      w.log.reverse = v.log.reverse ++
        (s.ledger v.log.reverse (ready.map (·.rule))).reduceOption ∧
      w.events.reverse = v.events.reverse ++
        (s.reports v.log.reverse (ready.map (·.rule))).reduceOption := by
  induction ready generalizing v with
  | nil => exact ⟨v, rfl, hv, by simp [Section.ledger], by simp [Section.reports]⟩
  | cons x rest ih =>
      obtain ⟨u, hTurn, hu, hLog, hEvents⟩ := hv.turn (hSound x (by simp))
      obtain ⟨w, hTurns, hw, hRest, hReports⟩ := ih hu fun y hy => hSound y (by simp [hy])
      refine ⟨w, by simp [Visit.turns, hTurn, hTurns], hw, ?_, ?_⟩
      · rw [hRest, hLog, List.map_cons, Section.ledger]
        split <;> simp
      · rw [hReports, hEvents, hLog, List.map_cons, Section.reports]
        cases x.rule.report? s v.log.reverse <;> split <;> simp

end Visit

section

variable {ready : List ReadyRule} (hSound : ∀ x ∈ ready, x.Sound)
include hSound

/-- A visit never stops. It records the entries of its rules, leaves the section as their writes do,
and reports on every turn. -/
theorem Section.visit_eq (s : Section) :
    ∃ w, s.visit ready = (w, none) ∧ w.log.reverse = s.entries (ready.map (·.rule)) ∧
      w.current = s.after (s.entries (ready.map (·.rule))) ∧
      w.events.reverse = (s.trace (ready.map (·.rule))).reduceOption := by
  by_cases hPreamble : s.isPreamble = true
  · exact ⟨.start s, by simp [visit, hPreamble], by simp [entries, hPreamble, Visit.start],
      by simp [entries, hPreamble, Visit.start], by simp [trace, hPreamble, Visit.start]⟩
  · obtain ⟨w, hTurns, hw, hLog, hEvents⟩ := (Visit.tracks_start s).turns hSound
    have hEntries : w.log.reverse = s.entries (ready.map (·.rule)) := by
      simpa [entries, hPreamble, Visit.start] using hLog
    exact ⟨w, by simp [visit, hPreamble, hTurns], hEntries, by rw [hw.current, hEntries],
      by simpa [trace, hPreamble, Visit.start] using hEvents⟩

/-- The log, the document and the events of an edit are put together of those of the sections. -/
theorem Document.edit_eq (document : Document) :
    (document.edit ready).result =
        .ok (document.flatMap fun s => s.entries (ready.map (·.rule))) ∧
      (document.edit ready).document =
        document.map (fun s => s.after (s.entries (ready.map (·.rule)))) ∧
      (document.edit ready).events =
        document.flatMap fun s => (s.trace (ready.map (·.rule))).reduceOption := by
  induction document with
  | nil => exact ⟨rfl, rfl, rfl⟩
  | cons s rest ih =>
      obtain ⟨w, hVisit, hLog, hCurrent, hEvents⟩ := s.visit_eq hSound
      obtain ⟨hResult, hDocument, hReports⟩ := ih
      simp [edit, hVisit, hResult, hDocument, hReports, hLog, hCurrent, hEvents, Except.map]

end

section

variable {rules : List Rule} (hCompiles : ∀ r ∈ rules, r.Compiles)
include hCompiles

/-- An application edits with the ranked rules and tells its counts at the end. -/
theorem Document.apply_eq_entries (document : Document) :
    (document.apply rules).result =
        .ok (document.flatMap fun s => s.entries (Rule.ranked rules)) ∧
      (document.apply rules).document =
        document.map (fun s => s.after (s.entries (Rule.ranked rules))) ∧
      (document.apply rules).events =
        (document.flatMap fun s => (s.trace (Rule.ranked rules)).reduceOption) ++
          [.finished document.length rules.length
            (document.flatMap fun s => s.entries (Rule.ranked rules)).length] := by
  have hRanked : ∀ r ∈ Rule.ranked rules, r.Compiles :=
    fun r hr => hCompiles r (Rule.mem_ranked.mp hr)
  obtain ⟨ready, hReady, hRules, hSound⟩ := ReadyRule.ofRules_of_compiles hRanked
  obtain ⟨hResult, hDocument, hEvents⟩ := edit_eq hSound document
  rw [hRules] at hResult hDocument hEvents
  simp only [apply, hReady, hResult, hDocument, hEvents, and_self]

theorem Section.sublog_eq_entries (s : Section) :
    s.sublog rules = s.entries (Rule.ranked rules) := by
  simp [sublog, (Document.apply_eq_entries hCompiles [s]).1, Except.toOption]

/-- Nothing is ever written in the preamble. -/
theorem Section.sublog_of_isPreamble {s : Section} (h : s.isPreamble = true) :
    s.sublog rules = [] := by
  rw [sublog_eq_entries hCompiles, entries, if_pos h]

/-- Rules whose patterns compile are applied to the end, and the log has the entries of one section
after the other. -/
theorem Document.apply_result (document : Document) :
    (document.apply rules).result = .ok (document.flatMap fun s => s.sublog rules) := by
  simpa only [Section.sublog_eq_entries hCompiles] using (apply_eq_entries hCompiles document).1

/-- Each section is left as the writes of its own entries leave it. -/
theorem Document.apply_document (document : Document) :
    (document.apply rules).document = document.map fun s => s.after (s.sublog rules) := by
  simpa only [Section.sublog_eq_entries hCompiles] using (apply_eq_entries hCompiles document).2.1

/-- The events are the reports on one section after the other, and in the end the numbers of the
sections, the rules and the writes. -/
theorem Document.apply_events (document : Document) : (document.apply rules).events =
    (document.flatMap fun s => (s.trace (Rule.ranked rules)).reduceOption) ++
      [.finished document.length rules.length (document.flatMap (·.sublog rules)).length] := by
  simpa only [Section.sublog_eq_entries hCompiles] using (apply_eq_entries hCompiles document).2.2

end

/-- An application that succeeds had rules that compile. -/
theorem Document.compiles_of_apply {document : Document} {rules : List Rule}
    {log : List Modification} (h : (document.apply rules).result = .ok log) :
    ∀ r ∈ rules, r.Compiles := by
  intro r hr
  cases hReady : ReadyRule.ofRules (Rule.ranked rules) with
  | error e => simp [apply, hReady] at h
  | ok ready => exact ReadyRule.compiles_of_ofRules hReady r (Rule.mem_ranked.mpr hr)

namespace Section

/-- What the entries of a log have in common that are made one after another in a section: they
name it, no two are under one key, and each has the value that its key had at the beginning. -/
structure Records (s : Section) (log : List Modification) : Prop where
  sectionName : ∀ m ∈ log, m.sectionName = s.name
  distinct : (log.map (·.key)).Nodup
  previous : ∀ m ∈ log, m.previous = s.value? m.key

variable {s : Section} {above : List Modification} {r : Rule} {rules : List Rule}

/-- One more entry of a rule that wins keeps a log a record of the section. -/
theorem Records.win (h : s.Records above) (hWins : r.Wins s above) :
    s.Records (above ++ [r.entry (s.after above)]) where
  sectionName := by simpa [or_imp, forall_and, Rule.entry] using h.sectionName
  distinct := Modification.nodup_keys_concat_iff.mpr ⟨h.distinct, hWins.2⟩
  previous := by
    have hPrevious := value?_after_of_forall_ne hWins.2 (s := s)
    simpa [or_imp, forall_and, Rule.entry, hPrevious] using h.previous

/-- So do the entries of any further rules, by induction on them. -/
theorem Records.ledger (h : s.Records above) :
    s.Records (above ++ (s.ledger above rules).reduceOption) := by
  induction rules generalizing above with
  | nil => simpa [Section.ledger] using h
  | cons r rest ih =>
      rw [Section.ledger]
      split
      next hWins => simpa using ih (h.win hWins)
      next => simpa using ih h

theorem records_entries (s : Section) (ranked : List Rule) : s.Records (s.entries ranked) := by
  have hNil : s.Records [] := ⟨by simp, by simp, by simp⟩
  by_cases hPreamble : s.isPreamble = true
  · simpa [entries, hPreamble] using hNil
  · have hLedger : s.Records ([] ++ (s.ledger [] ranked).reduceOption) := hNil.ledger
    simpa [entries, hPreamble] using hLedger

theorem records_sublog (hCompiles : ∀ r ∈ rules, r.Compiles) (s : Section) :
    s.Records (s.sublog rules) := by
  rw [sublog_eq_entries hCompiles]
  exact s.records_entries _

end Section

/-- Rules for one section. The second asks for the value that the first one replaces. -/
def Rule.rivals : List Rule :=
  [{ name := "rewrite".toList, pattern := "A".toList, key := "foo".toList, value := "2".toList
     priority := 2, conditions := [] },
   { name := "follow".toList, pattern := "A".toList, key := "bar".toList, value := "x".toList
     priority := 0, conditions := [⟨"foo".toList, "1".toList, .equals⟩] },
   { name := "add".toList, pattern := "".toList, key := "run".toList, value := "y".toList
     priority := 0, conditions := [] }]

/-- A section in which each rival matches at first. One of its keys stands in it twice. -/
def Section.contested : Section where
  name := "A".toList
  header := "[A]".toList
  lines := [.read "; note".toList, .read "foo=1".toList, .read "foo = 3".toList]

/-- What the rivals record there. The first one keeps the second from writing. -/
def Section.contestedLog : List Modification :=
  [⟨"A".toList, "rewrite".toList, "foo".toList, some "1".toList, "2".toList⟩,
    ⟨"A".toList, "add".toList, "run".toList, none, "y".toList⟩]

theorem Rule.compiles_rivals : ∀ r ∈ rivals, r.Compiles := by decide +kernel

theorem Rule.ranked_rivals : ranked rivals = rivals :=
  List.mergeSort_of_pairwise (by decide)

/-- The two rules that win write an entry each, the higher one first. -/
theorem Section.sublog_rivals_contested : contested.sublog Rule.rivals = contestedLog := by
  rw [sublog_eq_entries Rule.compiles_rivals, Rule.ranked_rivals]
  decide

end Rubric
