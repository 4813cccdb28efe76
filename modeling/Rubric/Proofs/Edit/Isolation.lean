import Mathlib.Data.Set.Basic
import Rubric.Proofs.Edit.Winners

/-! Rules for some keys next to rules for others. Rules see each other's writes through their
conditions only. Where the conditions of the rules for some keys name no key that the other rules
write, the other rules could as well be left out: the entries under these keys and the lines with
these keys are the same. -/
namespace Rubric

/-- The rules that write one of some keys, in the order of declaration. -/
def Rule.forKeys (K : Set Text) [DecidablePred (· ∈ K)] (rules : List Rule) : List Rule :=
  rules.filter (·.key ∈ K)

namespace Section

variable {K F : Set Text} [DecidablePred (· ∈ K)] [DecidablePred (· ∈ F)] {s t : Section}
  {key value : Text} {log : List Modification}

/-- The lines that carry one of some keys, in order. -/
def linesIn (K : Set Text) [DecidablePred (· ∈ K)] (s : Section) : List Line :=
  s.lines.filter (·.key.any (· ∈ K))

/-- Two sections that look the same to rules that only ask for some keys. Their other lines may
differ in number and place. -/
structure AgreeOn (K : Set Text) [DecidablePred (· ∈ K)] (s t : Section) : Prop where
  name : s.name = t.name
  header : s.header = t.header
  lines : s.linesIn K = t.linesIn K

theorem AgreeOn.refl (s : Section) : AgreeOn K s s :=
  ⟨rfl, rfl, rfl⟩

/-- The lines of a key are found among those of any set it is in. -/
theorem find_eq_filter_linesIn (h : key ∈ K) :
    s.find key = (s.linesIn K).filter (·.key == some key) := by
  rw [linesIn, List.filter_filter, find]
  apply List.filter_congr
  intro line _
  cases hKey : line.key with
  | none => simp
  | some found =>
      by_cases hFound : found = key
      · simp [hFound, h]
      · simp [hFound]

/-- The value of a key is that of the first of its lines. -/
theorem value?_eq_bind_head?_find : s.value? key = (s.find key).head?.bind Line.value := by
  rw [value?, first?, find, List.head?_filter]

theorem AgreeOn.find_eq (h : AgreeOn K s t) (hKey : key ∈ K) : s.find key = t.find key := by
  rw [find_eq_filter_linesIn hKey, h.lines, ← find_eq_filter_linesIn hKey]

/-- Sections that agree on a set of keys have the same values under them. -/
theorem AgreeOn.value?_eq (h : AgreeOn K s t) (hKey : key ∈ K) : s.value? key = t.value? key := by
  rw [value?_eq_bind_head?_find, h.find_eq hKey, ← value?_eq_bind_head?_find]

/-- A rule whose conditions read no other keys matches both or neither. -/
theorem AgreeOn.matches?_eq {r : Rule} (h : AgreeOn K s t)
    (hReads : ∀ c ∈ r.conditions, c.key ∈ K) :
    r.matches? s = r.matches? t := by
  have hPreamble : s.isPreamble = t.isPreamble := by simp [isPreamble, h.name, h.header]
  have hConditions : r.conditions.all (·.holdsIn s) = r.conditions.all (·.holdsIn t) := by
    rw [Bool.eq_iff_iff, List.all_eq_true, List.all_eq_true]
    refine forall₂_congr fun c hc => ?_
    rw [Condition.holdsIn, Condition.holdsIn, h.find_eq (hReads c hc)]
  simp only [Rule.matches?, Rule.matchesWith, hPreamble, h.name, hConditions]

/-- Writing a key of the set is writing among its lines. -/
theorem linesIn_put_of_mem (h : key ∈ K) :
    (s.put key value).linesIn K = Line.put key value (s.linesIn K) := by
  simp only [linesIn, put]
  induction s.lines with
  | nil => simp [Line.put, h]
  | cons line rest ih =>
      by_cases hKey : line.key = some key
      · simp [Line.put, hKey, h]
      · simp only [Line.put, hKey, if_false, List.filter_cons, ih]
        split <;> simp [Line.put, hKey]

/-- Writing another key does not touch them. -/
theorem linesIn_put_of_not_mem (h : key ∉ K) : (s.put key value).linesIn K = s.linesIn K := by
  simp only [linesIn, put]
  induction s.lines with
  | nil => simp [Line.put, h]
  | cons line rest ih =>
      by_cases hKey : line.key = some key
      · simp [Line.put, hKey, h]
      · simp [Line.put, hKey, List.filter_cons, ih]

theorem AgreeOn.put (h : AgreeOn K s t) : AgreeOn K (s.put key value) (t.put key value) where
  name := h.name
  header := h.header
  lines := by
    by_cases hKey : key ∈ K
    · rw [linesIn_put_of_mem hKey, linesIn_put_of_mem hKey, h.lines]
    · rw [linesIn_put_of_not_mem hKey, linesIn_put_of_not_mem hKey, h.lines]

theorem AgreeOn.put_left (h : AgreeOn K s t) (hKey : key ∉ K) : AgreeOn K (s.put key value) t where
  name := h.name
  header := h.header
  lines := by rw [linesIn_put_of_not_mem hKey, h.lines]

/-- Writes that are left out make no difference to keys that none of them is under. -/
theorem agreeOn_after (hLog : ∀ m ∈ log, m.key ∈ F → m.key ∈ K) :
    AgreeOn F (s.after log) (s.after (log.filter (·.key ∈ K))) := by
  induction log using List.reverseRecOn with
  | nil => exact .refl s
  | append_singleton log m ih =>
      simp only [List.mem_append, List.mem_singleton, or_imp, forall_and, forall_eq] at hLog
      rw [after_append, after_singleton, List.filter_append]
      by_cases hm : m.key ∈ K
      · simpa [hm] using (ih hLog.1).put
      · have hOther : m.key ∉ F := fun hIn => hm (hLog.2 hIn)
        simpa [hm] using (ih hLog.1).put_left hOther

end Section

/-- The rules for the keys in `K` ask only for keys in `F`, and rules for other keys write none of
those. `F` may go beyond `K`, since conditions can ask for keys that no rule writes. -/
structure Rule.Closed (K F : Set Text) (rules : List Rule) : Prop where
  subset : K ⊆ F
  writes : ∀ r ∈ rules, r.key ∈ F → r.key ∈ K
  reads : ∀ r ∈ rules, r.key ∈ K → ∀ c ∈ r.conditions, c.key ∈ F

theorem Rule.Closed.of_subset {K F : Set Text} {rules others : List Rule} (h : Closed K F rules)
    (hSubset : ∀ r ∈ others, r ∈ rules) : Closed K F others where
  subset := h.subset
  writes r hr := h.writes r (hSubset r hr)
  reads r hr := h.reads r (hSubset r hr)

namespace Section

variable {K F : Set Text} [DecidablePred (· ∈ K)] [DecidablePred (· ∈ F)] {s : Section}
  {r : Rule} {rules : List Rule} {above : List Modification}

section

variable (hAbove : ∀ m ∈ above, m.key ∈ F → m.key ∈ K)
include hAbove

/-- Whether a rule of the set wins does not depend on the entries of other keys. -/
theorem wins_filter_iff (hKey : r.key ∈ K) (hReads : ∀ c ∈ r.conditions, c.key ∈ F) :
    r.Wins s (above.filter (·.key ∈ K)) ↔ r.Wins s above := by
  have hAgree : AgreeOn F (s.after above) (s.after (above.filter (·.key ∈ K))) :=
    agreeOn_after hAbove
  have hFresh : (∀ m ∈ above.filter (·.key ∈ K), m.key ≠ r.key) ↔ ∀ m ∈ above, m.key ≠ r.key := by
    constructor
    · intro h m hm hSame
      exact h m (by simp [hm, hSame, hKey]) hSame
    · intro h m hm
      exact h m (List.mem_of_mem_filter hm)
  rw [Rule.Wins, Rule.Wins, hAgree.matches?_eq hReads, hFresh]

theorem entry_filter_eq (hKey : r.key ∈ F) :
    r.entry (s.after (above.filter (·.key ∈ K))) = r.entry (s.after above) := by
  have hAgree : AgreeOn F (s.after above) (s.after (above.filter (·.key ∈ K))) :=
    agreeOn_after hAbove
  simp [Rule.entry, hAgree.value?_eq hKey]

/-- A turn of a rule for `K` comes out the same behind the entries under `K` alone. A turn of any
other rule only adds an entry that the filter takes out again. -/
theorem reduceOption_ledger_filter (hClosed : Rule.Closed K F rules) :
    (s.ledger (above.filter (·.key ∈ K)) (rules.filter (·.key ∈ K))).reduceOption =
      (s.ledger above rules).reduceOption.filter (·.key ∈ K) := by
  induction rules generalizing above with
  | nil => rfl
  | cons r rest ih =>
      have hRest : Rule.Closed K F rest := hClosed.of_subset fun _ => List.mem_cons_of_mem r
      have hNext : ∀ m ∈ above ++ [r.entry (s.after above)], m.key ∈ F → m.key ∈ K := by
        simpa [or_imp, forall_and, Rule.entry] using
          ⟨hAbove, hClosed.writes r List.mem_cons_self⟩
      have hEntryKey : (r.entry (s.after above)).key = r.key := rfl
      rw [ledger]
      by_cases hKey : r.key ∈ K
      · have hSame := wins_filter_iff (s := s) hAbove hKey (hClosed.reads r List.mem_cons_self hKey)
        rw [List.filter_cons_of_pos (by simpa using hKey), ledger,
          entry_filter_eq hAbove (hClosed.subset hKey)]
        by_cases hWins : r.Wins s above
        · have hLater := ih hNext hRest
          rw [List.filter_append] at hLater
          simpa [hWins, hSame, hEntryKey, hKey] using hLater
        · simpa [hWins, hSame] using ih hAbove hRest
      · rw [List.filter_cons_of_neg (by simpa using hKey)]
        by_cases hWins : r.Wins s above
        · have hLater := ih hNext hRest
          rw [List.filter_append] at hLater
          simpa [hWins, hEntryKey, hKey] using hLater
        · simpa [hWins] using ih hAbove hRest

end

/-- The sub-log of the rules for some keys is what the sub-log of all rules has under them. -/
theorem sublog_forKeys (hCompiles : ∀ r ∈ rules, r.Compiles) (hClosed : Rule.Closed K F rules)
    (s : Section) :
    s.sublog (Rule.forKeys K rules) = (s.sublog rules).filter (·.key ∈ K) := by
  have hForKeys : ∀ r ∈ Rule.forKeys K rules, r.Compiles := Rule.compiles_filter hCompiles
  have hRanked : Rule.Closed K F (Rule.ranked rules) :=
    hClosed.of_subset fun _ => Rule.mem_ranked.mp
  have hNil : ∀ m ∈ ([] : List Modification), m.key ∈ F → m.key ∈ K := by simp
  rw [sublog_eq_entries hForKeys, sublog_eq_entries hCompiles,
    entries_eq_reduceOption_ledger, entries_eq_reduceOption_ledger, Rule.forKeys,
    Rule.ranked_filter]
  exact reduceOption_ledger_filter hNil hRanked

end Section

/-- Rules for different keys do not interfere. Let no condition of a rule for a key in `K` name a
key outside of `K` that a rule writes. Then the rules for the keys in `K` make the same entries with
all the other rules as without them, in the same order, and leave the same lines with these
keys. -/
theorem Document.apply_keys_isolated (document : Document) (rules : List Rule)
    (hCompiles : ∀ r ∈ rules, r.Compiles) (K : Set Text) [DecidablePred (· ∈ K)]
    (hConditions : ∀ r ∈ rules, r.key ∈ K → ∀ c ∈ r.conditions,
      ∀ other ∈ rules, other.key = c.key → other.key ∈ K) :
    (document.apply rules).result = .ok (document.flatMap fun s => s.sublog rules) ∧
      (document.apply (Rule.forKeys K rules)).result =
        .ok (document.flatMap fun s => s.sublog (Rule.forKeys K rules)) ∧
      (∀ s ∈ document,
        s.sublog (Rule.forKeys K rules) = (s.sublog rules).filter (·.key ∈ K)) ∧
      (document.apply (Rule.forKeys K rules)).document.map (·.linesIn K) =
        (document.apply rules).document.map (·.linesIn K) := by
  classical
  have hForKeys : ∀ r ∈ Rule.forKeys K rules, r.Compiles := Rule.compiles_filter hCompiles
  have hClosed : Rule.Closed K {key | ∀ r ∈ rules, r.key = key → r.key ∈ K} rules :=
    { subset := fun key hKey r _ hSame => hSame ▸ hKey
      writes := fun r hr hIn => hIn r hr rfl
      reads := hConditions }
  have hSublog := Section.sublog_forKeys hCompiles hClosed
  refine ⟨apply_result hCompiles document, apply_result hForKeys document,
    fun s _ => hSublog s, ?_⟩
  rw [apply_document hForKeys, apply_document hCompiles, List.map_map, List.map_map]
  apply List.map_congr_left
  intro s _
  have hAgree : Section.AgreeOn K (s.after (s.sublog rules))
      (s.after ((s.sublog rules).filter (·.key ∈ K))) :=
    Section.agreeOn_after fun _ _ hKey => hKey
  simp only [Function.comp_apply, hSublog, hAgree.lines]

/-- The rules for two keys alone leave their lines as all rules do. -/
theorem Document.apply_keys_isolated_rivals :
    (∀ r ∈ Rule.rivals, r.Compiles) ∧
      (∀ r ∈ Rule.rivals, r.key ∈ {key | key ∈ ["foo".toList, "bar".toList]} →
        ∀ c ∈ r.conditions, ∀ other ∈ Rule.rivals, other.key = c.key →
          other.key ∈ {key | key ∈ ["foo".toList, "bar".toList]}) ∧
      (Document.apply (Rule.forKeys {key | key ∈ ["foo".toList, "bar".toList]} Rule.rivals)
        [.contested]).result = .ok (Section.contestedLog.take 1) ∧
      ((Document.apply (Rule.forKeys {key | key ∈ ["foo".toList, "bar".toList]} Rule.rivals)
        [.contested]).document.flatMap
          (·.linesIn {key | key ∈ ["foo".toList, "bar".toList]})).map (·.text) =
        ["foo = 2".toList, "foo = 3".toList] := by
  have hConditions : ∀ r ∈ Rule.rivals, r.key ∈ {key | key ∈ ["foo".toList, "bar".toList]} →
      ∀ c ∈ r.conditions, ∀ other ∈ Rule.rivals, other.key = c.key →
        other.key ∈ {key | key ∈ ["foo".toList, "bar".toList]} := by
    simp [Rule.rivals]
  obtain ⟨-, hResult, hSublog, hLines⟩ :=
    apply_keys_isolated [.contested] Rule.rivals Rule.compiles_rivals _ hConditions
  refine ⟨Rule.compiles_rivals, hConditions, ?_, ?_⟩
  · rw [hResult, List.flatMap_singleton, hSublog _ List.mem_cons_self,
      Section.sublog_rivals_contested]
    decide
  · rw [List.flatMap_def, hLines, apply_document Rule.compiles_rivals,
      List.map_singleton, Section.sublog_rivals_contested]
    decide

end Rubric
