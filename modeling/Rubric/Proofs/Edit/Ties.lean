import Rubric.Proofs.Edit.Winners

/-! Rules of one priority that write one key. The order of declaration decides between them: in each
section the first that matches at its turn writes the key, if no rule of higher priority has written
it, and the others come too late for it. -/
namespace Rubric

namespace Rule

/-- The rules that run before a rule declared between `front` and `back`: those of higher priority,
and behind them those of its own priority that are declared before it. -/
def earlier (front : List Rule) (r : Rule) (back : List Rule) : List Rule :=
  ranked ((front ++ back).filter (r.priority < ·.priority)) ++
    front.filter (·.priority = r.priority)

/-- The rules that run behind it. -/
def later (front : List Rule) (r : Rule) (back : List Rule) : List Rule :=
  back.filter (·.priority = r.priority) ++
    ranked ((front ++ back).filter (·.priority < r.priority))

/-- The rules of one priority stand in the ranking as they are declared, between all others. -/
theorem ranked_eq_around (p : Int) (rules : List Rule) :
    ranked rules = ranked (rules.filter (p < ·.priority)) ++ rules.filter (·.priority = p) ++
      ranked (rules.filter (·.priority < p)) := by
  have hHigher : atLeast (p + 1) (atLeast p rules) = rules.filter (p < ·.priority) := by
    rw [atLeast, atLeast, List.filter_filter]
    refine List.filter_congr fun r _ => ?_
    rw [← Bool.decide_and, decide_eq_decide]
    omega
  have hOwn : below (p + 1) (atLeast p rules) = rules.filter (·.priority = p) := by
    rw [below, atLeast, List.filter_filter]
    refine List.filter_congr fun r _ => ?_
    rw [← Bool.decide_and, decide_eq_decide]
    omega
  rw [ranked_eq_append p, ranked_eq_append (p + 1) (atLeast p rules), hHigher, hOwn, below,
    ranked_filter (fun r => decide (r.priority = p)), filter_priority_ranked]

/-- Every rule has its place in the ranking, with those behind it that are of lower priority or
declared later. -/
theorem ranked_eq_earlier_append (front : List Rule) (r : Rule) (back : List Rule) :
    ranked (front ++ r :: back) = earlier front r back ++ r :: later front r back := by
  rw [ranked_eq_around r.priority, earlier, later]
  simp

def added (r : Rule) (s : Section) (above : List Modification) : List Modification :=
  if r.Wins s above then [r.entry (s.after above)] else []

end Rule

namespace Section

variable {s : Section} {rules front back : List Rule} {r other : Rule}

/-- The entries that a rule finds in a section at its turn, when it is declared between `front` and
`back`. -/
def entriesBefore (s : Section) (front : List Rule) (r : Rule) (back : List Rule) :
    List Modification :=
  (s.ledger [] (Rule.earlier front r back)).reduceOption

/-- The entries of the rules above a priority. -/
def higherEntries (s : Section) (p : Int) (rules : List Rule) : List Modification :=
  (s.ledger [] (Rule.ranked (rules.filter (p < ·.priority)))).reduceOption

/-- The section as the rule finds it. -/
def found (s : Section) (front : List Rule) (r : Rule) (back : List Rule) : Section :=
  s.after (s.entriesBefore front r back)

/-- The ledger of further rules starts from the entries of the first ones. -/
theorem reduceOption_ledger_append {above : List Modification} {rest : List Rule} :
    (s.ledger above (rules ++ rest)).reduceOption =
      (s.ledger above rules).reduceOption ++
        (s.ledger (above ++ (s.ledger above rules).reduceOption) rest).reduceOption := by
  rw [ledger_append, List.reduceOption_append]

theorem reduceOption_ledger_cons {above : List Modification} {rest : List Rule} :
    (s.ledger above (r :: rest)).reduceOption =
      r.added s above ++ (s.ledger (above ++ r.added s above) rest).reduceOption := by
  rw [ledger, Rule.added]
  split <;> simp

/-- The log of a section goes on from the entries that a rule finds with what it adds to them. -/
theorem exists_sublog_eq_entriesBefore (hCompiles : ∀ r ∈ rules, r.Compiles) (s : Section)
    (hRules : rules = front ++ r :: back) :
    ∃ rest, s.sublog rules = s.entriesBefore front r back ++
      (r.added s (s.entriesBefore front r back) ++ rest) := by
  rw [sublog_eq_entries hCompiles, entries_eq_reduceOption_ledger, hRules,
    Rule.ranked_eq_earlier_append, reduceOption_ledger_append, List.nil_append,
    reduceOption_ledger_cons]
  exact ⟨_, rfl⟩

/-- What is added under a key comes from a rule that wins its turn. -/
theorem exists_wins_of_mem_ledger {above : List Modification} {keep : Rule → Bool}
    {m : Modification} (hm : m ∈ (s.ledger above (front.filter keep)).reduceOption) :
    ∃ a other b, front = a ++ other :: b ∧ keep other = true ∧ other.key = m.key ∧
      other.Wins s (above ++ (s.ledger above (a.filter keep)).reduceOption) := by
  -- From the end, since a rule finds the entries of all rules before it.
  induction front using List.reverseRecOn with
  | nil => cases hm
  | append_singleton front x ih =>
      rw [List.filter_append, reduceOption_ledger_append, List.mem_append] at hm
      rcases hm with hm | hm
      · obtain ⟨a, other, b, rfl, hOther⟩ := ih hm
        exact ⟨a, other, b ++ [x], by simp, hOther⟩
      · by_cases hKeep : keep x = true
        · rw [List.filter_cons_of_pos hKeep, List.filter_nil, reduceOption_ledger_cons] at hm
          by_cases hWins : x.Wins s (above ++ (s.ledger above (front.filter keep)).reduceOption)
          · obtain rfl : m = x.entry _ := by simpa [Rule.added, hWins, ledger] using hm
            exact ⟨front, x, [], rfl, hKeep, rfl, hWins⟩
          · simp [Rule.added, hWins, ledger] at hm
        · simp [hKeep, ledger] at hm

/-- What a rule finds are the entries of the rules of higher priority, and then of those of its own
priority that are declared before it. -/
theorem entriesBefore_eq (s : Section) (front : List Rule) (r : Rule) (back : List Rule) :
    s.entriesBefore front r back =
      s.higherEntries r.priority (front ++ back) ++
        (s.ledger (s.higherEntries r.priority (front ++ back))
          (front.filter (·.priority = r.priority))).reduceOption := by
  rw [entriesBefore, Rule.earlier, reduceOption_ledger_append, List.nil_append, higherEntries]

/-- Rules of higher priority write alone what they write with all others present. -/
theorem sublog_filter_eq_higherEntries (hCompiles : ∀ r ∈ rules, r.Compiles)
    (hRules : rules = front ++ r :: back) :
    s.sublog (rules.filter (r.priority < ·.priority)) =
      s.higherEntries r.priority (front ++ back) := by
  rw [sublog_eq_entries (Rule.compiles_filter hCompiles), entries_eq_reduceOption_ledger, hRules,
    higherEntries]
  simp

/-- A rule of the same priority that is declared before another one finds a part of the entries that
this one finds. -/
theorem entriesBefore_eq_of_priority {a b : List Rule} (hFront : front = a ++ other :: b)
    (hPriority : other.priority = r.priority) :
    s.entriesBefore a other (b ++ r :: back) =
      s.higherEntries r.priority (front ++ back) ++
        (s.ledger (s.higherEntries r.priority (front ++ back))
          (a.filter (·.priority = r.priority))).reduceOption := by
  have hHigher : s.higherEntries r.priority (front ++ back) =
      s.higherEntries other.priority (a ++ (b ++ r :: back)) := by
    rw [higherEntries, higherEntries, hFront, hPriority]
    simp [hPriority]
  rw [entriesBefore_eq, hHigher, hPriority]

/-- A rule of the same priority that is declared later finds all that the earlier one found, and
what that one added. -/
theorem exists_entriesBefore_eq {a b : List Rule} (hFront : front = a ++ other :: b)
    (hPriority : other.priority = r.priority) :
    ∃ more, s.entriesBefore front r back =
      s.entriesBefore a other (b ++ r :: back) ++
        (other.added s (s.entriesBefore a other (b ++ r :: back)) ++ more) := by
  have hOwn : front.filter (·.priority = r.priority) =
      a.filter (·.priority = r.priority) ++ other :: b.filter (·.priority = r.priority) := by
    rw [hFront]
    simp [hPriority]
  rw [entriesBefore_eq s front, hOwn, reduceOption_ledger_append, reduceOption_ledger_cons,
    ← List.append_assoc, ← entriesBefore_eq_of_priority hFront hPriority]
  exact ⟨_, rfl⟩

/-- Behind a rule that has matched at its turn there is an entry under its key. -/
theorem exists_mem_added {above : List Modification} (h : r.matches? (s.after above) = some true) :
    ∃ m ∈ above ++ r.added s above, m.key = r.key := by
  by_cases hWins : r.Wins s above
  · exact ⟨r.entry (s.after above), by simp [Rule.added, hWins], rfl⟩
  · obtain ⟨m, hm, hKey⟩ : ∃ m ∈ above, m.key = r.key := by
      simpa [Rule.Wins, h] using hWins
    exact ⟨m, List.mem_append_left _ hm, hKey⟩

/-- A rule wins exactly when it matches at its turn, no rule of higher priority has written its key,
and no rule of its own priority with its key that is declared before it has matched at its turn. -/
theorem wins_iff (hCompiles : ∀ r ∈ rules, r.Compiles) (hRules : rules = front ++ r :: back) :
    r.Wins s (s.entriesBefore front r back) ↔
      r.matches? (s.found front r back) = some true ∧
      (∀ m ∈ s.sublog (rules.filter (r.priority < ·.priority)), m.key ≠ r.key) ∧
      ∀ a other b, front = a ++ other :: b → other.priority = r.priority → other.key = r.key →
        other.matches? (s.found a other (b ++ r :: back)) ≠ some true := by
  rw [Rule.Wins, sublog_filter_eq_higherEntries hCompiles hRules]
  refine and_congr_right fun _ => ⟨fun hFresh => ⟨fun m hm => ?_, ?_⟩, ?_⟩
  · rw [entriesBefore_eq] at hFresh
    exact hFresh m (List.mem_append_left _ hm)
  · rintro a other b hFront hPriority hKey hMatches
    obtain ⟨more, hEntries⟩ := exists_entriesBefore_eq hFront hPriority
    obtain ⟨m, hm, hSame⟩ := exists_mem_added hMatches
    rw [hEntries, ← List.append_assoc] at hFresh
    exact hFresh m (List.mem_append_left _ hm) (hSame.trans hKey)
  · rintro ⟨hHigher, hOwn⟩ m hm hKey
    rw [entriesBefore_eq, List.mem_append] at hm
    rcases hm with hm | hm
    · exact hHigher m hm hKey
    · obtain ⟨a, other, b, hFront, hSame, hOtherKey, hWins⟩ := exists_wins_of_mem_ledger hm
      have hPriority : other.priority = r.priority := by simpa using hSame
      rw [← entriesBefore_eq_of_priority hFront hPriority] at hWins
      exact hOwn a other b hFront hPriority (hOtherKey.trans hKey) hWins.1

/-- The order of declaration decides in a section. Each rule of the list goes on from the entries
that it finds, and adds its own exactly when it matches then, no rule of higher priority has written
its key, and none of its own priority that stands before it in the list has matched for this key. -/
structure DecidesInOrder (s : Section) (rules : List Rule) : Prop where
  sublog : ∀ {front r back}, rules = front ++ r :: back →
    ∃ rest, s.sublog rules = s.entriesBefore front r back ++
      (r.added s (s.entriesBefore front r back) ++ rest)
  wins_iff : ∀ {front r back}, rules = front ++ r :: back →
    (r.Wins s (s.entriesBefore front r back) ↔
      r.matches? (s.found front r back) = some true ∧
      (∀ m ∈ s.sublog (rules.filter (r.priority < ·.priority)), m.key ≠ r.key) ∧
      ∀ a other b, front = a ++ other :: b → other.priority = r.priority → other.key = r.key →
        other.matches? (s.found a other (b ++ r :: back)) ≠ some true)

/-- Every section decides between rules of one priority in the order of their declaration. -/
theorem decidesInOrder (hCompiles : ∀ r ∈ rules, r.Compiles) (s : Section) :
    s.DecidesInOrder rules where
  sublog := exists_sublog_eq_entriesBefore hCompiles s
  wins_iff := wins_iff hCompiles

end Section

end Rubric
