import Rubric.Rule.Basic

/-! The order in which rules run. Three properties describe it: no rule is lost or added, no rule
comes before one of higher priority, and rules of one priority stand as they were declared. They
leave no choice, so a ranking can be taken apart by priority, or thinned out, before or after it is
made. -/
namespace Rubric.Rule

/-- The second list has the rules of the first by descending priority, and rules of equal priority
in the order of the first. -/
structure IsRanking (rules ranked : List Rule) : Prop where
  perm : ranked.Perm rules
  descending : ranked.Pairwise fun a b => b.priority ≤ a.priority
  stable : ∀ p, ranked.filter (·.priority = p) = rules.filter (·.priority = p)

theorem ranked_perm (rules : List Rule) : (ranked rules).Perm rules :=
  List.mergeSort_perm _ _

theorem mem_ranked {rules : List Rule} {r : Rule} : r ∈ ranked rules ↔ r ∈ rules :=
  (ranked_perm rules).mem_iff

private theorem precedes_trans (a b c : Rule) (hab : decide (b.priority ≤ a.priority) = true)
    (hbc : decide (c.priority ≤ b.priority) = true) : decide (c.priority ≤ a.priority) = true := by
  simp only [decide_eq_true_eq] at hab hbc ⊢
  omega

private theorem precedes_total (a b : Rule) :
    (decide (b.priority ≤ a.priority) || decide (a.priority ≤ b.priority)) = true := by
  simp only [Bool.or_eq_true, decide_eq_true_eq]
  omega

/-- No rule stands before one of a higher priority. -/
theorem ranked_descending (rules : List Rule) :
    (ranked rules).Pairwise fun a b => b.priority ≤ a.priority := by
  have h := List.pairwise_mergeSort precedes_trans precedes_total rules
  simpa [ranked] using h

/-- A list of rules of one priority counts as sorted, so the sort keeps it as a sublist. Both
filters have the same length, which leaves no room for another order. -/
theorem filter_priority_ranked (rules : List Rule) (p : Int) :
    (ranked rules).filter (·.priority = p) = rules.filter (·.priority = p) := by
  have hPairwise : (rules.filter (·.priority = p)).Pairwise
      fun a b => decide (b.priority ≤ a.priority) = true := by
    apply List.pairwise_of_forall_mem_list
    intro a ha b hb
    simp only [List.mem_filter, decide_eq_true_eq] at ha hb ⊢
    omega
  have hSublist := List.sublist_mergeSort precedes_trans precedes_total hPairwise
    List.filter_sublist
  have hFiltered := hSublist.filter (·.priority = p)
  rw [List.filter_filter] at hFiltered
  simp only [Bool.and_self] at hFiltered
  have hLength := ((ranked_perm rules).filter (·.priority = p)).length_eq
  exact (hFiltered.eq_of_length hLength.symm).symm

/-- The sorted rules are a ranking: descending, and stable within each priority. -/
theorem isRanking_ranked (rules : List Rule) : IsRanking rules (ranked rules) where
  perm := ranked_perm rules
  descending := ranked_descending rules
  stable := filter_priority_ranked rules

section

variable {first second : List Rule}

private theorem mem_iff_of_filter_priority_eq
    (h : ∀ p, first.filter (·.priority = p) = second.filter (·.priority = p)) (r : Rule) :
    r ∈ first ↔ r ∈ second := by
  have hOwn : r ∈ first.filter (·.priority = r.priority) ↔
      r ∈ second.filter (·.priority = r.priority) := by rw [h]
  simpa using hOwn

/-- Lists by descending priority are equal where each priority has the same rules in the same order
in both. The heads are the first rules of the highest priority, and so are those of what is left. -/
theorem eq_of_filter_priority_eq
    (hFirst : first.Pairwise fun a b => b.priority ≤ a.priority)
    (hSecond : second.Pairwise fun a b => b.priority ≤ a.priority)
    (h : ∀ p, first.filter (·.priority = p) = second.filter (·.priority = p)) :
    first = second := by
  have hMem := mem_iff_of_filter_priority_eq h
  induction first generalizing second with
  | nil => simpa [eq_comm, List.eq_nil_iff_forall_not_mem] using hMem
  | cons a front ih =>
      cases second with
      | nil => simpa using hMem a
      | cons b back =>
          obtain ⟨hA, hFront⟩ := List.pairwise_cons.mp hFirst
          obtain ⟨hB, hBack⟩ := List.pairwise_cons.mp hSecond
          have hHigher : b.priority ≤ a.priority := by
            rcases List.mem_cons.mp ((hMem b).mpr List.mem_cons_self) with rfl | hb
            · exact Int.le_refl _
            · exact hA b hb
          have hLower : a.priority ≤ b.priority := by
            rcases List.mem_cons.mp ((hMem a).mp List.mem_cons_self) with rfl | ha
            · exact Int.le_refl _
            · exact hB a ha
          have hPriority : b.priority = a.priority := Int.le_antisymm hHigher hLower
          obtain ⟨rfl, -⟩ : a = b ∧ _ := by simpa [hPriority] using h a.priority
          have hRest (p : Int) : front.filter (·.priority = p) = back.filter (·.priority = p) := by
            by_cases hp : a.priority = p <;> simpa [hp] using h p
          rw [ih hFront hBack hRest (mem_iff_of_filter_priority_eq hRest)]

/-- There is only one ranking of a list of rules, so every stable sort gives the same one. -/
theorem IsRanking.eq {rules : List Rule} (hFirst : IsRanking rules first)
    (hSecond : IsRanking rules second) : first = second :=
  eq_of_filter_priority_eq hFirst.descending hSecond.descending fun p =>
    (hFirst.stable p).trans (hSecond.stable p).symm

end

section

variable {rules others : List Rule}

/-- The order in which rules of different priorities are declared has no effect. -/
theorem ranked_congr
    (h : ∀ p, others.filter (·.priority = p) = rules.filter (·.priority = p)) :
    ranked others = ranked rules := by
  apply eq_of_filter_priority_eq (ranked_descending others) (ranked_descending rules)
  intro p
  rw [filter_priority_ranked, filter_priority_ranked, h]

@[simp] theorem ranked_ranked (rules : List Rule) : ranked (ranked rules) = ranked rules :=
  ranked_congr (filter_priority_ranked rules)

theorem length_ranked (rules : List Rule) : (ranked rules).length = rules.length :=
  (ranked_perm rules).length_eq

/-- Leaving rules out does not change the order of the others. -/
theorem ranked_filter (keep : Rule → Bool) (rules : List Rule) :
    ranked (rules.filter keep) = (ranked rules).filter keep := by
  refine (isRanking_ranked _).eq ⟨?_, ?_, ?_⟩
  · exact (ranked_perm rules).filter keep
  · exact (ranked_descending rules).filter keep
  · intro p
    simp only [List.filter_filter, Bool.and_comm _ (keep _)]
    rw [← List.filter_filter, ← List.filter_filter, filter_priority_ranked]

/-- The rules of at least some priority, in the order of declaration. -/
def atLeast (p : Int) (rules : List Rule) : List Rule :=
  rules.filter (p ≤ ·.priority)

/-- The rules below some priority, in the order of declaration. -/
def below (p : Int) (rules : List Rule) : List Rule :=
  rules.filter (·.priority < p)

/-- By descending priority the rules from a priority on stand before the rules below it. -/
theorem filter_append_filter_of_descending {p : Int}
    (h : rules.Pairwise fun a b => b.priority ≤ a.priority) :
    rules.filter (p ≤ ·.priority) ++ rules.filter (·.priority < p) = rules := by
  induction rules with
  | nil => rfl
  | cons r rest ih =>
      obtain ⟨hr, hRest⟩ := List.pairwise_cons.mp h
      by_cases hp : p ≤ r.priority
      · have hLow : ¬r.priority < p := by omega
        simp [hp, hLow, ih hRest]
      · have hLow : r.priority < p := by omega
        have hNone : rest.filter (p ≤ ·.priority) = [] := by
          simp only [List.filter_eq_nil_iff, decide_eq_true_eq]
          intro other hOther
          have hBelow := hr other hOther
          omega
        have hAll := ih hRest
        rw [hNone, List.nil_append] at hAll
        simp [hp, hLow, hNone, hAll]

/-- The ranking begins with the ranking of the rules of higher priority. -/
theorem ranked_eq_append (p : Int) (rules : List Rule) :
    ranked rules = ranked (atLeast p rules) ++ ranked (below p rules) := by
  rw [atLeast, below, ranked_filter, ranked_filter,
    filter_append_filter_of_descending (ranked_descending rules)]

end

section

variable {kind : Rule → Prop} {rules : List Rule} {r other : Rule}

/-- A rule is the first of its kind to run: none of that kind has a higher priority, and none of the
same priority is declared before it. -/
def Leads (kind : Rule → Prop) (rules : List Rule) (r : Rule) : Prop :=
  ∃ front back, rules = front ++ r :: back ∧ kind r ∧
    (∀ other ∈ front, kind other → other.priority < r.priority) ∧
    ∀ other ∈ back, kind other → other.priority ≤ r.priority

/-- Which rule leads depends on the rules of its own priority, in their order, and on the highest
priority. The ranking keeps both. -/
theorem leads_iff_find? [DecidablePred kind] :
    Leads kind rules r ↔ (∀ other ∈ rules, kind other → other.priority ≤ r.priority) ∧
      (rules.filter (·.priority = r.priority)).find? (kind ·) = some r := by
  rw [List.find?_filter, List.find?_eq_some_iff_append]
  constructor
  · rintro ⟨front, back, rfl, hr, hFront, hBack⟩
    refine ⟨?_, by simpa using hr, front, back, rfl, ?_⟩
    · intro other hOther hKind
      rcases List.mem_append.mp hOther with hOther | hOther
      · exact Int.le_of_lt (hFront other hOther hKind)
      · rcases List.mem_cons.mp hOther with rfl | hOther
        · exact Int.le_refl _
        · exact hBack other hOther hKind
    · intro other hOther
      have hLower := hFront other hOther
      simp only [Bool.not_eq_true', decide_eq_true_eq, decide_eq_false_iff_not]
      rintro ⟨hSame, hKind⟩
      exact absurd hSame (Int.ne_of_lt (hLower hKind))
  · rintro ⟨hHighest, hr, front, back, rfl, hFront⟩
    refine ⟨front, back, rfl, by simpa using hr, ?_, ?_⟩
    · intro other hOther hKind
      have hLe := hHighest other (by simp [hOther]) hKind
      have hNe : other.priority ≠ r.priority := by
        intro hSame
        simpa [hSame, hKind] using hFront other hOther
      omega
    · intro other hOther hKind
      exact hHighest other (by simp [hOther]) hKind

/-- The rule that leads among its kind is the same before the ranking and after it. -/
theorem leads_ranked_iff [DecidablePred kind] :
    Leads kind (ranked rules) r ↔ Leads kind rules r := by
  simp [leads_iff_find?, mem_ranked, filter_priority_ranked]

/-- The first rule of a kind in the ranking leads, and so is known without any ranking. -/
theorem find?_ranked_eq_some_iff [DecidablePred kind] :
    (ranked rules).find? (kind ·) = some r ↔ Leads kind rules r := by
  have hDescending := ranked_descending rules
  rw [← leads_ranked_iff, List.find?_eq_some_iff_append]
  generalize ranked rules = order at hDescending
  constructor
  · rintro ⟨hr, front, back, rfl, hFront⟩
    have hBack := (List.pairwise_cons.mp (List.pairwise_append.mp hDescending).2.1).1
    refine ⟨front, back, rfl, by simpa using hr, ?_, fun other hOther _ => hBack other hOther⟩
    intro other hOther hKind
    simpa [hKind] using hFront other hOther
  · rintro ⟨front, back, rfl, hr, hFront, -⟩
    have hAbove := (List.pairwise_append.mp hDescending).2.2
    refine ⟨by simpa using hr, front, back, rfl, ?_⟩
    intro other hOther
    have hHigher := hAbove other hOther r List.mem_cons_self
    simp only [Bool.not_eq_true', decide_eq_false_iff_not]
    intro hKind
    have hLower := hFront other hOther hKind
    omega

theorem Leads.eq [DecidablePred kind] (h : Leads kind rules r) (hOther : Leads kind rules other) :
    r = other := by
  rw [← find?_ranked_eq_some_iff] at h hOther
  exact Option.some.inj (h.symm.trans hOther)

end

end Rubric.Rule
