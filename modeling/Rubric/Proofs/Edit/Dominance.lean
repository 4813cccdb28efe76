import Rubric.Proofs.Edit.Winners

/-! Rules below a priority do not reach those above it. They have their turns later, so their
entries only continue the log, and they write under no key that a rule above them has written. -/
namespace Rubric

/-- In a section the entries of all rules begin with the entries of the rules of priority at least
`p`. What is added to them comes from rules below `p` and stands under other keys. -/
structure Section.Continues (s : Section) (p : Int) (rules : List Rule)
    (added : List (Rule × Modification)) : Prop where
  signed : s.signed rules = s.signed (Rule.atLeast p rules) ++ added
  sublog : s.sublog rules = s.sublog (Rule.atLeast p rules) ++ added.map Prod.snd
  below : ∀ x ∈ added, x.1 ∈ rules ∧ x.1.priority < p
  made : ∀ x ∈ added, x.1.Made x.2
  fresh : ∀ x ∈ added, ∀ m ∈ s.sublog (Rule.atLeast p rules), m.key ≠ x.2.key

namespace Section

variable {s : Section} {rules : List Rule} {p : Int}

/-- The rules below a priority go on where those above it have left the ledger. -/
theorem exists_signed_eq_append (s : Section) (p : Int) (rules : List Rule) :
    ∃ above, s.signed rules = s.signed (Rule.atLeast p rules) ++
      Rule.sign (Rule.ranked (Rule.below p rules))
        (s.ledger above (Rule.ranked (Rule.below p rules))) := by
  refine ⟨(s.ledger [] (Rule.ranked (Rule.atLeast p rules))).reduceOption, ?_⟩
  rw [signed, Rule.ranked_eq_append p, ledger_append, Rule.sign_append length_ledger]
  rfl

theorem exists_continues (hCompiles : ∀ r ∈ rules, r.Compiles) (s : Section) (p : Int) :
    ∃ added, s.Continues p rules added := by
  have hHigher : ∀ r ∈ Rule.atLeast p rules, r.Compiles := Rule.compiles_filter hCompiles
  obtain ⟨above, hSigned⟩ := s.exists_signed_eq_append p rules
  have hSublog := congrArg (List.map Prod.snd) hSigned
  rw [List.map_append, map_snd_signed hCompiles, map_snd_signed hHigher] at hSublog
  refine ⟨_, hSigned, hSublog, ?_, ?_, ?_⟩
  · intro x hx
    have hRule : x.1 ∈ Rule.ranked (Rule.below p rules) :=
      Rule.map_fst_sign_sublist.mem (List.mem_map_of_mem hx)
    simpa [Rule.mem_ranked, Rule.below] using hRule
  · intro x hx
    exact Rule.made_of_mem_sign hx
  · intro x hx m hm hKey
    have hDistinct := (s.records_sublog hCompiles).distinct
    rw [hSublog, List.map_append] at hDistinct
    have hApart := (List.nodup_append.mp hDistinct).2.2
    exact hApart m.key (List.mem_map_of_mem hm) x.2.key
      (List.mem_map_of_mem (List.mem_map_of_mem hx)) hKey

/-- What a rule above has written is not written again, so it stays the first line of its key. -/
theorem Continues.first?_eq {added : List (Rule × Modification)}
    (h : s.Continues p rules added) {m : Modification} (hm : m ∈ s.sublog (Rule.atLeast p rules)) :
    (s.after (s.sublog (Rule.atLeast p rules))).first? m.key =
      (s.after (s.sublog rules)).first? m.key := by
  have hFresh : ∀ later ∈ added.map Prod.snd, later.key ≠ m.key := by
    intro later hLater
    obtain ⟨x, hx, rfl⟩ := List.mem_map.mp hLater
    exact (h.fresh x hx m hm).symm
  rw [h.sublog, after_append, first?_after_of_forall_ne hFresh]

end Section

/-- Rules below a priority have no influence on those above it. With them or without them the rules
above make the same entries, the entries of the rules below follow under other keys, and every key
that a rule above has written has the same first line after both applications. -/
theorem Document.apply_priority_dominates (document : Document) (rules : List Rule)
    (hCompiles : ∀ r ∈ rules, r.Compiles) (p : Int) :
    (document.apply (Rule.atLeast p rules)).result =
        .ok (document.flatMap fun s => s.sublog (Rule.atLeast p rules)) ∧
      (document.apply rules).result = .ok (document.flatMap fun s => s.sublog rules) ∧
      ∀ (i : Nat) (s : Section), document[i]? = some s → ∃ added t u,
        s.Continues p rules added ∧
        (document.apply (Rule.atLeast p rules)).document[i]? = some t ∧
        (document.apply rules).document[i]? = some u ∧
        ∀ m ∈ s.sublog (Rule.atLeast p rules), t.first? m.key = u.first? m.key := by
  have hHigher : ∀ r ∈ Rule.atLeast p rules, r.Compiles := Rule.compiles_filter hCompiles
  refine ⟨apply_result hHigher document, apply_result hCompiles document, ?_⟩
  intro i s hs
  obtain ⟨added, hContinues⟩ := s.exists_continues hCompiles p
  refine ⟨added, s.after (s.sublog (Rule.atLeast p rules)), s.after (s.sublog rules),
    hContinues, ?_, ?_, ?_⟩
  · simp [apply_document hHigher, hs]
  · simp [apply_document hCompiles, hs]
  · intro m hm
    exact hContinues.first?_eq hm

/-- The rule of the higher priority writes first. The others add behind it and leave its line
alone. -/
theorem Document.apply_priority_dominates_rivals :
    (∀ r ∈ Rule.rivals, r.Compiles) ∧
      Section.contested.sublog (Rule.atLeast 1 Rule.rivals) = Section.contestedLog.take 1 ∧
      ∃ added t u, Section.contested.Continues 1 Rule.rivals added ∧
        added.map Prod.snd = Section.contestedLog.drop 1 ∧
        (Document.apply (Rule.atLeast 1 Rule.rivals) [.contested]).document = [t] ∧
        (Document.apply Rule.rivals [.contested]).document = [u] ∧
        u.lines.map (·.text) =
          ["; note".toList, "foo = 2".toList, "foo = 3".toList, "run = y".toList] ∧
        (t.first? "foo".toList).map (·.text) = some "foo = 2".toList := by
  have hRanked : Rule.ranked (Rule.atLeast 1 Rule.rivals) = Rule.atLeast 1 Rule.rivals :=
    List.mergeSort_of_pairwise (by decide)
  have hCompiles : ∀ r ∈ Rule.atLeast 1 Rule.rivals, r.Compiles :=
    Rule.compiles_filter Rule.compiles_rivals
  have hHigher : Section.contested.sublog (Rule.atLeast 1 Rule.rivals) =
      Section.contestedLog.take 1 := by
    rw [Section.sublog_eq_entries hCompiles, hRanked]
    decide
  have hAll : (Document.apply Rule.rivals [.contested]).document =
      [Section.contested.after Section.contestedLog] := by
    rw [apply_document Rule.compiles_rivals, List.map_singleton, Section.sublog_rivals_contested]
  obtain ⟨-, -, hSections⟩ :=
    apply_priority_dominates [.contested] Rule.rivals Rule.compiles_rivals 1
  obtain ⟨added, t, u, hContinues, ht, hu, hFirst⟩ := hSections 0 .contested rfl
  obtain rfl : Section.contested.after Section.contestedLog = u := by simpa [hAll] using hu
  have hKept : (Document.apply (Rule.atLeast 1 Rule.rivals) [.contested]).document = [t] := by
    rw [apply_document hCompiles] at ht ⊢
    exact congrArg (fun s => [s]) (Option.some.inj ht)
  refine ⟨Rule.compiles_rivals, hHigher, added, t, _, hContinues, ?_, hKept, hAll, by decide, ?_⟩
  · have hSublog := hContinues.sublog
    rw [Section.sublog_rivals_contested, hHigher,
      ← List.take_append_drop 1 Section.contestedLog] at hSublog
    exact (List.append_cancel_left hSublog).symm
  · rw [hHigher] at hFirst
    have hSame := hFirst _ List.mem_cons_self
    exact (congrArg (Option.map Line.text) hSame).trans (by decide)

end Rubric
