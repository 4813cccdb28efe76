import Rubric.Proofs.Edit.Ledger

/-! Which rules write in a section. Each rule of the ranking has a place in the section's ledger,
and the place is filled exactly when the rule matches the section as better ranked rules have left
it and none of them has taken its key. So each entry has one rule that made it, even where rules
share their names. -/
namespace Rubric

/-- The ledger has a place for each rule of the ranking. A place is filled exactly when its rule
wins behind the entries in the places before it, and what fills it is the record of that write. -/
structure Section.Decides (s : Section) (ranked : List Rule)
    (ledger : List (Option Modification)) : Prop where
  length_eq : ledger.length = ranked.length
  entry_iff : ∀ (i : Nat) (r : Rule) (m : Modification), ranked[i]? = some r →
    (ledger[i]? = some (some m) ↔ r.Wins s (ledger.take i).reduceOption ∧
      m = { sectionName := s.name
            ruleName := r.name
            key := r.key
            previous := (s.after (ledger.take i).reduceOption).value? r.key
            value := r.value })

/-- An entry repeats the name, the key and the value of the rule that made it. -/
structure Rule.Made (r : Rule) (m : Modification) : Prop where
  name : m.ruleName = r.name
  key : m.key = r.key
  value : m.value = r.value

/-- The entries of a ledger, each with the rule in whose place it stands. -/
def Rule.sign (ranked : List Rule) (ledger : List (Option Modification)) :
    List (Rule × Modification) :=
  (ranked.zip ledger).filterMap fun (r, place) => place.map (r, ·)

namespace Section

variable {s : Section} {above : List Modification} {rules : List Rule} {r : Rule} {i : Nat}

/-- The entries of rules in a section in the order of its log, each with the rule that made it. -/
def signed (s : Section) (rules : List Rule) : List (Rule × Modification) :=
  Rule.sign (Rule.ranked rules) (s.ledger [] (Rule.ranked rules))

theorem not_wins_of_isPreamble (h : s.isPreamble = true) : ¬r.Wins s above := by
  rintro ⟨hMatches, -⟩
  obtain ⟨pattern, -, hMatches⟩ := Option.map_eq_some_iff.mp hMatches
  simp [Rule.matchesWith, h] at hMatches

/-- The ledger needs no case for the preamble: no rule wins there. -/
theorem entries_eq_reduceOption_ledger (s : Section) (ranked : List Rule) :
    s.entries ranked = (s.ledger [] ranked).reduceOption := by
  rw [entries]
  split
  next hPreamble =>
    induction ranked with
    | nil => rfl
    | cons r rest ih => simpa [ledger, not_wins_of_isPreamble hPreamble] using ih
  next => rfl

theorem length_ledger : (s.ledger above rules).length = rules.length := by
  induction rules generalizing above with
  | nil => rfl
  | cons r rest ih =>
      rw [ledger]
      split <;> simp [ih]

/-- The places of later rules depend on the earlier ones only through the entries in theirs. -/
theorem ledger_append {later : List Rule} :
    s.ledger above (rules ++ later) = s.ledger above rules ++
      s.ledger (above ++ (s.ledger above rules).reduceOption) later := by
  induction rules generalizing above with
  | nil => simp [ledger]
  | cons r rest ih =>
      rw [List.cons_append, ledger, ledger]
      split <;> simp [ih]

/-- A place in the ledger depends on the entries in the places before it and on nothing else. -/
theorem getElem?_ledger (hr : rules[i]? = some r) :
    (s.ledger above rules)[i]? =
      some (if r.Wins s (above ++ ((s.ledger above rules).take i).reduceOption) then
        some (r.entry (s.after (above ++ ((s.ledger above rules).take i).reduceOption)))
      else none) := by
  induction rules generalizing above i with
  | nil => simp at hr
  | cons first rest ih =>
      rw [ledger]
      cases i with
      | zero =>
          obtain rfl : first = r := by simpa using hr
          split <;> simp_all
      | succ i =>
          have hRest : rest[i]? = some r := by simpa using hr
          split
          next hWins =>
            have hPlace : (s.ledger (above ++ [first.entry (s.after above)]) rest)[i]? = _ :=
              ih hRest
            simpa [List.append_assoc] using hPlace
          next => simpa using ih hRest

/-- The ledger gives each rule the entry it deserves. -/
theorem decides_ledger : s.Decides rules (s.ledger [] rules) where
  length_eq := length_ledger
  entry_iff := by
    intro i r m hr
    rw [getElem?_ledger hr]
    by_cases hWins : r.Wins s ((s.ledger [] rules).take i).reduceOption
    · simp [hWins, Rule.entry, eq_comm]
    · simp [hWins]

end Section

namespace Rule

variable {ranked : List Rule} {ledger : List (Option Modification)}

theorem sign_append {later : List Rule} {places : List (Option Modification)}
    (h : ledger.length = ranked.length) :
    sign (ranked ++ later) (ledger ++ places) = sign ranked ledger ++ sign later places := by
  rw [sign, List.zip_append h.symm, List.filterMap_append]
  rfl

theorem map_snd_sign (h : ledger.length = ranked.length) :
    (sign ranked ledger).map Prod.snd = ledger.reduceOption := by
  have hPlaces : (ranked.zip ledger).map Prod.snd = ledger :=
    List.map_snd_zip (Nat.le_of_eq h)
  calc (sign ranked ledger).map Prod.snd
      = (ranked.zip ledger).filterMap Prod.snd := by
        simp [sign, List.map_filterMap, Function.comp_def]
    _ = ((ranked.zip ledger).map Prod.snd).reduceOption := by
        simp [List.reduceOption, List.filterMap_map]
    _ = ledger.reduceOption := by rw [hPlaces]

/-- The rules that sign keep the order of the ranking. -/
theorem map_fst_sign_sublist : ((sign ranked ledger).map Prod.fst).Sublist ranked := by
  induction ranked generalizing ledger with
  | nil => simp [sign]
  | cons r rest ih =>
      cases ledger with
      | nil => simp [sign]
      | cons place places =>
          have hRest : ((sign rest places).map Prod.fst).Sublist rest := ih
          cases place with
          | none => exact hRest.cons r
          | some m => exact hRest.cons_cons r

/-- Each entry is made by the rule that signs it. -/
theorem made_of_mem_sign {s : Section} {above : List Modification} {x : Rule × Modification}
    (hx : x ∈ sign ranked (s.ledger above ranked)) : x.1.Made x.2 := by
  induction ranked generalizing above with
  | nil => simp [sign] at hx
  | cons r rest ih =>
      rw [Section.ledger] at hx
      split at hx
      next =>
        rcases List.mem_cons.mp hx with rfl | hx
        · exact ⟨rfl, rfl, rfl⟩
        · exact ih hx
      next => exact ih hx

end Rule

namespace Section

variable {s : Section} {rules : List Rule}

/-- Without the signatures the signed sub-log is the sub-log. -/
theorem map_snd_signed (hCompiles : ∀ r ∈ rules, r.Compiles) (s : Section) :
    (s.signed rules).map Prod.snd = s.sublog rules := by
  rw [signed, Rule.map_snd_sign length_ledger, sublog_eq_entries hCompiles,
    entries_eq_reduceOption_ledger]

theorem map_fst_signed_sublist : ((s.signed rules).map Prod.fst).Sublist (Rule.ranked rules) :=
  Rule.map_fst_sign_sublist

theorem made_of_mem_signed {x : Rule × Modification} (hx : x ∈ s.signed rules) : x.1.Made x.2 :=
  Rule.made_of_mem_sign hx

/-- Every entry of a sub-log is made by one of the rules. -/
theorem exists_made_of_mem_sublog (hCompiles : ∀ r ∈ rules, r.Compiles) {m : Modification}
    (hm : m ∈ s.sublog rules) : ∃ r ∈ rules, r.Made m := by
  rw [← map_snd_signed hCompiles] at hm
  obtain ⟨x, hx, rfl⟩ := List.mem_map.mp hm
  have hRule : x.1 ∈ Rule.ranked rules :=
    map_fst_signed_sublist.mem (List.mem_map_of_mem hx)
  exact ⟨x.1, Rule.mem_ranked.mp hRule, made_of_mem_signed hx⟩

end Section

/-- Applying rules whose patterns compile succeeds, and the log joins the sub-logs of the sections
in their order. In a section other than the preamble the sub-log is what fills the ledger of the
ranking, so exactly the rules that win their turn are in it. No sub-log has two entries for a key,
whatever the sections are called. -/
theorem Document.apply_result_winners (document : Document) (rules : List Rule)
    (hCompiles : ∀ r ∈ rules, r.Compiles) :
    Rule.IsRanking rules (Rule.ranked rules) ∧
      (document.apply rules).result = .ok (document.flatMap fun s => s.sublog rules) ∧
      ∀ s ∈ document, (s.isPreamble = true → s.sublog rules = []) ∧
        (s.isPreamble = false → ∃ ledger, s.Decides (Rule.ranked rules) ledger ∧
          s.sublog rules = ledger.reduceOption) ∧
        ((s.sublog rules).map (·.key)).Nodup := by
  refine ⟨Rule.isRanking_ranked rules, apply_result hCompiles document, ?_⟩
  intro s _
  have hEntries := Section.sublog_eq_entries hCompiles s
  refine ⟨?_, ?_, (s.records_sublog hCompiles).distinct⟩
  · intro hPreamble
    simp [hEntries, Section.entries, hPreamble]
  · intro hOrdinary
    exact ⟨s.ledger [] (Rule.ranked rules), Section.decides_ledger,
      by simp [hEntries, Section.entries, hOrdinary]⟩

/-- Two of three rules win in a contested section. -/
theorem Document.apply_result_winners_rivals :
    (∀ r ∈ Rule.rivals, r.Compiles) ∧
      ∃ ledger, Section.contested.Decides (Rule.ranked Rule.rivals) ledger ∧
        ledger.reduceOption = Section.contestedLog := by
  have h := apply_result_winners [.contested, .contested] Rule.rivals Rule.compiles_rivals
  obtain ⟨ledger, hDecides, hLog⟩ := (h.2.2 .contested (by simp)).2.1 (by decide)
  exact ⟨Rule.compiles_rivals, ledger, hDecides, hLog ▸ Section.sublog_rivals_contested⟩

end Rubric
