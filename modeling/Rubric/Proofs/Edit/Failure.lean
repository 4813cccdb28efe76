import Rubric.Proofs.Edit.Ledger

/-! How applying rules fails. Writes never do, so all that can fail is a pattern, and patterns are
compiled before a section is touched. A failure therefore leaves the document as it was, and it
names the rule that would have run first of those whose patterns do not compile. -/
namespace Rubric

variable {rules : List Rule} {r : Rule}

/-- Either all rules compile or one of those that do not comes first in the ranking. -/
theorem Rule.forall_compiles_or_exists_leads (rules : List Rule) :
    (∀ r ∈ rules, r.Compiles) ∨ ∃ r, Leads (¬·.Compiles) rules r := by
  cases hFind : (ranked rules).find? (¬·.Compiles) with
  | none =>
      left
      intro r hr
      simpa using List.find?_eq_none.mp hFind r (mem_ranked.mpr hr)
  | some r =>
      right
      exact ⟨r, find?_ranked_eq_some_iff.mp hFind⟩

/-- The first pattern that does not compile is the one that is told. -/
theorem ReadyRule.ofRules_of_find? (h : rules.find? (¬·.Compiles) = some r) :
    ofRules rules = .error (.invalidPattern r.name r.pattern) := by
  induction rules with
  | nil => simp at h
  | cons first rest ih =>
      rw [List.find?_cons] at h
      cases hPattern : Pattern.compile? first.pattern with
      | none =>
          obtain rfl : first = r := by simpa [Rule.Compiles, hPattern] using h
          simp [ofRules, hPattern]
      | some pattern =>
          have hRest : ofRules rest = .error (.invalidPattern r.name r.pattern) :=
            ih (by simpa [Rule.Compiles, hPattern] using h)
          simp [ofRules, hPattern, hRest, Except.map]

namespace Document

/-- The leading rule among those that do not compile ends the application before it begins. -/
theorem apply_of_leads (document : Document) (h : Rule.Leads (¬·.Compiles) rules r) :
    document.apply rules =
      { document := document
        result := .error (.invalidPattern r.name r.pattern)
        events := [] } := by
  have hReady := ReadyRule.ofRules_of_find? (Rule.find?_ranked_eq_some_iff.mpr h)
  simp [apply, hReady]

/-- An application fails with the leading rule that does not compile, and in no other way. -/
theorem apply_result_eq_error_iff {document : Document} {e : Error} :
    (document.apply rules).result = .error e ↔
      ∃ r, Rule.Leads (¬·.Compiles) rules r ∧ e = .invalidPattern r.name r.pattern := by
  constructor
  · intro h
    rcases Rule.forall_compiles_or_exists_leads rules with hCompiles | ⟨r, hLeads⟩
    · simp [apply_result hCompiles] at h
    · refine ⟨r, hLeads, ?_⟩
      simpa [apply_of_leads document hLeads, eq_comm] using h
  · rintro ⟨r, hLeads, rfl⟩
    rw [apply_of_leads document hLeads]

/-- Applying rules fails exactly when the pattern of some rule does not compile. The error names the
rule that is the first such to run, with its pattern. It is never about a line, and the document is
left as it was. -/
theorem apply_fails_atomically (document : Document) (rules : List Rule) :
    ((∃ e, (document.apply rules).result = .error e) ↔ ∃ r ∈ rules, ¬r.Compiles) ∧
      (∀ e, (document.apply rules).result = .error e ↔
        ∃ r, Rule.Leads (¬·.Compiles) rules r ∧ e = .invalidPattern r.name r.pattern) ∧
      (∀ e, (document.apply rules).result = .error e →
        (document.apply rules).document = document) ∧
      ∀ line, (document.apply rules).result ≠ .error (.lineWithoutKey line) := by
  refine ⟨?_, fun e => apply_result_eq_error_iff, ?_, ?_⟩
  · constructor
    · rintro ⟨e, he⟩
      obtain ⟨r, ⟨front, back, rfl, hr, -⟩, -⟩ := apply_result_eq_error_iff.mp he
      exact ⟨r, by simp, hr⟩
    · rintro ⟨r, hr, hBroken⟩
      rcases Rule.forall_compiles_or_exists_leads rules with hCompiles | ⟨first, hLeads⟩
      · exact absurd (hCompiles r hr) hBroken
      · exact ⟨_, apply_result_eq_error_iff.mpr ⟨first, hLeads, rfl⟩⟩
  · intro e he
    obtain ⟨r, hLeads, -⟩ := apply_result_eq_error_iff.mp he
    rw [apply_of_leads document hLeads]
  · intro line hLine
    obtain ⟨r, -, hError⟩ := apply_result_eq_error_iff.mp hLine
    cases hError

end Document

/-- Rules of which three do not compile. The first of those to run is the third one declared. -/
def Rule.faulty : List Rule :=
  [{ name := "low".toList, pattern := "A(".toList, key := "foo".toList, value := "2".toList
     priority := -1, conditions := [] },
   { name := "sound".toList, pattern := "A".toList, key := "foo".toList, value := "3".toList
     priority := 7, conditions := [] },
   { name := "leading".toList, pattern := "[".toList, key := "bar".toList, value := "x".toList
     priority := 5, conditions := [] },
   { name := "late".toList, pattern := "*".toList, key := "bar".toList, value := "y".toList
     priority := 5, conditions := [] }]

/-- Three patterns are faulty. Of the two with the highest priority the first one is told, and the
document stays. -/
theorem Document.apply_fails_atomically_faulty :
    ∃ e, (Document.apply Rule.faulty [.contested]).result = .error e ∧
      e = .invalidPattern "leading".toList "[".toList ∧
      (Document.apply Rule.faulty [.contested]).document = [.contested] := by
  obtain ⟨hFails, hError, hDocument, -⟩ := apply_fails_atomically [.contested] Rule.faulty
  have hBroken : ∃ r ∈ Rule.faulty, ¬r.Compiles := by decide +kernel
  obtain ⟨e, he⟩ := hFails.mpr hBroken
  obtain ⟨r, hLeads, hNamed⟩ := (hError e).mp he
  have hLeading : Rule.Leads (¬·.Compiles) Rule.faulty Rule.faulty[2] :=
    ⟨Rule.faulty.take 2, Rule.faulty.drop 3, rfl, by decide +kernel, by decide +kernel,
      by decide +kernel⟩
  obtain rfl := hLeads.eq hLeading
  exact ⟨e, he, hNamed, hDocument e he⟩

end Rubric
