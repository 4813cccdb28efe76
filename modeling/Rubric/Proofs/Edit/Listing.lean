import Rubric.Proofs.Edit.Winners
import Rubric.Proofs.Run.Delivery

/-! What the listing of rules tells. Rules write in the order of the listing, and nothing about a
list of rules but its listing has an effect on documents: lists with one listing can stand for each
other, whether their rules apply or fail. -/
namespace Rubric

variable {rules others : List Rule}

/-- Of rules only the ranking counts. Not even the events tell the order of declaration. -/
theorem Document.apply_congr (h : Rule.ranked others = Rule.ranked rules) (document : Document) :
    document.apply others = document.apply rules := by
  have hLength : others.length = rules.length := by
    rw [← Rule.length_ranked, h, Rule.length_ranked]
  rw [apply, apply, h, hLength]

/-- A transform sees nothing of the rules but their ranking. -/
theorem transform_congr (h : Rule.ranked others = Rule.ranked rules) (text : Text) :
    transform others text = transform rules text := by
  rw [transform, transform, Document.apply_congr h]

/-- A run that is asked for the listing loads its rules and ranks them. -/
theorem Job.run_listRules {tree after : FileTree} {device : Device} {job : Job}
    {events : List Event}
    (h : tree.run device (job.loadRules ·) = (⟨.ok rules, events⟩, after)) :
    tree.run device (job.handle · .listRules) =
      (⟨.ok (.listing (Rule.ranked rules)), events⟩, after) := by
  unfold handle
  rw [FileTree.run_bind, h]
  rfl

/-- A run that is asked for the listing of its rules results in their ranking. It has the rules by
descending priority, and rules of one priority as they were declared. In each section the rules that
made the entries stand in the listing in the order of their entries. Rules with the same listing do
the same to every document, with the same entries or the same error. So the listed rules can be used
in place of those declared, and rules may be declared in any order that keeps the order within each
priority. -/
theorem Rule.listing_determines_apply (rules : List Rule) :
    (∀ (tree : FileTree) (device : Device) (job : Job) (events : List Event) (after : FileTree),
        tree.run device (job.loadRules ·) = (⟨.ok rules, events⟩, after) →
          tree.run device (job.handle · .listRules) =
            (⟨.ok (.listing (ranked rules)), events⟩, after)) ∧
      IsRanking rules (ranked rules) ∧
      (∀ (document : Document) (log : List Modification),
        (document.apply rules).result = .ok log →
          log = document.flatMap (·.sublog rules) ∧
          ∀ s ∈ document, s.sublog rules = (s.signed rules).map Prod.snd ∧
            (∀ x ∈ s.signed rules, x.1.Made x.2) ∧
            ((s.signed rules).map Prod.fst).Sublist (ranked rules)) ∧
      (∀ others, ranked others = ranked rules →
        ∀ document : Document, document.apply others = document.apply rules) ∧
      (∀ text, transform rules text = transform (ranked rules) text) ∧
      ∀ others : List Rule, others.Perm rules →
        (∀ p, others.filter (·.priority = p) = rules.filter (·.priority = p)) →
        ranked others = ranked rules ∧
          (∀ document : Document, document.apply others = document.apply rules) ∧
          ∀ text, transform others text = transform rules text := by
  refine ⟨fun _ _ _ _ _ => Job.run_listRules, isRanking_ranked rules, ?_, ?_, ?_, ?_⟩
  · intro document log hLog
    have hCompiles := Document.compiles_of_apply hLog
    rw [Document.apply_result hCompiles] at hLog
    refine ⟨(Except.ok.inj hLog).symm, ?_⟩
    intro s _
    exact ⟨(Section.map_snd_signed hCompiles s).symm, fun _ => Section.made_of_mem_signed,
      Section.map_fst_signed_sublist⟩
  · intro others hListing document
    exact Document.apply_congr hListing document
  · intro text
    exact transform_congr (ranked_ranked rules).symm text
  · intro others _ hStable
    have hListing := ranked_congr hStable
    exact ⟨hListing, Document.apply_congr hListing, transform_congr hListing⟩

def Job.rivalry : Job where
  ruleFiles := []
  rules := Rule.rivals
  settings := none
  encoding := none
  report := none

/-- The rules are listed as they rank. Declared in another order with the same ranking they write
the same log. -/
theorem Rule.listing_determines_apply_rivals :
    (FileTree.run ⟨[], []⟩ (.plain []) (Job.rivalry.handle · .listRules)).1.result =
        .ok (.listing rivals) ∧
      (Document.apply rivals [.contested]).result = .ok Section.contestedLog ∧
      (Section.contested.signed rivals).map Prod.snd = Section.contestedLog ∧
      [rivals[1], rivals[0], rivals[2]].Perm rivals ∧
      (∀ p, [rivals[1], rivals[0], rivals[2]].filter (·.priority = p) =
        rivals.filter (·.priority = p)) ∧
      (Document.apply [rivals[1], rivals[0], rivals[2]] [.contested]).result =
        .ok Section.contestedLog := by
  have hLoaded : FileTree.run ⟨[], []⟩ (.plain []) (Job.rivalry.loadRules ·) =
      (⟨.ok rivals, []⟩, ⟨[], []⟩) := rfl
  have hResult : (Document.apply rivals [.contested]).result = .ok Section.contestedLog := by
    rw [Document.apply_result compiles_rivals, List.flatMap_singleton,
      Section.sublog_rivals_contested]
  have hPerm : [rivals[1], rivals[0], rivals[2]].Perm rivals := by decide
  have hStable (p : Int) : [rivals[1], rivals[0], rivals[2]].filter (·.priority = p) =
      rivals.filter (·.priority = p) := by
    by_cases hHigh : (2 : Int) = p
    · subst hHigh
      decide
    · simp [rivals, List.filter_cons, hHigh]
  obtain ⟨hListing, -, hEntries, -, -, hMoved⟩ := listing_determines_apply rivals
  obtain ⟨hSigned, -⟩ := (hEntries [.contested] _ hResult).2 .contested List.mem_cons_self
  obtain ⟨-, hApply, -⟩ := hMoved _ hPerm hStable
  refine ⟨?_, hResult, hSigned.symm.trans Section.sublog_rivals_contested, hPerm, hStable,
    by rw [hApply, hResult]⟩
  rw [hListing _ _ _ _ _ hLoaded, ranked_rivals]

end Rubric
