import Rubric.Proofs.Edit.Ties
import Rubric.Proofs.Encoding.Utf8
import Rubric.Proofs.Except
import Rubric.Proofs.RuleFile.Loading
import Rubric.Proofs.Run.Agreement
import Rubric.Proofs.Run.Stages

/-! Rules in several files. It makes no difference over which files a list of rules is spread, as
long as their order stays, and rules in code count as declared behind those of the files. -/
namespace Rubric

open RuleFile

/-- A readable file with these entries. -/
def FileTree.Supplies (tree : FileTree) (path : Text) (items : List Json) : Prop :=
  ∃ bytes content, tree.read path = .ok bytes ∧ Utf8.decode? bytes = some content ∧
    Holds content items

namespace FileTree

variable {tree : FileTree} {device : Device} {path : Text} {paths : List Text} {items : List Json}
  {parts : List (List Json)} {loaded : List (Rule × List Event)}

/-- Loading a file that supplies entries loads those. -/
theorem Supplies.run_loadFile (h : tree.Supplies path items) (hLoaded : LoadTo items loaded) :
    tree.run device (RuleFile.loadFile · path) =
      (⟨.ok (loaded.map Prod.fst), loaded.flatMap Prod.snd⟩, tree) := by
  obtain ⟨bytes, content, hBytes, hContent, hHolds⟩ := h
  have hRead : tree.run device (·.read path) = (.ok bytes, tree) := congrArg (·, tree) hBytes
  unfold RuleFile.loadFile Host.readText
  rw [run_bind, run_bind, hRead]
  simp only [hContent]
  rw [run_pure, run_pure, hLoaded.load_eq hHolds]

/-- Files give their rules one after the other. -/
theorem run_loadFiles_of_supplies (h : List.Forall₂ tree.Supplies paths parts)
    (hLoaded : LoadTo parts.flatten loaded) :
    tree.run device (RuleFile.loadFiles · paths) =
      (⟨.ok (loaded.map Prod.fst), loaded.flatMap Prod.snd⟩, tree) := by
  induction h generalizing loaded with
  | nil =>
      obtain rfl : loaded = [] := by simpa [LoadTo] using hLoaded.symm
      rfl
  | @cons path items paths parts hFile hFiles ih =>
      rw [List.flatten_cons] at hLoaded
      obtain ⟨first, second, rfl, hFirst, hSecond⟩ := hLoaded.exists_of_append
      unfold RuleFile.loadFiles
      rw [run_bind, hFile.run_loadFile hFirst]
      dsimp only
      rw [run_bind, ih hSecond, run_pure]
      simp [Except.map]

end FileTree

/-- Two runs that come to the same result and leave the same tree. Their events are the same under a
condition. -/
structure Concur {α : Type} (same : Prop) (one other : Outcome α × FileTree) : Prop where
  result : one.1.result = other.1.result
  tree : one.2 = other.2
  events : same → one.1.events = other.1.events

namespace Concur

variable {α β : Type} {same : Prop} {tree : FileTree} {device : Device}

theorem refl (one : Outcome α × FileTree) : Concur same one one :=
  ⟨rfl, rfl, fun _ => rfl⟩

theorem eq {one other : Outcome α × FileTree} (h : Concur same one other) (hSame : same) :
    one = other := by
  obtain ⟨⟨result, events⟩, tree⟩ := one
  obtain ⟨⟨answer, others⟩, after⟩ := other
  obtain rfl : result = answer := h.result
  obtain rfl : tree = after := h.tree
  obtain rfl : events = others := h.events hSame
  rfl

theorem run_bind {first other : Host (StateM FileTree) → StateM FileTree (Outcome α)}
    {next after : Host (StateM FileTree) → Outcome α → StateM FileTree (Outcome β)}
    (h : Concur same (tree.run device first) (tree.run device other))
    (hNext : ∀ (tree : FileTree) answer events others, (same → events = others) →
      Concur same (tree.run device (next · ⟨answer, events⟩))
        (tree.run device (after · ⟨answer, others⟩))) :
    Concur same (tree.run device fun host => first host >>= next host)
      (tree.run device fun host => other host >>= after host) := by
  rw [FileTree.run_bind, FileTree.run_bind, h.tree,
    ← show ⟨(tree.run device other).1.result, (tree.run device first).1.events⟩ =
      (tree.run device first).1 by rw [← h.result]]
  exact hNext _ _ _ _ h.events

end Concur

namespace Job

variable {tree : FileTree} {device : Device} {job : Job} {parts : List (List Json)}
  {loaded : List (Rule × List Event)}

/-- Files that supply entries load to the same rules as one list of all the entries, in front of the
job's own rules. -/
theorem run_loadRules_of_supplies (hFiles : List.Forall₂ tree.Supplies job.rulePaths parts)
    (hLoaded : LoadTo parts.flatten loaded) (hSource : job.rulePaths ≠ [] ∨ job.rules ≠ []) :
    tree.run device (job.loadRules ·) =
      (⟨.ok (loaded.map Prod.fst ++ job.rules), loaded.flatMap Prod.snd⟩, tree) := by
  have hGuard : (job.rulePaths.isEmpty && job.rules.isEmpty) = false := by
    rw [Bool.and_eq_false_iff]
    exact hSource.imp (by simp) (by simp)
  unfold loadRules
  simp only [hGuard, Bool.false_eq_true, if_false]
  rw [FileTree.run_bind, FileTree.run_loadFiles_of_supplies hFiles hLoaded]
  rfl

section

variable {same : Prop} {paths : List Text} {rules : List Rule}
  (h : Concur same (tree.run device ({ job with ruleFiles := paths, rules }.loadRules ·))
    (tree.run device (job.loadRules ·)))
include h

/-- A run depends on the sources of its rules only through the rules that they give. -/
theorem concur_prepare (input output log : Option Text) :
    Concur same
      (tree.run device ({ job with ruleFiles := paths, rules }.prepare · input output log))
      (tree.run device (job.prepare · input output log)) := by
  have hEncoding : { job with ruleFiles := paths, rules }.encoding? = job.encoding? := rfl
  unfold prepare
  rw [hEncoding]
  cases job.encoding? with
  | error e => exact .refl _
  | ok encoding =>
      refine h.run_bind fun tree answer events others hEvents => ?_
      cases answer with
      | error e => exact ⟨rfl, rfl, hEvents⟩
      | ok loaded =>
          dsimp only
          rw [FileTree.run_bind, FileTree.run_bind]
          cases (tree.run device (Job.readInput · encoding input)).1 with
          | error e => exact ⟨rfl, rfl, hEvents⟩
          | ok t => exact ⟨rfl, rfl, fun hSame => congrArg (· ++ _) (hEvents hSame)⟩

/-- Two jobs with the same rules concur in whatever they are asked to do. -/
theorem concur_handle (action : Action) :
    Concur same (tree.run device ({ job with ruleFiles := paths, rules }.handle · action))
      (tree.run device (job.handle · action)) := by
  cases action with
  | apply input output log =>
      refine (concur_prepare h input output log).run_bind
        fun tree answer events others hEvents => ?_
      cases answer with
      | error e => exact ⟨rfl, rfl, hEvents⟩
      | ok plan => exact ⟨rfl, rfl, hEvents⟩
  | listRules => exact h.run_bind fun tree answer events others hEvents => ⟨rfl, rfl, hEvents⟩
  | settingsTemplate => exact .refl _

end

/-- A run that applies rules to its end has its modifications from the sections of the input, and
each section is decided in the order of the rules. -/
theorem exists_document_of_handle {rules : List Rule} {input output log : Option Text}
    {result : Result} {events : List Event} {after : FileTree}
    (hRules : (tree.run device (job.loadRules ·)).1.result = .ok rules)
    (h : tree.run device (job.handle · (.apply input output log)) = (⟨.ok result, events⟩, after)) :
    ∃ encoding text delivered, job.encoding? = .ok encoding ∧
      (tree.run device (Job.readInput · encoding input)).1 = .ok text ∧
      result = .applied delivered ((Document.read text).flatMap (·.sublog rules))
        (job.logPath log) ∧
      ∀ s ∈ Document.read text, s.DecidesInOrder rules := by
  obtain ⟨encoding, made, hMakes, hResult, -⟩ := exists_makes_of_handle h
  obtain ⟨others, text, hOthers, hText, hMade⟩ := hMakes.edited
  obtain rfl := Except.ok.inj (hOthers.symm.trans hRules)
  obtain ⟨found, hApply, rfl⟩ := map_eq_ok_iff.mp hMade
  have hCompiles := Document.compiles_of_apply hApply
  rw [Document.apply_result hCompiles] at hApply
  obtain rfl := Except.ok.inj hApply
  exact ⟨encoding, text, _, hMakes.configured, hText, hResult, fun s _ =>
    s.decidesInOrder hCompiles⟩

/-- The first rule file that does not load decides. -/
theorem run_loadRules_of_failing {front back : List Text} {path : Text} {e : Error}
    (hPaths : job.rulePaths = front ++ path :: back)
    (hFront : ∀ earlier ∈ front, ∃ rules, tree.rulesOf earlier = .ok rules)
    (hPath : tree.rulesOf path = .error e) :
    (tree.run device (job.loadRules ·)).1.result = .error e := by
  have hGuard : (job.rulePaths.isEmpty && job.rules.isEmpty) = false := by simp [hPaths]
  have hNone : front.findSome? (fun path => Outcome.reason? (tree.rulesOf path)) = none := by
    refine List.findSome?_eq_none_iff.mpr fun earlier hEarlier => ?_
    obtain ⟨rules, hRules⟩ := hFront earlier hEarlier
    rw [hRules, Outcome.reason?_ok]
  have hFiles : (tree.run device (RuleFile.loadFiles · job.rulePaths)).1.result = .error e := by
    rw [FileTree.run_loadFiles, hPaths, List.findSome?_append, hNone, List.findSome?_cons, hPath]
    rfl
  unfold loadRules
  simp only [hGuard, Bool.false_eq_true, if_false]
  rw [FileTree.run_bind]
  exact congrArg (Except.map (· ++ job.rules)) hFiles

/-- Spreading rules over files changes nothing. Where a job has a source of rules and its files are
readable and hold entries that load, it loads the rules of all entries in their order, and its own
rules behind them. Over whatever files, such as a single one, and rules of its own the same rules
are spread, in their order, it comes to the same result and leaves the same tree. The warnings are
the same where those of the entries are. Where it applies the rules to the end, their order decides
in each section between rules of one priority for one key. If a file does not load, the error is
that of the first such file. -/
theorem handle_spread (tree : FileTree) (device : Device) (job : Job) :
    (∀ parts loaded, List.Forall₂ tree.Supplies job.rulePaths parts →
      LoadTo parts.flatten loaded → job.rulePaths ≠ [] ∨ job.rules ≠ [] →
      tree.run device (job.loadRules ·) =
          (⟨.ok (loaded.map Prod.fst ++ job.rules), loaded.flatMap Prod.snd⟩, tree) ∧
        (∀ paths rules others again action,
          List.Forall₂ tree.Supplies { job with ruleFiles := paths, rules }.rulePaths others →
          LoadTo others.flatten again →
          { job with ruleFiles := paths, rules }.rulePaths ≠ [] ∨ rules ≠ [] →
          again.map Prod.fst ++ rules = loaded.map Prod.fst ++ job.rules →
          Concur (again.flatMap Prod.snd = loaded.flatMap Prod.snd)
            (tree.run device ({ job with ruleFiles := paths, rules }.handle · action))
            (tree.run device (job.handle · action))) ∧
        ∀ input output log result events after,
          tree.run device (job.handle · (.apply input output log)) =
            (⟨.ok result, events⟩, after) →
          ∃ encoding text delivered, job.encoding? = .ok encoding ∧
            (tree.run device (Job.readInput · encoding input)).1 = .ok text ∧
            result = .applied delivered ((Document.read text).flatMap
              (·.sublog (loaded.map Prod.fst ++ job.rules))) (job.logPath log) ∧
            ∀ s ∈ Document.read text, s.DecidesInOrder (loaded.map Prod.fst ++ job.rules)) ∧
      ∀ front path back e, job.rulePaths = front ++ path :: back →
        (∀ earlier ∈ front, ∃ rules, tree.rulesOf earlier = .ok rules) →
        tree.rulesOf path = .error e →
        (tree.run device (job.loadRules ·)).1.result = .error e := by
  refine ⟨fun parts loaded hFiles hLoaded hSource => ?_,
    fun front path back e => run_loadRules_of_failing⟩
  have hRules : tree.run device (job.loadRules ·) =
      (⟨.ok (loaded.map Prod.fst ++ job.rules), loaded.flatMap Prod.snd⟩, tree) :=
    run_loadRules_of_supplies hFiles hLoaded hSource
  refine ⟨hRules, fun paths rules others again action hOthers hAgain hOtherSource hSame => ?_,
    fun input output log result events after => exists_document_of_handle (by rw [hRules])⟩
  refine concur_handle ?_ action
  rw [hRules, run_loadRules_of_supplies hOthers hAgain hOtherSource, hSame]
  exact ⟨rfl, rfl, id⟩

def shelfFile (name content : String) : Place × FileNode :=
  ([name.toList], .file (Utf8.encode content.toList))

/-- A tree with a document and rule files: two with a rule each, one with both rules, and one with
none. -/
def shelf : FileTree where
  current := []
  nodes := [shelfFile "doc.ini" "[A]\nrun = 1\n", shelfFile "first.json" "[[\"r\",\"A\",null,2]]",
    shelfFile "second.json" "\x7b\"rules\":[[\"late\",\"A\",null,3]]\x7d",
    shelfFile "all.json" "[[\"r\",\"A\",null,2],[\"late\",\"A\",null,3]]",
    shelfFile "none.json" "[]"]

def shelving : Job where
  ruleFiles := ["first.json".toList, "second.json".toList]
  rules := [⟨"own".toList, "A".toList, "run".toList, "4".toList, 0, []⟩]
  settings := none
  encoding := none
  report := none

def integral (name : String) (n : Int) : Json :=
  .array [.string name.toList, .string "A".toList, .null, .number (.int n)]

theorem supplies_shelf {name content : String} {items : List Json}
    (hRead : shelf.read name.toList = .ok (Utf8.encode content.toList))
    (hHolds : Holds content.toList items) : shelf.Supplies name.toList items :=
  ⟨_, _, hRead, Utf8.decode?_eq_some_iff.mpr rfl, hHolds⟩

theorem supplies_first : shelf.Supplies "first.json".toList [integral "r" 2] := by
  refine supplies_shelf rfl (.inl ?_)
  simp only [String.reduceToList]
  rfl

theorem supplies_second : shelf.Supplies "second.json".toList [integral "late" 3] := by
  refine supplies_shelf rfl (.inr ⟨[("rules".toList, .array [integral "late" 3])], ?_, rfl⟩)
  simp only [String.reduceToList]
  rfl

theorem supplies_all : shelf.Supplies "all.json".toList [integral "r" 2, integral "late" 3] := by
  refine supplies_shelf rfl (.inl ?_)
  simp only [String.reduceToList]
  rfl

theorem readEntry_integral (name : String) (n : Int) : readEntry (integral name n) =
    .ok (⟨name.toList, "A".toList, "run".toList, Text.ofInt n, 0, []⟩, []) := rfl

def shelfRules : List (Rule × List Event) :=
  [(⟨"r".toList, "A".toList, "run".toList, Text.ofInt 2, 0, []⟩, []),
    (⟨"late".toList, "A".toList, "run".toList, Text.ofInt 3, 0, []⟩, [])]

theorem loadTo_shelf : LoadTo [integral "r" 2, integral "late" 3] shelfRules := by
  simp only [LoadTo, List.map_cons, List.map_nil, readEntry_integral, shelfRules]

def shelfRun : Application :=
  ⟨shelf, .plain [], shelving, some "doc.ini".toList, none, none⟩

theorem compiles_shelfRules : ∀ r ∈ shelfRules.map Prod.fst ++ shelving.rules, r.Compiles := by
  decide +kernel

theorem rules_shelfRun : shelfRun.rules = shelfRules.map Prod.fst ++ shelving.rules := by
  decide +kernel

theorem failure?_shelfRun (stage : Stage) : shelfRun.failure? stage = none := by
  cases stage with
  | patterns =>
      have hNone : (Rule.ranked shelfRun.rules).find? (¬·.Compiles) = none := by
        refine List.find?_eq_none.mpr fun r hr => ?_
        rw [Rule.mem_ranked, rules_shelfRun] at hr
        simpa using compiles_shelfRules r hr
      rw [Application.failure?, hNone, Option.map_none]
  | _ => decide +kernel

/-- Two files make of the document what one file of both rules makes of it: the first of three rules
for a key decides. The first path without a file is the one that a run stops at. -/
theorem handle_spread_shelf :
    shelf.run (.plain []) (shelving.loadRules ·) =
        (⟨.ok (shelfRules.map Prod.fst ++ shelving.rules), []⟩, shelf) ∧
      shelf.run (.plain []) ({ shelving with ruleFiles := ["all.json".toList] }.handle ·
          (.apply (some "doc.ini".toList) none none)) =
        shelf.run (.plain []) (shelving.handle · (.apply (some "doc.ini".toList) none none)) ∧
      (∃ delivered events after,
        shelf.run (.plain []) (shelving.handle · (.apply (some "doc.ini".toList) none none)) =
          (⟨.ok (.applied delivered
            [⟨"A".toList, "r".toList, "run".toList, some "1".toList, "2".toList⟩] none), events⟩,
            after)) ∧
      (∀ s ∈ Document.read "[A]\nrun = 1\n".toList,
        s.DecidesInOrder (shelfRules.map Prod.fst ++ shelving.rules)) ∧
      (shelf.run (.plain []) ({ shelving with ruleFiles :=
          ["first.json".toList, "gone.json".toList, "doc.ini".toList] }.loadRules ·)).1.result =
        .error (.file "gone.json".toList .notFound) := by
  have hFiles : List.Forall₂ shelf.Supplies shelving.rulePaths
      [[integral "r" 2], [integral "late" 3]] :=
    .cons supplies_first (.cons supplies_second .nil)
  have hFirst : shelf.rulesOf "first.json".toList =
      .ok [⟨"r".toList, "A".toList, "run".toList, "2".toList, 0, []⟩] := by
    decide +kernel
  have hGone : shelf.rulesOf "gone.json".toList = .error (.file "gone.json".toList .notFound) := by
    decide +kernel
  have hRead : (shelf.run (.plain []) (Job.readInput · .utf8 (some "doc.ini".toList))).1 =
      .ok "[A]\nrun = 1\n".toList := by
    decide +kernel
  have hRanked : Rule.ranked (shelfRules.map Prod.fst ++ shelving.rules) =
      shelfRules.map Prod.fst ++ shelving.rules := List.mergeSort_of_pairwise (by decide)
  have hLog : (Document.read "[A]\nrun = 1\n".toList).flatMap
      (·.sublog (shelfRules.map Prod.fst ++ shelving.rules)) =
        [⟨"A".toList, "r".toList, "run".toList, some "1".toList, "2".toList⟩] := by
    simp only [Section.sublog_eq_entries compiles_shelfRules, hRanked]
    decide +kernel
  obtain ⟨hRules, hSame, hDecides⟩ :=
    (handle_spread shelf (.plain []) shelving).1 _ _ hFiles loadTo_shelf (.inl (by decide))
  -- Ranking several rules does not reduce, so the stages tell that the run succeeds.
  obtain ⟨result, events, hDone⟩ := Application.exists_run_eq_ok rfl rfl failure?_shelfRun
  obtain ⟨encoding, text, delivered, hEncoding, hText, rfl, hOrder⟩ := hDecides _ _ _ _ _ _ hDone
  obtain rfl : Encoding.utf8 = encoding := Except.ok.inj hEncoding
  obtain rfl := Except.ok.inj (hRead.symm.trans hText)
  rw [hLog] at hDone
  refine ⟨hRules, ?_, ⟨_, _, _, hDone⟩, hOrder, ?_⟩
  · exact (hSame ["all.json".toList] shelving.rules [[integral "r" 2, integral "late" 3]] _ _
      (.cons supplies_all .nil) loadTo_shelf (.inl (by simp [rulePaths])) rfl).eq rfl
  · refine (handle_spread shelf (.plain []) _).2 ["first.json".toList] _ ["doc.ini".toList] _ rfl
      ?_ hGone
    simpa only [List.mem_singleton, forall_eq] using ⟨_, hFirst⟩

/-- A job without any source of rules. -/
def sourceless : Job :=
  { shelving with ruleFiles := [], rules := [] }

/-- Without any source of rules nothing is loaded and a run fails, though it has no rule less than
with a file of none. -/
theorem handle_sourceless :
    List.Forall₂ shelf.Supplies sourceless.rulePaths [] ∧ LoadTo [] [] ∧
      shelf.Supplies "none.json".toList [] ∧
      (shelf.run (.plain []) (sourceless.loadRules ·)).1.result = .error .noRules ∧
      (shelf.run (.plain [])
          (sourceless.handle · (.apply (some "doc.ini".toList) none none))).1.result =
        .error .noRules ∧
      (shelf.run (.plain []) ({ sourceless with ruleFiles := ["none.json".toList] }.handle ·
          (.apply (some "doc.ini".toList) none none))).1.result =
        .ok (.applied (.text "[A]\nrun = 1".toList) [] none) := by
  refine ⟨.nil, rfl, ?_, rfl, rfl, by decide +kernel⟩
  refine supplies_shelf rfl (.inl ?_)
  simp only [String.reduceToList]
  rfl

end Job
end Rubric
