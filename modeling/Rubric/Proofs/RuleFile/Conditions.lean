import Rubric.Proofs.RuleFile.Entry
import Rubric.Proofs.Text.Trim

/-! Conditions as rule files write them. A condition is loaded exactly when neither its key nor its
operand is empty, and what is left out or replaced is reported, once for each condition. -/
namespace Rubric

def MatchType.names : List Text :=
  ["contains", "equals", "startswith", "endswith"].map String.toList

/-- The match type that is meant by a name, which may be missing or be none of these names. -/
def MatchType.meant (name : Option Text) : MatchType :=
  if name = some "equals".toList then .equals
  else if name = some "startswith".toList then .startsWith
  else if name = some "endswith".toList then .endsWith
  else .contains

/-- A name of a comparison is known if it is in the list of names. -/
theorem MatchType.ofName?_eq {name : Text} :
    ofName? name = if name ∈ names then some (meant (some name)) else none := by
  split
  next hName =>
    simp only [names, List.map_cons, List.map_nil, List.mem_cons, List.not_mem_nil,
      or_false] at hName
    rcases hName with rfl | rfl | rfl | rfl <;> decide
  next hName =>
    refine List.find?_eq_none.mpr fun kind _ hSame => hName ?_
    rw [← beq_iff_eq.mp hSame]
    cases kind <;> decide

/-- What is not known stands for containment. -/
theorem MatchType.meant_of_not_mem {name : Text} (h : name ∉ names) :
    meant (some name) = .contains := by
  simp only [names, List.map_cons, List.map_nil, List.mem_cons, List.not_mem_nil, or_false,
    not_or] at h
  obtain ⟨-, hEquals, hStarts, hEnds⟩ := h
  rw [meant, if_neg (hEquals <| Option.some.inj ·), if_neg (hStarts <| Option.some.inj ·),
    if_neg (hEnds <| Option.some.inj ·)]

namespace RuleFile

namespace Written

def key (condition : Json) : Text :=
  ((condition.field? ConditionDraft.order "key").bind Json.text?).getD []

def operand (condition : Json) : Text :=
  ((condition.field? ConditionDraft.order "value").bind Json.text?).getD []

def kindName? (condition : Json) : Option Text :=
  (condition.field? ConditionDraft.order "match_type").bind Json.text?

/-- A condition with a key and an operand. -/
def Kept (condition : Json) : Prop :=
  key condition ≠ [] ∧ operand condition ≠ []

instance : DecidablePred Kept := fun _ => inferInstanceAs (Decidable (_ ∧ _))

/-- What a condition says. -/
def condition (condition : Json) : Condition :=
  ⟨key condition, operand condition, .meant (kindName? condition)⟩

/-- What there is to report on a condition of a rule: that it is left out, or that the name of its
match type is unknown. -/
def reports (rule : Text) (condition : Json) : List Event :=
  if Kept condition then
    ((kindName? condition).filter (· ∉ MatchType.names)).toList.map (.unknownMatchType rule)
  else [.conditionDropped rule (key condition)]

def conditions (entry : Json) : List Json :=
  match entry.field? Draft.order "conditions" with
  | some (.array items) => items
  | _ => []

/-- The key that an entry writes. -/
def actionKey (entry : Json) : Text :=
  (((entry.field? Draft.order "action_key").bind Json.text?).filter (!·.all Text.isBlank)).getD
    "run".toList

def draft (condition : Json) : ConditionDraft :=
  ⟨key condition, operand condition, kindName? condition⟩

/-- A draft of a condition becomes the condition that was written if that is kept, with the reports
about it. -/
theorem condition?_draft (rule : Text) (c : Json) :
    (draft c).condition? rule = (if Kept c then some (condition c) else none, reports rule c) := by
  by_cases hKept : Kept c
  · have hFull : ((draft c).key.isEmpty || (draft c).operand.isEmpty) = false := by
      simpa [draft, Kept] using hKept
    rw [ConditionDraft.condition?, if_neg (by simp [hFull]), if_pos hKept, reports, if_pos hKept,
      condition]
    cases hName : kindName? c with
    | none => simp [draft, hName, MatchType.meant]
    | some name =>
        by_cases hKnown : name ∈ MatchType.names
        · simp [draft, hName, MatchType.ofName?_eq, hKnown]
        · simp [draft, hName, MatchType.ofName?_eq, hKnown, MatchType.meant_of_not_mem hKnown,
            Option.filter]
  · have hEmpty : ((draft c).key.isEmpty || (draft c).operand.isEmpty) = true := by
      simpa [draft, Kept, Classical.or_iff_not_imp_left] using hKept
    rw [ConditionDraft.condition?, if_pos hEmpty, if_neg hKept, reports, if_neg hKept]
    rfl

end Written

variable {entry c : Json} {name : String} {result : Rule × List Event}

/-- If a condition is read at all then its draft holds what was written. -/
theorem ConditionDraft.eq_of_read {draft : ConditionDraft} (h : read c.sorted = .ok draft) :
    draft = Written.draft c := by
  have hFields := foldlM_of_read h
  have hKey : draft.key = Written.key c :=
    takes_key.eq_of_text hFields (·.getD []) getD_text?_of_string rfl
  have hOperand : draft.operand = Written.operand c :=
    takes_operand.eq_of_text hFields (·.getD []) getD_text?_of_scalarOrEmpty rfl
  have hKind : draft.kind = Written.kindName? c :=
    takes_kind.eq_of_text hFields id text?_of_string? rfl
  rw [Written.draft, ← hKey, ← hOperand, ← hKind]

theorem eq_map_draft_of_conditionDrafts {items : List Json} {drafts : List ConditionDraft}
    (h : conditionDrafts (Json.array items).sorted = .ok drafts) :
    drafts = items.map Written.draft := by
  rw [Json.sorted, Json.sortedItems_eq_map] at h
  have hItems := List.forall₂_map_left_iff.mp (mapM_eq_ok_iff.mp h)
  refine (List.forall₂_eq_eq_eq ▸ List.forall₂_map_right_iff.mpr ?_ : drafts = _)
  exact hItems.flip.imp fun _ _ => ConditionDraft.eq_of_read

namespace Draft

variable {draft : Draft} {name pattern value : Text}

/-- The drafts of an entry are those of the conditions written in it, in their order. -/
theorem conditions_eq
    (h : (entry.sorted.fieldsIn order).foldlM (fun draft field => draft.set field.1 field.2) blank =
      .ok draft) : draft.conditions = (Written.conditions entry).map Written.draft := by
  have hField := takes_conditions.field? h
  rw [Written.conditions]
  cases hFound : entry.field? order "conditions" with
  | none => simpa [hFound, blank, eq_comm] using hField
  | some v =>
      have hRead : conditionDrafts v.sorted = .ok draft.conditions := by simpa [hFound] using hField
      cases v with
      | array items => exact eq_map_draft_of_conditionDrafts hRead
      | _ => cases hRead

/-- A key that is missing or blank gives way to the usual one. -/
theorem key_rule : (draft.rule name pattern value).1.key =
    (draft.key.filter (!·.all Text.isBlank)).getD "run".toList := by
  cases hKey : draft.key with
  | none => simp [rule, hKey, defaultKey]
  | some key =>
      have hBlank : (Text.trim key).isEmpty = key.all Text.isBlank := by
        rw [Bool.eq_iff_iff, List.isEmpty_iff, Text.trim_eq_nil_iff]
      by_cases hAll : key.all Text.isBlank = true <;>
        simp [rule, hKey, hBlank, hAll, defaultKey, Option.filter]

/-- A rule is made of the drafts of its conditions one by one. -/
theorem rule_of_conditions (name pattern value : Text) {items : List Json}
    (h : draft.conditions = items.map Written.draft) :
    (draft.rule name pattern value).1.conditions =
        (items.filter Written.Kept).map Written.condition ∧
      (draft.rule name pattern value).2 = items.flatMap (Written.reports name) := by
  constructor
  · have hConditions : (draft.rule name pattern value).1.conditions = items.filterMap fun c =>
        if Written.Kept c then some (Written.condition c) else none := by
      simp [rule, h, List.filterMap_map, Function.comp_def, Written.condition?_draft]
    rw [hConditions]
    clear h hConditions
    induction items with
    | nil => rfl
    | cons c items ih => by_cases hKept : Written.Kept c <;> simp [hKept, ih]
  · simp [rule, h, List.flatMap_map, Written.condition?_draft]

end Draft

theorem Written.actionKey_ne_blank (entry : Json) : (actionKey entry).all Text.isBlank = false := by
  rw [actionKey]
  cases hKey : ((entry.field? Draft.order "action_key").bind Json.text?).filter
      (!·.all Text.isBlank) with
  | none => rfl
  | some key => simpa using (Option.filter_eq_some_iff.mp hKey).2

/-- The conditions of a loaded rule are those of its entry that have a key and an operand, in order
and with the match types that are meant, and its key is never blank. There is a report on each
condition that is left out and on each other one whose match type is unknown, and on nothing
else. -/
theorem readEntry_conditions {rule : Rule} {events : List Event}
    (h : readEntry entry = .ok (rule, events)) :
    rule.conditions =
        ((Written.conditions entry).filter Written.Kept).map Written.condition ∧
      rule.key = Written.actionKey entry ∧
      events = (Written.conditions entry).flatMap (Written.reports rule.name) ∧
      rule.key.all Text.isBlank = false ∧
      ∀ condition ∈ rule.conditions, condition.key ≠ [] ∧ condition.operand ≠ [] := by
  obtain ⟨draft, name, pattern, value, hFields, hResult⟩ := Draft.exists_foldlM_of_readEntry h
  have hRule : (draft.rule name pattern value).1 = rule := congrArg Prod.fst hResult
  have hEvents : (draft.rule name pattern value).2 = events := congrArg Prod.snd hResult
  have hName : name = rule.name := hRule ▸ rfl
  have hDraftKey : draft.key = (entry.field? Draft.order "action_key").bind Json.text? :=
    Draft.takes_key.eq_of_text hFields id text?_of_string? rfl
  have hKey : rule.key = Written.actionKey entry := by
    rw [← hRule, Draft.key_rule, hDraftKey, Written.actionKey]
  obtain ⟨hConditions, hReports⟩ :=
    Draft.rule_of_conditions name pattern value (Draft.conditions_eq hFields)
  rw [hRule] at hConditions
  rw [hEvents, hName] at hReports
  refine ⟨hConditions, hKey, hReports, hKey ▸ Written.actionKey_ne_blank entry, ?_⟩
  intro condition hMem
  rw [hConditions] at hMem
  obtain ⟨c, hc, rfl⟩ := List.mem_map.mp hMem
  exact of_decide_eq_true (List.mem_filter.mp hc).2

def patchy : Json :=
  .object [("action_key".toList, .string " \t".toList), ("name".toList, .string "r".toList),
    ("conditions".toList, .array
      [.object [("match_type".toList, .string "equals".toList), ("key".toList, .string "a".toList),
          ("value".toList, .number (.int 0)), ("key".toList, .string "hash".toList)],
        .object [("key".toList, .string "hash".toList), ("value".toList, .null),
          ("match_type".toList, .string "regex".toList)],
        .array [.string "index".toList, .bool true, .string "EQUALS".toList],
        .object [("value".toList, .string "x".toList)]]),
    ("action_value".toList, .string "x".toList), ("section_pattern".toList, .string "A".toList)]

/-- An entry with conditions of all sorts: kept ones, blank ones, and one of an unknown name. -/
theorem readEntry_conditions_patchy :
    ∃ rule events, readEntry patchy = .ok (rule, events) ∧
      rule.conditions = [⟨"hash".toList, "0".toList, .equals⟩,
        ⟨"index".toList, "true".toList, .contains⟩] ∧
      rule.key = "run".toList ∧
      events = [.conditionDropped "r".toList "hash".toList,
        .unknownMatchType "r".toList "EQUALS".toList, .conditionDropped "r".toList []] := by
  have hRead : ∃ rule events, readEntry patchy = .ok (rule, events) ∧ rule.name = "r".toList :=
    ⟨_, _, rfl, rfl⟩
  obtain ⟨rule, events, hRead, hName⟩ := hRead
  obtain ⟨hConditions, hKey, hEvents, -, -⟩ := readEntry_conditions hRead
  refine ⟨rule, events, hRead, hConditions.trans ?_, hKey.trans ?_, hEvents.trans ?_⟩
  · decide
  · decide
  · rw [hName]
    decide

end RuleFile
end Rubric
