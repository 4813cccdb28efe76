import Rubric.Proofs.Json.Reading
import Rubric.Proofs.RuleFile.Alike
import Rubric.Proofs.RuleFile.Conditions
import Rubric.Proofs.RuleFile.Loading

/-! Values that may be written as strings or as what they are. Where a rule file takes a text for
the value to write or for the operand of a condition, an integer or a truth value means its text,
and arrays and objects mean nothing. -/
namespace Rubric

namespace Json

/-- A string means its text, an integer its shortest text, and a truth value its name. -/
inductive Means : Json → Text → Prop where
  | string (t : Text) : Means (.string t) t
  | int {n : Int} (h : Whole n) : Means (.number (.int n)) (Text.ofInt n)
  | bool (b : Bool) : Means (.bool b) (if b then "true".toList else "false".toList)

/-- Arrays and objects. -/
def Compound : Json → Prop
  | .array _ => True
  | .object _ => True
  | _ => False

variable {v : Json} {t : Text}

theorem Means.text?_eq (h : Means v t) : v.text? = some t := by
  cases h with
  | string => rfl
  | int => rfl
  | bool b => cases b <;> rfl

/-- What means a text without being a string is read from this text. -/
theorem Means.eq_string_or_read? (h : Means v t) : v = .string t ∨ read? t = some v := by
  cases h with
  | string => exact .inl rfl
  | int hWhole =>
      have hRead := (reads_int hWhole).read? space_nil space_nil
      rw [List.nil_append, List.append_nil] at hRead
      exact .inr hRead
  | bool b =>
      have hRead := (reads_bool b).read? space_nil space_nil
      rw [List.nil_append, List.append_nil] at hRead
      exact .inr hRead

end Json

namespace RuleFile

open Json

variable {entry other c d v w : Json} {name : Text} {t content respelled : Text}
  {items others : List Json} {rule : Rule} {events : List Event}

/-- Two values that are one, or mean one text. -/
def SameText (v w : Json) : Prop :=
  v = w ∨ ∃ t, Means v t ∧ Means w t

/-- Two ways of writing a condition that differ in how its operand is written at most. -/
def ConditionRespelled : Json → Json → Prop :=
  Alike ConditionDraft.order fun name v w => v = w ∨ name = "value".toList ∧ SameText v w

/-- Two ways of writing a rule that differ in how the value to write and the operands of conditions
are written at most. -/
def Respelled : Json → Json → Prop :=
  Alike Draft.order fun name v w => v = w ∨ name = "action_value".toList ∧ SameText v w ∨
    name = "conditions".toList ∧
      ∃ cs ds, v = .array cs ∧ w = .array ds ∧ List.Forall₂ ConditionRespelled cs ds

/-- A value that means a text is accepted as a scalar, with that text. -/
theorem scalar_sorted_of_means (h : Means v t) : scalar v.sorted = .ok t := by
  cases h with
  | string => rfl
  | int => rfl
  | bool b => cases b <;> rfl

theorem scalarOrEmpty_sorted_of_means (h : Means v t) : scalarOrEmpty v.sorted = .ok t := by
  cases h with
  | string => rfl
  | int => rfl
  | bool b => cases b <;> rfl

/-- A condition's value may be any spelling of the same text. -/
theorem ConditionDraft.set_sameText (h : SameText v w) (draft : ConditionDraft) :
    draft.set "value".toList v.sorted = draft.set "value".toList w.sorted := by
  rcases h with rfl | ⟨t, hLeft, hRight⟩
  · rfl
  · simp only [set, String.ofList_toList, scalarOrEmpty_sorted_of_means hLeft,
      scalarOrEmpty_sorted_of_means hRight]

theorem read_conditionRespelled (h : ConditionRespelled c d) :
    ConditionDraft.read c.sorted = ConditionDraft.read d.sorted := by
  refine ConditionDraft.read_alike h fun hValue draft => ?_
  rcases hValue with rfl | ⟨rfl, hSame⟩
  · rfl
  · exact ConditionDraft.set_sameText hSame draft

/-- Conditions that are respelled one by one give the same drafts. -/
theorem conditionDrafts_respelled {cs ds : List Json} (h : List.Forall₂ ConditionRespelled cs ds) :
    conditionDrafts (Json.array cs).sorted = conditionDrafts (Json.array ds).sorted := by
  rw [Json.sorted, Json.sorted, sortedItems_eq_map, sortedItems_eq_map, conditionDrafts,
    conditionDrafts]
  induction h with
  | nil => rfl
  | cons hCondition _ ih =>
      rw [List.map_cons, List.map_cons, List.mapM_cons, List.mapM_cons,
        read_conditionRespelled hCondition, ih]

/-- The same is read from a rule however its texts are written. -/
theorem readEntry_respelled (h : Respelled entry other) : readEntry entry = readEntry other := by
  refine readEntry_alike h fun hValue draft => ?_
  rcases hValue with rfl | ⟨rfl, hSame⟩ | ⟨rfl, cs, ds, rfl, rfl, hConditions⟩
  · rfl
  · rcases hSame with rfl | ⟨t, hLeft, hRight⟩
    · rfl
    · simp only [Draft.set, String.ofList_toList, scalar_sorted_of_means hLeft,
        scalar_sorted_of_means hRight]
  · simp only [Draft.set, String.ofList_toList, conditionDrafts_respelled hConditions]

/-- The value to write is read as it is written. -/
theorem scalar_of_readEntry (h : readEntry entry = .ok (rule, events))
    (hValue : entry.field? Draft.order "action_value" = some v) :
    scalar v.sorted = .ok rule.value := by
  obtain ⟨draft, fromArray, hFields, hFinish⟩ := Draft.exists_finish_of_readEntry h
  obtain ⟨name, pattern, value, -, -, hDraft, hRule⟩ := Draft.finish_eq_ok_iff.mp hFinish
  obtain rfl : (draft.rule name pattern value).1 = rule := congrArg Prod.fst hRule
  have hTaken := Draft.takes_value.field? hFields
  rw [hValue, Option.elim_some, hDraft] at hTaken
  obtain ⟨t, hRead, hSame⟩ := map_eq_ok_iff.mp hTaken
  rw [hRead, Option.some.inj hSame]
  rfl

/-- Every condition of a rule is read by itself, and the operand with it. -/
theorem exists_operand_of_readEntry (h : readEntry entry = .ok (rule, events))
    (hMem : c ∈ Written.conditions entry)
    (hValue : c.field? ConditionDraft.order "value" = some v) :
    ∃ t, scalarOrEmpty v.sorted = .ok t := by
  obtain ⟨draft, name, pattern, value, hFields, -⟩ := Draft.exists_foldlM_of_readEntry h
  have hTaken := Draft.takes_conditions.field? hFields
  rw [Written.conditions] at hMem
  split at hMem
  next items hItems =>
    rw [hItems, Option.elim_some, Json.sorted, sortedItems_eq_map] at hTaken
    obtain ⟨taken, hRead⟩ := exists_of_mapM_eq_ok hTaken (List.mem_map_of_mem hMem)
    have hOperand := ConditionDraft.takes_operand.field? (ConditionDraft.foldlM_of_read hRead)
    rw [hValue, Option.elim_some] at hOperand
    exact ⟨_, hOperand⟩
  next => cases hMem

/-- A condition with a key and an operand is one of the rule. -/
theorem condition_mem_of_readEntry (h : readEntry entry = .ok (rule, events))
    (hMem : c ∈ Written.conditions entry) (hKept : Written.Kept c) :
    Written.condition c ∈ rule.conditions := by
  obtain ⟨draft, name, pattern, value, hFields, hRule⟩ := Draft.exists_foldlM_of_readEntry h
  obtain rfl : (draft.rule name pattern value).1 = rule := congrArg Prod.fst hRule
  rw [(Draft.rule_of_conditions name pattern value (Draft.conditions_eq hFields)).1]
  exact List.mem_map_of_mem (List.mem_filter.mpr ⟨hMem, decide_eq_true hKept⟩)

/-- An entry whose value to write is null, an array or an object is no rule. -/
theorem invalid_of_action_value (hValue : entry.field? Draft.order "action_value" = some v)
    (hNone : v = .null ∨ v.Compound) : Invalid entry := by
  cases hRead : readEntry entry with
  | error reason => exact invalid_of_error hRead
  | ok result =>
      have hScalar := scalar_of_readEntry hRead hValue
      cases v <;> simp_all [Compound, Json.sorted, scalar]

/-- An entry with a condition whose operand is an array or an object is no rule. -/
theorem invalid_of_operand (hMem : c ∈ Written.conditions entry)
    (hValue : c.field? ConditionDraft.order "value" = some v) (hNone : v.Compound) :
    Invalid entry := by
  cases hRead : readEntry entry with
  | error reason => exact invalid_of_error hRead
  | ok result =>
      obtain ⟨t, hOperand⟩ := exists_operand_of_readEntry hRead hMem hValue
      cases v <;> simp_all [Compound, Json.sorted, scalarOrEmpty, scalar]

/-- A rule with the texts that the values of an entry mean. -/
structure HasTexts (entry : Json) (rule : Rule) : Prop where
  value : ∀ v t, entry.field? Draft.order "action_value" = some v → Means v t → rule.value = t
  operands : ∀ c ∈ Written.conditions entry, ∀ v t,
    c.field? ConditionDraft.order "value" = some v → Means v t → t ≠ [] → Written.key c ≠ [] →
    ∃ condition ∈ rule.conditions, condition.key = Written.key c ∧ condition.operand = t

/-- A rule that was loaded has the texts that its entry means, its own value and those of its
conditions. -/
theorem hasTexts_of_readEntry (h : readEntry entry = .ok (rule, events)) :
    HasTexts entry rule where
  value v t hValue hMeans := by
    have hScalar := scalar_of_readEntry h hValue
    rw [scalar_sorted_of_means hMeans] at hScalar
    exact (Except.ok.inj hScalar).symm
  operands c hMem v t hValue hMeans hSome hKey := by
    have hOperand : Written.operand c = t := by
      rw [Written.operand, hValue, Option.bind_some, hMeans.text?_eq, Option.getD_some]
    have hKept : Written.Kept c := ⟨hKey, hOperand ▸ hSome⟩
    exact ⟨_, condition_mem_of_readEntry h hMem hKept, rfl, hOperand⟩

/-- Integers and truth values mean their text. A rule file loads to the same rules with the same
reports when some of the values to write and of the operands in it are written as strings and others
as what they are. The rules have the texts that these values mean, which for integers are shorter
than all their other numerals, and from which they are read in JSON. Arrays and objects in these
places, and null for a value to write, are refused. -/
theorem load_respelled (path : Text) (hContent : Holds content items)
    (hRespelled : Holds respelled others) (h : List.Forall₂ Respelled items others) :
    load path respelled = load path content ∧
      (∀ rules, (load path content).result = .ok rules → List.Forall₂ HasTexts items rules) ∧
      (∀ entry ∈ items, ∀ rule events, readEntry entry = .ok (rule, events) →
        HasTexts entry rule) ∧
      (∀ v t, Means v t → v = .string t ∨ read? t = some v) ∧
      (∀ n t, Text.Numeral t n → t = Text.ofInt n ∨ (Text.ofInt n).length < t.length) ∧
      (∀ entry ∈ items, ∀ v, entry.field? Draft.order "action_value" = some v →
        v = .null ∨ v.Compound → Invalid entry) ∧
      ∀ entry ∈ items, ∀ c ∈ Written.conditions entry, ∀ v,
        c.field? ConditionDraft.order "value" = some v → v.Compound → Invalid entry := by
  refine ⟨?_, fun rules hLoad => ?_, fun _ _ _ _ => hasTexts_of_readEntry,
    fun _ _ => Means.eq_string_or_read?, fun _ _ => Text.Numeral.eq_or_length_lt,
    fun _ _ _ => invalid_of_action_value, fun _ _ _ hMem _ => invalid_of_operand hMem⟩
  · rw [hContent.load_eq, hRespelled.load_eq]
    exact (loadEntries_alike (h.imp fun _ _ => readEntry_respelled)).symm
  · exact (hContent.forall₂_of_load hLoad).imp fun _ _ ⟨_, hRead⟩ => hasTexts_of_readEntry hRead

def guarded (value operand : Json) : Json :=
  .array [.string "r".toList, .string "A".toList, .null, value, .number (.int 0),
    .array [.array [.string "k".toList, operand]]]

theorem respelled_guarded (hValue : SameText v w) (hOperand : SameText c d) :
    Respelled (guarded v c) (guarded w d) := by
  have hCondition : ConditionRespelled (.array [.string "k".toList, c])
      (.array [.string "k".toList, d]) :=
    .array rfl (.cons ⟨rfl, .inl rfl⟩ (.cons ⟨rfl, .inr ⟨rfl, hOperand⟩⟩ .nil))
  refine .array rfl (.cons ⟨rfl, .inl rfl⟩ (.cons ⟨rfl, .inl rfl⟩ (.cons ⟨rfl, .inl rfl⟩
    (.cons ⟨rfl, .inr (.inl ⟨rfl, hValue⟩)⟩ (.cons ⟨rfl, .inl rfl⟩
      (.cons ⟨rfl, .inr (.inr ⟨rfl, ?_⟩)⟩ .nil))))))
  exact ⟨_, _, rfl, rfl, .cons hCondition .nil⟩

/-- A number beyond the doubles' precision and a flag, each beside its spelling as a text. -/
theorem load_respelled_guarded :
    load [] "[[\"r\",\"A\",null,18446744073709551615,0,[[\"k\",true]]]]".toList =
        load [] "[[\"r\",\"A\",null,\"18446744073709551615\",0,[[\"k\",\"true\"]]]]".toList ∧
      ∃ rule, (load [] "[[\"r\",\"A\",null,18446744073709551615,0,[[\"k\",true]]]]".toList).result =
          .ok [rule] ∧
        rule.value = "18446744073709551615".toList ∧
        ∃ condition ∈ rule.conditions, condition.operand = "true".toList := by
  have hStrings : Holds
      "[[\"r\",\"A\",null,\"18446744073709551615\",0,[[\"k\",\"true\"]]]]".toList
      [guarded (.string "18446744073709551615".toList) (.string "true".toList)] := by
    refine .inl ?_
    simp only [String.reduceToList]
    rfl
  have hScalars : Holds "[[\"r\",\"A\",null,18446744073709551615,0,[[\"k\",true]]]]".toList
      [guarded (.number (.int 18446744073709551615)) (.bool true)] := by
    refine .inl ?_
    simp only [String.reduceToList]
    rfl
  have hInt : Means (.number (.int 18446744073709551615)) "18446744073709551615".toList :=
    .int ⟨by decide, by decide⟩
  obtain ⟨hSame, hTexts, -⟩ := load_respelled [] hStrings hScalars
    (.cons (respelled_guarded (.inr ⟨_, .string _, hInt⟩) (.inr ⟨_, .string _, .bool true⟩)) .nil)
  have hRead : ∃ rule events,
      readEntry (guarded (.string "18446744073709551615".toList) (.string "true".toList)) =
        .ok (rule, events) := ⟨_, _, rfl⟩
  obtain ⟨rule, events, hRead⟩ := hRead
  have hLoad : load [] "[[\"r\",\"A\",null,\"18446744073709551615\",0,[[\"k\",\"true\"]]]]".toList =
      ⟨.ok [rule], events⟩ := by
    simpa using @gives_of_readEntry _ _ _ hRead [] _ [] [] [] [] hStrings rfl rfl
  obtain ⟨hRule, -⟩ := List.forall₂_cons.mp (hTexts [rule] (by rw [hLoad]))
  obtain ⟨condition, hMem, -, hOperand⟩ := hRule.operands (.array [.string "k".toList,
    .string "true".toList]) List.mem_cons_self _ _ rfl (.string _) (by decide) (by decide)
  refine ⟨hSame, rule, by rw [hSame, hLoad], hRule.value _ _ rfl (.string _), condition, hMem,
    hOperand⟩

end RuleFile
end Rubric
