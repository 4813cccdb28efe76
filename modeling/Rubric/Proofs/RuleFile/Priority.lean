import Rubric.Proofs.Json.Reading
import Rubric.Proofs.RuleFile.Alike
import Rubric.Proofs.RuleFile.Loading
import Rubric.Proofs.Text.Trim

/-! Priorities in rule files. A priority is an integer of 64 bits with a sign, or a numeral of one
in a string. It is read from nothing else, and nothing else of a rule depends on how it stands. -/
namespace Rubric

namespace RuleFile

open Json

variable {entry other v : Json} {n m : Int} {name : Text} {draft final : Draft}
  {fields others : Fields Json} {rule : Rule} {events : List Event}

/-- The priorities that values stand for. -/
inductive IsPriority : Json → Int → Prop where
  | int {n : Int} (h : -2 ^ 63 ≤ n ∧ n < 2 ^ 63) : IsPriority (.number (.int n)) n
  | string {t : Text} {n : Int} (hNumeral : Text.Numeral (Text.trim t) n)
      (h : -2 ^ 63 ≤ n ∧ n < 2 ^ 63) : IsPriority (.string t) n

/-- Exactly the values that stand for a priority are read, and as this priority. -/
theorem priority_eq_ok_iff : priority v = .ok n ↔ IsPriority v n := by
  constructor
  · intro h
    rw [priority.eq_def] at h
    split at h
    next t =>
      split at h
      next m hRead =>
        obtain rfl := Except.ok.inj h
        obtain ⟨hNumeral, hRange⟩ := Text.readInt?_eq_some_iff.mp hRead
        exact .string hNumeral hRange
      next => cases h
    next m =>
      split at h
      next hRange =>
        obtain rfl := Except.ok.inj h
        exact .int (Text.inRange_iff.mp hRange)
      next => cases h
    next => cases h
  · intro h
    cases h with
    | int hRange => simp only [priority, Text.inRange_iff.mpr hRange, if_true]
    | string hNumeral hRange =>
        simp only [priority, Text.readInt?_eq_some_iff.mpr ⟨hNumeral, hRange⟩]

theorem priority_sorted (v : Json) : priority v.sorted = priority v := by
  cases v <;> rfl

/-- Two entries that differ in their priorities at most. -/
def AlikeButPriority : Json → Json → Prop :=
  Alike Draft.order fun name v w => name = "priority".toList ∨ v = w

namespace Draft

/-- The priority is read apart from all other fields. -/
theorem set_priority (v : Json) :
    draft.set "priority".toList v =
      (RuleFile.priority v).map fun n => { draft with priority := n } := by
  simp only [set, String.ofList_toList]

/-- Fields of other names are taken in the same way whatever the priority is. -/
theorem set_withPriority (hName : name ≠ "priority".toList) (v : Json) (n : Int) :
    { draft with priority := n }.set name v =
      (draft.set name v).map fun draft => { draft with priority := n } := by
  rw [set, set]
  split
  next => cases string v <;> rfl
  next => cases string v <;> rfl
  next => cases string? v <;> rfl
  next => cases scalar v <;> rfl
  next hSame => exact absurd (by simp [← hSame]) hName
  next => cases conditionDrafts v <;> rfl
  next => rfl

/-- Fields that differ in the priority at most are taken in the same way but for the priority. -/
theorem foldlM_alikeButPriority
    (hFields : FieldsAlike (fun name v w => name = "priority".toList ∨ v = w) fields others)
    (hDistinct : fields.Distinct)
    (h : others.foldlM (fun draft field => draft.set field.1 field.2) draft = .ok final) :
    fields.foldlM (fun draft field => draft.set field.1 field.2) { draft with priority := m } =
      ((Fields.find? "priority".toList fields).elim (.ok m) RuleFile.priority).map
        fun n => { final with priority := n } := by
  induction hFields generalizing draft m with
  | nil =>
      obtain rfl : draft = final := by simpa [pure, Except.pure] using h
      rfl
  | @cons field other fields others hField hRest ih =>
      obtain ⟨name, v⟩ := field
      obtain ⟨second, w⟩ := other
      obtain ⟨rfl, hValue⟩ := hField
      have hNames : name ∉ fields.map Prod.fst ∧ Fields.Distinct fields :=
        List.nodup_cons.mp hDistinct
      rw [List.foldlM_cons] at h ⊢
      obtain ⟨next, hNext, hTail⟩ := bind_eq_ok_iff.mp h
      dsimp only at hNext ⊢
      by_cases hName : name = "priority".toList
      · subst hName
        rw [set_priority] at hNext
        obtain ⟨k, -, rfl⟩ := map_eq_ok_iff.mp hNext
        -- A name stands once, so what is behind this field leaves the priority as it is.
        have hNone := Fields.find?_eq_none_iff.mpr hNames.1
        rw [set_priority, Fields.find?, if_pos rfl, Option.elim_some]
        cases RuleFile.priority v with
        | error reason => rfl
        | ok n =>
            have hRead := ih hNames.2 hTail (m := n)
            rw [hNone] at hRead
            exact hRead
      · obtain rfl : v = w := hValue.resolve_left hName
        rw [set_withPriority hName, hNext, Fields.find?, if_neg (Ne.symm hName)]
        exact ih hNames.2 hTail

/-- A draft is finished the same way whatever its priority is. -/
theorem finish_withPriority {fromArray : Bool} (h : draft.finish fromArray = .ok (rule, events))
    (n : Int) :
    { draft with priority := n }.finish fromArray = .ok ({ rule with priority := n }, events) := by
  obtain ⟨name, pattern, value, hName, hPattern, hValue, hRule⟩ := finish_eq_ok_iff.mp h
  obtain ⟨rfl, rfl⟩ := Prod.mk.inj hRule
  exact finish_eq_ok_iff.mpr ⟨name, pattern, value, hName, hPattern, hValue, rfl⟩

theorem conclude_withPriority (h : draft.conclude entry = .ok (rule, events)) (n : Int) :
    { draft with priority := n }.conclude entry = .ok ({ rule with priority := n }, events) := by
  cases entry with
  | object fields => exact finish_withPriority h n
  | array items =>
      obtain ⟨finished, hFinish, h⟩ := bind_eq_ok_iff.mp h
      split at h
      next => cases h
      next hLength =>
        obtain rfl : finished = (rule, events) := Except.ok.inj h
        rw [conclude, finish_withPriority hFinish n]
        exact if_neg hLength
  | _ => cases h

end Draft

/-- Under each name, a sorted entry has one value at most. -/
theorem distinct_fieldsIn_sorted (entry : Json) :
    Fields.Distinct (entry.sorted.fieldsIn Draft.order) := by
  cases entry with
  | object fields => exact distinct_sortedFields fields
  | array items => exact Fields.distinct_zip (by decide) _
  | _ => exact List.nodup_nil

/-- The priority of a rule is what is read from its value, and nothing else depends on it. -/
theorem readEntry_of_alikeButPriority (hAlike : AlikeButPriority entry other)
    (hOther : readEntry other = .ok (rule, events))
    (hValue : entry.field? Draft.order "priority" = some v) :
    readEntry entry = (priority v).map fun n => ({ rule with priority := n }, events) := by
  have hSorted : AlikeButPriority entry.sorted other.sorted :=
    hAlike.sorted fun hRel => hRel.imp_right (congrArg sorted)
  have hFields := hSorted.fieldsIn fun _ _ => .inr rfl
  have hFind : Fields.find? "priority".toList (entry.sorted.fieldsIn Draft.order) =
      some v.sorted := by
    have hLast : entry.sorted.field? Draft.order "priority" = some v.sorted := by
      rw [field?_sorted, hValue, Option.map_some]
    rwa [field?, Fields.last?_eq_find? (distinct_fieldsIn_sorted entry)] at hLast
  rw [Draft.readEntry_eq] at hOther
  obtain ⟨final, hFinal, hConclude⟩ := bind_eq_ok_iff.mp hOther
  have hTaken := Draft.foldlM_alikeButPriority hFields (distinct_fieldsIn_sorted entry) hFinal
    (m := Draft.blank.priority)
  rw [hFind, Option.elim_some, priority_sorted] at hTaken
  rw [Draft.readEntry_eq, Draft.conclude_alike hSorted]
  refine (congrArg (· >>= _) hTaken).trans ?_
  cases priority v with
  | error reason => rfl
  | ok n => exact Draft.conclude_withPriority hConclude n

/-- The texts in which an integer is given as a number. -/
theorem exists_read?_isPriority_iff {t : Text} :
    (∃ number, read? t = some (.number number) ∧ IsPriority (.number number) n) ↔
      (-2 ^ 63 ≤ n ∧ n < 2 ^ 63) ∧
        ∃ lead last, Space lead ∧ Space last ∧ t = lead ++ Text.ofInt n ++ last := by
  constructor
  · rintro ⟨number, hRead, hPriority⟩
    cases hPriority with
    | int hRange => exact ⟨hRange, (read?_eq_int_iff.mp hRead).2⟩
  · rintro ⟨hRange, hText⟩
    have hWhole : Whole n := ⟨hRange.1, by omega⟩
    exact ⟨.int n, read?_eq_int_iff.mpr ⟨hWhole, hText⟩, .int hRange⟩

/-- Blanks around the digits are ignored in a text. -/
theorem isPriority_surrounded {before after : Text} (hRange : -2 ^ 63 ≤ n ∧ n < 2 ^ 63)
    (hBefore : before.all Text.isBlank = true) (hAfter : after.all Text.isBlank = true) :
    IsPriority (.string (before ++ Text.ofInt n ++ after)) n := by
  have hNumeral := Text.numeral_ofInt n
  refine .string ?_ hRange
  rwa [Text.trim_append hBefore hAfter, Text.trim_of_solid fun _ => hNumeral.isBlank_eq_false]

/-- Priorities are read exactly. Of the entries that differ in their priorities at most from one
that is a rule, those are rules whose value stands for a priority, and they give every file this
rule with this priority. All others are invalid wherever they stand. So it makes no difference
whether an integer is written as a number or as a string with blanks around it. As a number it is
written in its shortest text alone, and a zero with a minus is no integer. -/
theorem readEntry_priority (hOther : readEntry other = .ok (rule, events)) :
    (∀ entry v, AlikeButPriority entry other → entry.field? Draft.order "priority" = some v →
      (∀ n, (∃ found reports, readEntry entry = .ok (found, reports) ∧ found.priority = n) ↔
        IsPriority v n) ∧
      (∀ n, IsPriority v n → readEntry entry = .ok ({ rule with priority := n }, events) ∧
        Gives entry { rule with priority := n } events) ∧
      ((∀ n, ¬IsPriority v n) → Invalid entry)) ∧
    (∀ entry twin n before after, AlikeButPriority entry other → AlikeButPriority twin other →
      entry.field? Draft.order "priority" = some (.number (.int n)) →
      twin.field? Draft.order "priority" = some (.string (before ++ Text.ofInt n ++ after)) →
      before.all Text.isBlank = true → after.all Text.isBlank = true →
      -2 ^ 63 ≤ n ∧ n < 2 ^ 63 →
      readEntry entry = .ok ({ rule with priority := n }, events) ∧
        readEntry twin = readEntry entry ∧ Gives entry { rule with priority := n } events ∧
        Gives twin { rule with priority := n } events) ∧
    (∀ t n, (∃ number, read? t = some (.number number) ∧ IsPriority (.number number) n) ↔
      (-2 ^ 63 ≤ n ∧ n < 2 ^ 63) ∧
        ∃ lead last, Space lead ∧ Space last ∧ t = lead ++ Text.ofInt n ++ last) ∧
    ∃ x, read? "-0".toList = some (.number (.float x)) := by
  have hRead : ∀ {entry v n}, AlikeButPriority entry other →
      entry.field? Draft.order "priority" = some v → IsPriority v n →
      readEntry entry = .ok ({ rule with priority := n }, events) := by
    intro entry v n hAlike hValue hPriority
    rw [readEntry_of_alikeButPriority hAlike hOther hValue, priority_eq_ok_iff.mpr hPriority]
    rfl
  refine ⟨fun entry v hAlike hValue => ⟨fun n => ⟨?_, fun hPriority => ?_⟩,
    fun n hPriority => ?_, fun hNone => ?_⟩, ?_, fun t n => exists_read?_isPriority_iff, ?_⟩
  · rintro ⟨found, reports, hFound, rfl⟩
    rw [readEntry_of_alikeButPriority hAlike hOther hValue] at hFound
    obtain ⟨n, hPriority, hSame⟩ := map_eq_ok_iff.mp hFound
    obtain ⟨rfl, -⟩ := Prod.mk.inj hSame
    exact priority_eq_ok_iff.mp hPriority
  · exact ⟨_, _, hRead hAlike hValue hPriority, rfl⟩
  · have hEntry := hRead hAlike hValue hPriority
    exact ⟨hEntry, gives_of_readEntry hEntry⟩
  · cases hPriority : priority v with
    | error reason =>
        have hRefused : readEntry entry = .error reason := by
          rw [readEntry_of_alikeButPriority hAlike hOther hValue, hPriority]
          rfl
        exact invalid_of_error hRefused
    | ok n => exact absurd (priority_eq_ok_iff.mp hPriority) (hNone n)
  · intro entry twin n before after hEntry hTwin hNumber hString hBefore hAfter hRange
    have hPlain := hRead hEntry hNumber (.int hRange)
    have hQuoted := hRead hTwin hString (isPriority_surrounded hRange hBefore hAfter)
    exact ⟨hPlain, hQuoted.trans hPlain.symm, gives_of_readEntry hPlain,
      gives_of_readEntry hQuoted⟩
  · simp only [String.reduceToList]
    exact ⟨_, rfl⟩

def ranked (v : Json) : Json :=
  .array [.string "r".toList, .string "A".toList, .null, .string "x".toList, v]

theorem alikeButPriority_ranked (v w : Json) : AlikeButPriority (ranked v) (ranked w) :=
  .array rfl (.cons ⟨rfl, .inr rfl⟩ (.cons ⟨rfl, .inr rfl⟩ (.cons ⟨rfl, .inr rfl⟩
    (.cons ⟨rfl, .inr rfl⟩ (.cons ⟨rfl, .inl rfl⟩ .nil)))))

/-- The least priority there is, as a number and as a text between blanks. One more than the
greatest is refused. -/
theorem readEntry_priority_ranked : ∃ rule events,
    readEntry (ranked (.number (.int (-9223372036854775808)))) = .ok (rule, events) ∧
      rule.priority = -9223372036854775808 ∧
      readEntry (ranked (.string " -9223372036854775808\t".toList)) = .ok (rule, events) ∧
      load [] "[[\"r\",\"A\",null,\"x\",\" -9223372036854775808\\t\"]]".toList =
        ⟨.ok [rule], events⟩ ∧
      Invalid (ranked (.number (.int 9223372036854775808))) := by
  have hHolds : Holds "[[\"r\",\"A\",null,\"x\",\" -9223372036854775808\\t\"]]".toList
      [ranked (.string " -9223372036854775808\t".toList)] := by
    refine .inl ?_
    simp only [String.reduceToList]
    rfl
  have hOther : ∃ rule events, readEntry (ranked (.number (.int 0))) = .ok (rule, events) :=
    ⟨_, _, rfl⟩
  obtain ⟨rule, events, hOther⟩ := hOther
  obtain ⟨hValues, hTwins, -, -⟩ := readEntry_priority hOther
  obtain ⟨hNumber, hString, -, hGives⟩ := hTwins
    (ranked (.number (.int (-9223372036854775808))))
    (ranked (.string " -9223372036854775808\t".toList)) (-9223372036854775808) " ".toList
    "\t".toList (alikeButPriority_ranked _ _) (alikeButPriority_ranked _ _) rfl rfl (by decide)
    (by decide) (by decide)
  have hLoad := @hGives [] _ [] [] [] [] hHolds rfl rfl
  refine ⟨_, events, hNumber, rfl, hString.trans hNumber, by simpa using hLoad, ?_⟩
  refine (hValues _ _ (alikeButPriority_ranked _ _) rfl).2.2 fun n hPriority => ?_
  cases hPriority with
  | int hRange => exact absurd hRange (by decide)

end RuleFile
end Rubric
