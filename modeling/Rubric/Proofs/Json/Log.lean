import Rubric.Modification
import Rubric.Proofs.Json.Printing

/-! The log as JSON. Whatever the texts in it are, the log is read back from either of its layouts,
so nothing that a rule has written is lost or takes the shape of something else. -/
namespace Rubric.Modification

open Json

/-- A value with the fields of a modification and no others. The previous value is null where the
key is new, and a string otherwise, which may be empty. -/
def IsRecord (m : Modification) (item : Json) : Prop :=
  ∃ previous, item = .object [("section".toList, .string m.sectionName),
      ("rule".toList, .string m.ruleName), ("key".toList, .string m.key),
      ("previous_value".toList, previous), ("new_value".toList, .string m.value)] ∧
    (previous = .null ↔ m.previous = none) ∧ ∀ t, previous = .string t ↔ m.previous = some t

variable {m other : Modification} {log : List Modification}

/-- What is printed for a modification is a record of it: the five fields in their order, each with
its own value. -/
theorem isRecord_toJson (m : Modification) : IsRecord m m.toJson := by
  refine ⟨_, rfl, ?_, fun t => ?_⟩ <;>
  cases m.previous <;> simp

/-- Different modifications have different records, so nothing of a modification is lost in one. -/
theorem toJson_inj (h : m.toJson = other.toJson) : m = other := by
  cases m with | mk sectionName ruleName key previous value =>
  cases other with | mk sectionName' ruleName' key' previous' value' =>
  cases previous <;> cases previous' <;> simp_all [toJson]

theorem exact_toJson (m : Modification) {depth : Nat} : Exact (depth + 1) m.toJson := by
  have hPrevious : Exact depth ((m.previous.map Json.string).getD .null) := by
    cases m.previous
    · exact .null
    · exact .string _
  refine .object fun field hField => ?_
  simp only [List.mem_cons, List.not_mem_nil, or_false] at hField
  rcases hField with rfl | rfl | rfl | rfl | rfl
  · exact .string _
  · exact .string _
  · exact .string _
  · exact hPrevious
  · exact .string _

/-- A log stays within the depth that the reader allows, however long it is. -/
theorem exact_log (log : List Modification) : Exact depthLimit (.array (log.map toJson)) := by
  refine .array fun item hItem => ?_
  obtain ⟨m, -, rfl⟩ := List.mem_map.mp hItem
  exact exact_toJson m

/-- The log is read back from both layouts as one record for each modification, in order, with the
same texts, and no two logs have one text in any layouts. -/
theorem logText_lossless (log : List Modification) :
    (∃ items, (∀ indent, read? (logText indent log) = some (.array items)) ∧
      List.Forall₂ IsRecord log items) ∧
      ∀ other indent indent', logText indent log = logText indent' other → log = other := by
  refine ⟨⟨log.map toJson, (exact_log log).read?_print, ?_⟩, fun other indent indent' hSame => ?_⟩
  · exact List.forall₂_map_right_iff.mpr (List.forall₂_same.mpr fun m _ => isRecord_toJson m)
  · have hItems := (exact_log log).print_inj (exact_log other) hSame
    exact List.map_injective_iff.mpr (fun _ _ => toJson_inj) (Json.array.inj hItems)

end Rubric.Modification
