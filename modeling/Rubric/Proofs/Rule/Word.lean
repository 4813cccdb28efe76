import Rubric.Proofs.Pattern.Word
import Rubric.Rule.Matching

/-! Rules whose pattern is a word. They match the sections that have the word in their name, at the
start or the end of it if the pattern says so. A line break ends no name. -/
namespace Rubric.Rule

variable {rule : Rule} {word : Text}

/-- The four laws in one: a word, bound to the start and the end of the name or not, matches the
names in which it occurs there. -/
theorem matches?_bound (atStart atEnd : Bool) (hWord : ∀ c ∈ word, c ∉ Pattern.special)
    (hPattern : rule.pattern = Pattern.bound atStart atEnd word)
    (hCompiles : (Pattern.compile? rule.pattern).isSome) (hNone : rule.conditions = [])
    (s : Section) {p : Prop} [Decidable p]
    (hName : p ↔ ∃ before after, before ++ word ++ after = s.name ∧
      (atStart = true → before = []) ∧ (atEnd = true → after = [])) :
    rule.matches? s = some (!s.isPreamble && decide p) := by
  obtain ⟨e, hCompile⟩ := Option.isSome_iff_exists.mp hCompiles
  have hFound : e.found s.name = decide p := by
    rw [hPattern] at hCompile
    rw [Pattern.eq_of_compile?_bound hWord hCompile, Bool.eq_iff_iff, decide_eq_true_eq, hName]
    exact Pattern.Expr.found_bound_iff hWord atStart atEnd
  rw [matches?, hCompile, Option.map_some, matchesWith, hFound, hNone, List.all_nil, Bool.and_true]

/-- A rule without conditions whose pattern is a word matches the sections whose name the word
occurs in. Bound to the start, to the end or to both, it matches those whose name starts with the
word, ends with it or is the word. The preamble is never matched. -/
theorem matches?_word (hWord : ∀ c ∈ word, c ∉ Pattern.special) (hNone : rule.conditions = [])
    (hCompiles : (Pattern.compile? rule.pattern).isSome) (s : Section) :
    (rule.pattern = word →
      rule.matches? s = some (!s.isPreamble && decide (word <:+: s.name))) ∧
    (rule.pattern = '^' :: word →
      rule.matches? s = some (!s.isPreamble && decide (word <+: s.name))) ∧
    (rule.pattern = word ++ ['$'] →
      rule.matches? s = some (!s.isPreamble && decide (word <:+ s.name))) ∧
    (rule.pattern = '^' :: (word ++ ['$']) →
      rule.matches? s = some (!s.isPreamble && decide (s.name = word))) := by
  refine ⟨fun hPattern => ?_, fun hPattern => ?_, fun hPattern => ?_, fun hPattern => ?_⟩
  · refine matches?_bound false false hWord ?_ hCompiles hNone s ?_
    · simpa [Pattern.bound] using hPattern
    · simp [List.IsInfix]
  · refine matches?_bound true false hWord ?_ hCompiles hNone s ?_
    · simpa [Pattern.bound] using hPattern
    · simp [List.IsPrefix]
  · refine matches?_bound false true hWord ?_ hCompiles hNone s ?_
    · simpa [Pattern.bound] using hPattern
    · simp [List.IsSuffix]
  · refine matches?_bound true true hWord ?_ hCompiles hNone s ?_
    · simpa [Pattern.bound] using hPattern
    · simp [eq_comm]

def worded (pattern : String) : Rule where
  name := "word".toList
  pattern := pattern.toList
  key := "run".toList
  value := "x".toList
  priority := 0
  conditions := []

/-- A word with a line break in it is bound to the start and the end of the name, not to those of a
line. -/
theorem matches?_word_lineBreak :
    (∀ c ∈ "ü\nIB".toList, c ∉ Pattern.special) ∧
      (∀ pattern ∈ ["ü\nIB", "^ü\nIB", "ü\nIB$", "^ü\nIB$"],
        (Pattern.compile? (worded pattern).pattern).isSome = true) ∧
      (worded "ü\nIB").matches? ⟨"ü\nü\nIB\n".toList, ['['], []⟩ = some true ∧
      (worded "^ü\nIB").matches? ⟨"ü\nü\nIB\n".toList, ['['], []⟩ = some false ∧
      (worded "ü\nIB$").matches? ⟨"ü\nü\nIB\n".toList, ['['], []⟩ = some false ∧
      (worded "^ü\nIB$").matches? ⟨"ü\nIB".toList, ['['], []⟩ = some true := by
  have hAll : "ü\nIB".toList.all (fun c => decide (c ∉ Pattern.special)) = true := by decide
  have hWord : ∀ c ∈ "ü\nIB".toList, c ∉ Pattern.special := fun c hc =>
    of_decide_eq_true (List.all_eq_true.mp hAll c hc)
  have hAny : (Pattern.compile? (worded "ü\nIB").pattern).isSome = true := by decide +kernel
  have hStart : (Pattern.compile? (worded "^ü\nIB").pattern).isSome = true := by decide +kernel
  have hEnd : (Pattern.compile? (worded "ü\nIB$").pattern).isSome = true := by decide +kernel
  have hBoth : (Pattern.compile? (worded "^ü\nIB$").pattern).isSome = true := by decide +kernel
  refine ⟨hWord, by simp [hAny, hStart, hEnd, hBoth], ?_, ?_, ?_, ?_⟩
  · exact ((matches?_word hWord rfl hAny _).1 rfl).trans (by decide)
  · exact ((matches?_word hWord rfl hStart _).2.1 rfl).trans (by decide)
  · exact ((matches?_word hWord rfl hEnd _).2.2.1 rfl).trans (by decide)
  · exact ((matches?_word hWord rfl hBoth _).2.2.2 rfl).trans (by decide)

end Rubric.Rule
