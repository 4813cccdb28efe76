import Mathlib.Data.List.Infix
import Rubric.Rule.Matching

/-! Loosening rules. A match type is a relation between a value and its operand, and it passes every
value that a stricter one passes. Conditions ask for the presence of lines, so a rule that asks for
less, or a section with more lines, loses no match. -/
namespace Rubric

/-- The search for a part is decided by the library's relation of infixes. -/
theorem Text.occursIn_iff_isInfix {part t : Text} : occursIn part t = true ↔ part <:+: t := by
  induction t with
  | nil => simp [occursIn]
  | cons c t ih => simp [occursIn, List.infix_cons_iff, ih]

namespace MatchType

variable {kind : MatchType} {candidate operand part : Text}

/-- The candidate is put together from the operand the way that the match type asks for. -/
def Fits (kind : MatchType) (candidate operand : Text) : Prop :=
  match kind with
  | contains => ∃ before after, candidate = before ++ operand ++ after
  | equals => candidate = operand
  | startsWith => ∃ after, candidate = operand ++ after
  | endsWith => ∃ before, candidate = before ++ operand

/-- Each kind of comparison holds just when its relation between the two texts does. -/
theorem holds_iff_fits : kind.holds candidate operand = true ↔ kind.Fits candidate operand := by
  cases kind with
  | contains =>
      rw [holds, Text.occursIn_iff_isInfix]
      simp only [Fits, List.IsInfix, eq_comm]
  | equals => simp [holds, Fits]
  | startsWith =>
      rw [holds, List.isPrefixOf_iff_prefix]
      simp only [Fits, List.IsPrefix, eq_comm]
  | endsWith =>
      rw [holds, List.isSuffixOf_iff_suffix]
      simp only [Fits, List.IsSuffix, eq_comm]

/-- What passes any of the match types has the operand somewhere in it. -/
theorem Fits.isInfix (h : kind.Fits candidate operand) : operand <:+: candidate := by
  cases kind with
  | contains =>
      obtain ⟨before, after, rfl⟩ := h
      exact List.infix_append _ _ _
  | equals => exact h ▸ List.infix_refl _
  | startsWith =>
      obtain ⟨after, rfl⟩ := h
      exact (List.prefix_append _ _).isInfix
  | endsWith =>
      obtain ⟨before, rfl⟩ := h
      exact (List.suffix_append _ _).isInfix

/-- A part of the operand is contained in everything that the operand is compared with
successfully. -/
theorem holds_contains_of_holds (hPart : part <:+: operand)
    (h : kind.holds candidate operand = true) : contains.holds candidate part = true :=
  Text.occursIn_iff_isInfix.mpr (hPart.trans (holds_iff_fits.mp h).isInfix)

end MatchType

/-- A condition is the other one, or it merely looks for a part of the other one's operand under the
same key. -/
def Condition.Loosens (looser strict : Condition) : Prop :=
  looser = strict ∨
    looser.key = strict.key ∧ looser.kind = .contains ∧ looser.operand <:+: strict.operand

/-- A rule with the pattern of another one, and with no condition that is not one of the other's
conditions or looser than one of them. -/
structure Rule.Loosens (looser strict : Rule) : Prop where
  pattern : looser.pattern = strict.pattern
  conditions : ∀ c ∈ looser.conditions, ∃ d ∈ strict.conditions, c.Loosens d

/-- An ordinary section of the same name with all lines of another one in their order, and perhaps
more lines anywhere between them. -/
structure Section.Extends (longer s : Section) : Prop where
  name : longer.name = s.name
  isPreamble : longer.isPreamble = false
  lines : s.lines.Sublist longer.lines

variable {s longer : Section} {condition looser strict : Condition}

/-- A condition holds in a section when one of the lines of its key has a value that passes. -/
theorem Condition.holdsIn_iff : condition.holdsIn s = true ↔
    ∃ line ∈ s.lines, line.key = some condition.key ∧
      condition.kind.holds (line.value.getD []) condition.operand = true := by
  simp [holdsIn, Section.find]

/-- A looser condition holds wherever the stricter one does, and more lines never hurt. -/
theorem Condition.Loosens.holdsIn (hLooser : looser.Loosens strict)
    (hLines : s.lines ⊆ longer.lines)
    (h : strict.holdsIn s = true) : looser.holdsIn longer = true := by
  obtain ⟨line, hLine, hKey, hHolds⟩ := holdsIn_iff.mp h
  refine holdsIn_iff.mpr ⟨line, hLines hLine, ?_⟩
  rcases hLooser with rfl | ⟨hSame, hKind, hPart⟩
  · exact ⟨hKey, hHolds⟩
  · rw [hSame, hKind]
    exact ⟨hKey, MatchType.holds_contains_of_holds hPart hHolds⟩

namespace Rule

theorem loosens_of_subset {rule : Rule} {conditions : List Condition}
    (h : conditions ⊆ rule.conditions) : Loosens { rule with conditions := conditions } rule where
  pattern := rfl
  conditions c hc := ⟨c, h hc, .inl rfl⟩

theorem Loosens.matchesWith {looser strict : Rule} {pattern : Pattern.Expr}
    (hLooser : looser.Loosens strict) (hLonger : longer.Extends s)
    (h : strict.matchesWith pattern s = true) : looser.matchesWith pattern longer = true := by
  simp only [Rule.matchesWith, Bool.and_eq_true, List.all_eq_true] at h ⊢
  obtain ⟨⟨-, hFound⟩, hConditions⟩ := h
  refine ⟨⟨by simp [hLonger.isPreamble], hLonger.name ▸ hFound⟩, fun c hc => ?_⟩
  obtain ⟨d, hd, hLoosens⟩ := hLooser.conditions c hc
  exact hLoosens.holdsIn hLonger.lines.subset (hConditions d hd)

/-- A looser rule matches every section that the stricter one matches, and every longer section
too. -/
theorem Loosens.matches? {looser strict : Rule} (hLooser : looser.Loosens strict)
    (hLonger : longer.Extends s) (h : strict.matches? s = some true) :
    looser.matches? longer = some true := by
  obtain ⟨pattern, hPattern, hMatches⟩ := Option.map_eq_some_iff.mp h
  rw [Rule.matches?, hLooser.pattern, hPattern]
  exact congrArg some (hLooser.matchesWith hLonger hMatches)

/-- Matching is monotone. A rule that matches a section still matches it when lines are added and
conditions are loosened; reordered, repeated and dropped conditions are a case of this. Whether a
value passes is told by how the value is put together from the operand. -/
theorem matches?_monotone {looser strict : Rule} {s longer : Section}
    (hLooser : looser.Loosens strict) (hLonger : longer.Extends s)
    (h : strict.matches? s = some true) :
    looser.matches? longer = some true ∧
      (∀ conditions, conditions ⊆ strict.conditions →
        { strict with conditions := conditions }.matches? longer = some true) ∧
      ∀ kind candidate operand,
        MatchType.holds kind candidate operand = true ↔ kind.Fits candidate operand :=
  ⟨hLooser.matches? hLonger h, fun _ hSubset => (loosens_of_subset hSubset).matches? hLonger h,
    fun _ _ _ => MatchType.holds_iff_fits⟩

def sharp : Rule where
  name := "alt".toList
  pattern := "Hair".toList
  key := "run".toList
  value := "x".toList
  priority := 0
  conditions := [⟨"hash".toList, "1a2b".toList, .startsWith⟩, ⟨"index".toList, "0".toList, .equals⟩]

/-- The rule with its conditions in another order, and a part of the start anywhere in the value. -/
def blunt : Rule :=
  { sharp with
    name := "any".toList
    conditions := [⟨"index".toList, "0".toList, .equals⟩, ⟨"hash".toList, "a2".toList, .contains⟩] }

def hair (lines : List String) : Section where
  name := "TextureOverrideHairIB".toList
  header := "[TextureOverrideHairIB]".toList
  lines := lines.map fun line => .read line.toList

theorem matches?_monotone_sharp :
    blunt.Loosens sharp ∧
      (hair ["hash = 7", "index = 6", "; note", "hash = 1a2bc", "index = 0"]).Extends
        (hair ["hash = 7", "hash = 1a2bc", "index = 0"]) ∧
      sharp.matches? (hair ["hash = 7", "hash = 1a2bc", "index = 0"]) = some true ∧
      blunt.matches? (hair ["hash = 7", "index = 6", "; note", "hash = 1a2bc", "index = 0"]) =
        some true := by
  have hLooser : blunt.Loosens sharp := by
    refine ⟨rfl, fun c hc => ?_⟩
    rcases List.mem_pair.mp hc with rfl | rfl
    · exact ⟨_, List.mem_cons_of_mem _ List.mem_cons_self, .inl rfl⟩
    · exact ⟨_, List.mem_cons_self, .inr ⟨rfl, rfl, ['1'], ['b'], rfl⟩⟩
  have hLonger : (hair ["hash = 7", "index = 6", "; note", "hash = 1a2bc", "index = 0"]).Extends
      (hair ["hash = 7", "hash = 1a2bc", "index = 0"]) :=
    ⟨rfl, by decide, by decide⟩
  have hMatch : sharp.matches? (hair ["hash = 7", "hash = 1a2bc", "index = 0"]) = some true := by
    decide +kernel
  exact ⟨hLooser, hLonger, hMatch, (matches?_monotone hLooser hLonger hMatch).1⟩

end Rule
end Rubric
