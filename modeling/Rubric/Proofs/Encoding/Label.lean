import Rubric.Encoding.Label
import Rubric.Proofs.Text.Numeral
import Rubric.Proofs.Text.Trim

/-! Labels of encodings that look like other values. No label is a truth value, and just one of them
is an integer. -/
namespace Rubric

namespace Text

variable {c : Char}

/-- Lower case changes the capitals of the alphabet and nothing else. -/
theorem toLower_of_not_capital (h : ¬(65 ≤ c.toNat ∧ c.toNat ≤ 90)) : c.toLower = c := by
  refine dif_neg ?_
  simpa [UInt32.le_iff_toNat_le] using h

theorem toLower_of_isBlank (h : isBlank c = true) : c.toLower = c := by
  refine toLower_of_not_capital fun hCapital => ?_
  simp [isBlank] at h
  omega

/-- Digits have no case, so a label in lower case has the digits of the label. -/
theorem toLower_of_isDigit (h : c.isDigit) : c.toLower = c := by
  refine toLower_of_not_capital fun hCapital => ?_
  have hDigit : 48 ≤ c.toNat ∧ c.toNat ≤ 57 := Char.isDigit_iff_toNat.mp h
  omega

end Text

namespace Encoding

variable {label : Text}

/-- A label without blanks is looked up as it stands, in lower case. -/
theorem ofLabel?_of_solid (h : ∀ c ∈ label, Text.isBlank c = false) :
    ofLabel? label =
      (labelled.find? fun (_, labels) =>
        labels.contains (String.ofList (label.map Char.toLower))).map Prod.fst := by
  have hBlank : ∀ c ∈ label, isLabelBlank c = false := by
    intro c hc
    have hOther : ∀ d, Text.isBlank d = true → c ≠ d := by
      rintro d hd rfl
      simp [h c hc] at hd
    simp only [isLabelBlank, Bool.or_eq_false_iff, beq_eq_false_iff_ne]
    exact ⟨⟨⟨⟨hOther _ rfl, hOther _ rfl⟩, hOther _ rfl⟩, hOther _ rfl⟩, hOther _ rfl⟩
  rw [ofLabel?, Text.trim_of_solid h, Text.dropWhile_of_solid hBlank,
    Text.dropWhile_of_solid (by simpa using hBlank), List.reverse_reverse]

/-- There is one label that reads as an integer. The other labels with digits have a letter or a
hyphen too. -/
theorem eq_of_readInt? (hLabel : (ofLabel? label).isSome) (hInt : (Text.readInt? label).isSome) :
    label = "866".toList := by
  obtain ⟨n, hInt⟩ := Option.isSome_iff_exists.mp hInt
  have hNumeral : Text.Numeral label n := (Text.readInt?_eq_some_iff.mp hInt).1
  have hSolid : ∀ c ∈ label, Text.isBlank c = false := fun _ => hNumeral.isBlank_eq_false
  have hSmall : label.map Char.toLower = label := by
    refine (List.map_congr_left fun c hc => ?_).trans (List.map_id label)
    rcases hNumeral.digit_or_sign hc with hDigit | rfl | rfl
    · exact Text.toLower_of_isDigit hDigit
    · rfl
    · rfl
  rw [ofLabel?_of_solid hSolid, hSmall, Option.isSome_map, List.find?_isSome] at hLabel
  obtain ⟨entry, hEntry, hLabels⟩ := hLabel
  have hOnly : ∀ entry ∈ labelled, ∀ l ∈ entry.2,
      (Text.readInt? l.toList).isSome → l = "866" := by
    decide +kernel
  have hName := hOnly entry hEntry (String.ofList label) (by simpa using hLabels)
    (by simp [hInt])
  simpa using congrArg String.toList hName

/-- No label reads as a truth value, whatever its case. -/
theorem lower_ne_of_ofLabel? (hLabel : (ofLabel? label).isSome) :
    label.map Char.toLower ≠ "true".toList ∧ label.map Char.toLower ≠ "false".toList := by
  have hSolid : ∀ name : String, name.toList.all (!Text.isBlank ·) = true →
      label.map Char.toLower = name.toList → ∀ c ∈ label, Text.isBlank c = false := by
    intro name hName hSame c hc
    by_contra hBlank
    have hBlank : Text.isBlank c = true := by simpa using hBlank
    have hMem : c.toLower ∈ name.toList := hSame ▸ List.mem_map_of_mem hc
    rw [Text.toLower_of_isBlank hBlank] at hMem
    simpa [hBlank] using List.all_eq_true.mp hName c hMem
  constructor
  · intro hSame
    rw [ofLabel?_of_solid (hSolid "true" (by decide) hSame), hSame] at hLabel
    exact absurd hLabel (by decide +kernel)
  · intro hSame
    rw [ofLabel?_of_solid (hSolid "false" (by decide) hSame), hSame] at hLabel
    exact absurd hLabel (by decide +kernel)

end Encoding

end Rubric
