import Rubric.Proofs.Text.Trim

/-! A line has its text and its pair side by side, and nothing but the ways in which lines are made
keeps the two together. What is read from a text has its pair trimmed, but a pair that is written
keeps its blanks and its equals signs, and then its text says something else. -/
namespace Rubric

namespace Line

variable {line : Line} {text key value old : Text}

/-- The text and the pair of a line agree. It tells a key exactly when its text has an equals sign,
and its key and value either make up its text or are what is read from it. -/
structure Coherent (line : Line) : Prop where
  keyed : line.key.isSome ↔ '=' ∈ line.text
  told : ∀ key value, line.key = some key → line.value = some value →
    line.text = key ++ " = ".toList ++ value ∨
      (read line.text).key = some key ∧ (read line.text).value = some value

/-- Wherever there is a key there is a value. -/
theorem exists_pair_of_key (h : line.key = some key) : ∃ value, line.pair = some (key, value) := by
  obtain ⟨⟨found, value⟩, hPair, rfl⟩ := Option.map_eq_some_iff.mp h
  exact ⟨value, hPair⟩

theorem setValue_of_pair (h : line.pair = some (key, old)) :
    line.setValue value = .ok (ofPair key value) := by
  rw [setValue, h]

theorem setValue_of_key_eq_none (h : line.key = none) :
    line.setValue value = .error (.lineWithoutKey line.text) := by
  rw [setValue, Option.map_eq_none_iff.mp h]

/-- A line has a key just when there is an equals sign in it. -/
theorem isSome_key_read_iff : (read text).key.isSome ↔ '=' ∈ text := by
  rw [key, pair_read, Option.isSome_map, Option.isSome_map, Option.isSome_iff_ne_none, Ne,
    Text.splitFirst_eq_none_iff, not_not]

/-- What is read has no blanks around its key and value, and no equals sign in its key. -/
theorem trimmed_of_pair_read (h : (read text).pair = some (key, value)) :
    '=' ∉ key ∧ Text.trim key = key ∧ Text.trim value = value := by
  rw [pair_read] at h
  obtain ⟨⟨before, after⟩, hSplit, hTrimmed⟩ := Option.map_eq_some_iff.mp h
  obtain ⟨rfl, rfl⟩ := Prod.mk.inj hTrimmed
  obtain ⟨-, hBefore⟩ := Text.eq_append_of_splitFirst hSplit
  exact ⟨fun hMem => hBefore (Text.mem_of_mem_trim hMem), Text.trim_trim before,
    Text.trim_trim after⟩

/-- A written pair is read back exactly when it could have been read in the first place. -/
theorem read_text_ofPair_iff : read (ofPair key value).text = ofPair key value ↔
    '=' ∉ key ∧ Text.trim key = key ∧ Text.trim value = value := by
  constructor
  · intro h
    exact trimmed_of_pair_read (congrArg pair h)
  · rintro ⟨hEquals, hKey, hValue⟩
    exact read_written hEquals hKey hValue

/-- A line that was read says what its text says. -/
theorem coherent_read (text : Text) : (read text).Coherent where
  keyed := isSome_key_read_iff
  told _ _ hKey hValue := .inr ⟨hKey, hValue⟩

/-- A line that was made of a pair says the pair. -/
theorem coherent_ofPair (key value : Text) : (ofPair key value).Coherent where
  keyed := by simp [Line.key, ofPair, written]
  told other found hKey hValue := by
    obtain rfl : key = other := Option.some.inj hKey
    obtain rfl : value = found := Option.some.inj hValue
    exact .inl rfl

/-- Which lines are read back as they are. A line that is made of a key and a value is one of them
exactly when both are trimmed and the key has no equals sign. A line that was read keeps a key that
is, so after its value has been replaced only the value counts. -/
theorem reads_back_iff :
    (∀ key value, read (ofPair key value).text = ofPair key value ↔
      '=' ∉ key ∧ Text.trim key = key ∧ Text.trim value = value) ∧
    ∀ text value, '=' ∈ text → ∃ fresh, (read text).setValue value = .ok fresh ∧
      (read fresh.text = fresh ↔ Text.trim value = value) := by
  refine ⟨fun key value => read_text_ofPair_iff, fun text value hEquals => ?_⟩
  obtain ⟨key, hKey⟩ := Option.isSome_iff_exists.mp (isSome_key_read_iff.mpr hEquals)
  obtain ⟨old, hPair⟩ := exists_pair_of_key hKey
  obtain ⟨hNoEquals, hTrimmed, -⟩ := trimmed_of_pair_read hPair
  refine ⟨ofPair key value, setValue_of_pair hPair, ?_⟩
  rw [read_text_ofPair_iff]
  exact ⟨fun h => h.2.2, fun hValue => ⟨hNoEquals, hTrimmed, hValue⟩⟩

/-- The key and the value of this line stand between blanks of several kinds. It can get the empty
value, but not a blank one. -/
theorem reads_back_iff_blank :
    '=' ∈ "\u3000a\u00a0=\tb=c".toList ∧
      (∃ fresh, (read "\u3000a\u00a0=\tb=c".toList).setValue [] = .ok fresh ∧
        read fresh.text = fresh) ∧
      ∃ fresh, (read "\u3000a\u00a0=\tb=c".toList).setValue "\u2003".toList = .ok fresh ∧
        read fresh.text ≠ fresh := by
  have hEquals : '=' ∈ "\u3000a\u00a0=\tb=c".toList := by decide
  obtain ⟨-, hSet⟩ := reads_back_iff
  obtain ⟨emptied, hEmptied, hBack⟩ := hSet _ [] hEquals
  obtain ⟨blanked, hBlanked, hOther⟩ := hSet _ "\u2003".toList hEquals
  exact ⟨hEquals, ⟨emptied, hEmptied, hBack.mpr rfl⟩, blanked, hBlanked,
    fun hSame => absurd (hOther.mp hSame) (by decide)⟩

end Line
end Rubric
