import Mathlib.Data.List.DropRight
import Rubric.Document.Text

/-! Trimming and splitting. A mark that is no blank stops trimming from either side, so it does not
matter whether a text is trimmed before it is split at the mark or only its halves are. -/
namespace Rubric
namespace Text

variable {c mark : Char} {s t u : Text}

/-- A character in front is trimmed away only if it is blank and all behind it is. -/
theorem trimEnd_cons (c : Char) (t : Text) :
    trimEnd (c :: t) = if trimEnd t = [] ∧ isBlank c then [] else c :: trimEnd t := by
  rw [trimEnd]
  split
  next h => simp [h]
  next kept hKept =>
    have hKept : trimEnd t ≠ [] := hKept
    simp [hKept]

theorem trimEnd_eq_nil_iff : trimEnd t = [] ↔ t.all isBlank = true := by
  induction t with
  | nil => simp [trimEnd]
  | cons c t ih => simp [trimEnd_cons, ih, and_comm]

/-- Nothing is left of a text exactly where all of it is blank. -/
theorem trim_eq_nil_iff : trim t = [] ↔ t.all isBlank = true := by
  rw [trim, trimEnd_eq_nil_iff, trimStart]
  induction t with
  | nil => rfl
  | cons c t ih => by_cases hBlank : isBlank c = true <;> simp_all

/-- Trimming the end goes no further than the last character that is not blank. -/
theorem trimEnd_append_cons (h : isBlank c = false) :
    trimEnd (s ++ c :: t) = s ++ c :: trimEnd t := by
  induction s with
  | nil => simp [trimEnd_cons, h]
  | cons d s ih => simp [trimEnd_cons, ih]

theorem trimEnd_concat_blank (h : isBlank c = true) : trimEnd (t ++ [c]) = trimEnd t := by
  induction t with
  | nil => simp [trimEnd, h]
  | cons d t ih => simp [trimEnd_cons, ih]

/-- There is nothing to trim a second time. -/
theorem trimEnd_trimEnd (t : Text) : trimEnd (trimEnd t) = trimEnd t := by
  induction t with
  | nil => rfl
  | cons d t ih =>
      rw [trimEnd_cons]
      split
      next => rfl
      next h => rw [trimEnd_cons, ih, if_neg h]

/-- Trimming the start goes no further than the first character that is not blank. -/
theorem trimStart_append_cons (h : isBlank c = false) :
    trimStart (s ++ c :: t) = trimStart s ++ c :: t := by
  induction s with
  | nil => simp [trimStart, h]
  | cons d s ih =>
      by_cases hBlank : isBlank d = true
      · simpa [trimStart, hBlank] using ih
      · simp [trimStart, hBlank]

theorem trimStart_cons_blank (h : isBlank c = true) : trimStart (c :: t) = trimStart t := by
  simp [trimStart, h]

theorem trimStart_trimStart (t : Text) : trimStart (trimStart t) = trimStart t :=
  List.dropWhile_idempotent isBlank t

/-- The two ends of a text can be trimmed in either order. -/
theorem trimStart_trimEnd (t : Text) : trimStart (trimEnd t) = trimEnd (trimStart t) := by
  induction t with
  | nil => rfl
  | cons d t ih =>
      by_cases hBlank : isBlank d = true
      · rw [trimStart_cons_blank hBlank, ← ih, trimEnd_cons]
        split
        next h => simp [h.1]
        next => exact trimStart_cons_blank hBlank
      · rw [trimEnd_cons, if_neg (by simp [hBlank])]
        simp [trimStart, hBlank, trimEnd_cons]

/-- A trim takes away what a trim of the start would. -/
theorem trim_trimStart (t : Text) : trim (trimStart t) = trim t := by
  rw [trim, trimStart_trimStart, trim]

/-- A trim takes away what a trim of the end would. -/
theorem trim_trimEnd (t : Text) : trim (trimEnd t) = trim t := by
  rw [trim, trimStart_trimEnd, trimEnd_trimEnd, trim]

/-- A trimmed text has no blanks at its ends. -/
theorem trim_trim (t : Text) : trim (trim t) = trim t :=
  calc
    trim (trim t) = trim (trimStart t) := trim_trimEnd (trimStart t)
    _ = trim t := trim_trimStart t

theorem trim_concat_blank (h : isBlank c = true) : trim (t ++ [c]) = trim t := by
  rw [← trim_trimEnd, trimEnd_concat_blank h, trim_trimEnd]

theorem trim_cons_blank (h : isBlank c = true) : trim (c :: t) = trim t := by
  rw [trim, trimStart_cons_blank h, trim]

/-- Blanks around a text are trimmed away. -/
theorem trim_append (hBefore : s.all isBlank = true) (hAfter : u.all isBlank = true) :
    trim (s ++ t ++ u) = trim t := by
  induction s with
  | nil =>
      induction u using List.reverseRecOn with
      | nil => simp
      | append_singleton u c ih =>
          obtain ⟨hAfter, hBlank⟩ : u.all isBlank = true ∧ isBlank c = true := by simpa using hAfter
          rw [← List.append_assoc, trim_concat_blank hBlank, ih hAfter]
  | cons c s ih =>
      obtain ⟨hBlank, hBefore⟩ : isBlank c = true ∧ s.all isBlank = true := by simpa using hBefore
      rw [List.cons_append, List.cons_append, trim_cons_blank hBlank, ih hBefore]

/-- A text without blanks has none at its end. -/
theorem trimEnd_of_solid (h : ∀ c ∈ t, isBlank c = false) : trimEnd t = t := by
  induction t with
  | nil => rfl
  | cons c t ih =>
      obtain ⟨hFirst, hRest⟩ := List.forall_mem_cons.mp h
      rw [trimEnd_cons, ih hRest, if_neg (by simp [hFirst])]

theorem dropWhile_of_solid {p : Char → Bool} (h : ∀ c ∈ t, p c = false) : t.dropWhile p = t := by
  cases t with
  | nil => rfl
  | cons c t => simp [h c List.mem_cons_self]

/-- A text without blanks is left as it is. -/
theorem trim_of_solid (h : ∀ c ∈ t, isBlank c = false) : trim t = t := by
  rw [trim, trimStart, dropWhile_of_solid h, trimEnd_of_solid h]

/-- Around a character that is not blank, each side of a text is trimmed by itself. -/
theorem trim_append_cons (h : isBlank c = false) :
    trim (s ++ c :: t) = trimStart s ++ c :: trimEnd t := by
  rw [trim, trimStart_append_cons h, trimEnd_append_cons h]

theorem mem_of_mem_trimStart (h : c ∈ trimStart t) : c ∈ t :=
  (List.dropWhile_sublist _).subset h

/-- Trimming adds no characters. -/
theorem mem_of_mem_trimEnd (h : c ∈ trimEnd t) : c ∈ t := by
  induction t with
  | nil => exact h
  | cons d t ih =>
      rw [trimEnd_cons] at h
      split at h
      next => cases h
      next =>
        rcases List.mem_cons.mp h with rfl | h
        · exact List.mem_cons_self
        · exact List.mem_cons_of_mem _ (ih h)

theorem mem_of_mem_trim (h : c ∈ trim t) : c ∈ t :=
  mem_of_mem_trimStart (mem_of_mem_trimEnd h)

/-- A text is split at the first of its marks. -/
theorem splitFirst_append_cons (h : mark ∉ s) : splitFirst mark (s ++ mark :: t) = some (s, t) := by
  induction s with
  | nil => simp [splitFirst]
  | cons d s ih =>
      obtain ⟨hd, hs⟩ : mark ≠ d ∧ mark ∉ s := by simpa using h
      simp [splitFirst, ih hs, Ne.symm hd]

/-- A text cannot be split exactly where it lacks the mark. -/
theorem splitFirst_eq_none_iff : splitFirst mark t = none ↔ mark ∉ t := by
  induction t with
  | nil => simp [splitFirst]
  | cons d t ih =>
      by_cases hd : d = mark
      · simp [splitFirst, hd]
      · simp [splitFirst, hd, ih, Ne.symm hd]

/-- The halves of a split, put together around the mark, are the text. -/
theorem eq_append_of_splitFirst (h : splitFirst mark t = some (s, u)) :
    t = s ++ mark :: u ∧ mark ∉ s := by
  induction t generalizing s with
  | nil => simp [splitFirst] at h
  | cons d t ih =>
      by_cases hd : d = mark
      · obtain ⟨rfl, rfl⟩ : [] = s ∧ t = u := by simpa [splitFirst, hd] using h
        simp [hd]
      · obtain ⟨a, b, hSplit, rfl, rfl⟩ : ∃ a b, splitFirst mark t = some (a, b) ∧
            d :: a = s ∧ b = u := by
          simpa [splitFirst, hd] using h
        obtain ⟨rfl, ha⟩ := ih hSplit
        simp [ha, Ne.symm hd]

/-- A text without the mark stays whole. -/
theorem splitAll_of_notMem (h : mark ∉ t) : splitAll mark t = [t] := by
  induction t with
  | nil => rfl
  | cons d t ih =>
      obtain ⟨hd, ht⟩ : mark ≠ d ∧ mark ∉ t := by simpa using h
      rw [splitAll, if_neg (Ne.symm hd), ih ht]

/-- The first piece reaches up to the first mark. -/
theorem splitAll_append_cons (h : mark ∉ s) :
    splitAll mark (s ++ mark :: t) = s :: splitAll mark t := by
  induction s with
  | nil => simp [splitAll]
  | cons d s ih =>
      obtain ⟨hd, hs⟩ : mark ≠ d ∧ mark ∉ s := by simpa using h
      rw [List.cons_append, splitAll, if_neg (Ne.symm hd), ih hs]

end Text

namespace Line

/-- A line is split as it stands: trimming the whole of it first changes neither half once the
halves are trimmed. -/
theorem pair_read (t : Text) : (read t).pair = (Text.splitFirst '=' t).map fun (key, value) =>
    (Text.trim key, Text.trim value) := by
  have hMark : Text.isBlank '=' = false := by decide
  cases h : Text.splitFirst '=' t with
  | none =>
      have hNone : '=' ∉ Text.trim t :=
        fun hMem => Text.splitFirst_eq_none_iff.mp h (Text.mem_of_mem_trim hMem)
      simp [read, Text.splitFirst_eq_none_iff.mpr hNone]
  | some halves =>
      obtain ⟨key, value⟩ := halves
      obtain ⟨rfl, hKey⟩ := Text.eq_append_of_splitFirst h
      have hStart : '=' ∉ Text.trimStart key := fun hMem => hKey (Text.mem_of_mem_trimStart hMem)
      simp [read, Text.trim_append_cons hMark, Text.splitFirst_append_cons hStart,
        Text.trim_trimStart, Text.trim_trimEnd]

/-- A written line has its key when that is trimmed and has no equals sign, whatever the value. -/
theorem pair_read_written {key value : Text} (hEquals : '=' ∉ key) (hKey : Text.trim key = key) :
    (read (written key value)).pair = some (key, Text.trim value) := by
  have hBlank : Text.isBlank ' ' = true := by decide
  have hText : written key value = (key ++ [' ']) ++ '=' :: ' ' :: value := by
    simp [written]
  have hSplit : Text.splitFirst '=' (written key value) = some (key ++ [' '], ' ' :: value) := by
    rw [hText]
    exact Text.splitFirst_append_cons (by simpa using hEquals)
  rw [pair_read, hSplit]
  simp [Text.trim_concat_blank hBlank, Text.trim_cons_blank hBlank, hKey]

/-- A written pair reads back when both texts are trimmed and the key has no equals sign. -/
theorem read_written {key value : Text} (hEquals : '=' ∉ key) (hKey : Text.trim key = key)
    (hValue : Text.trim value = value) : read (written key value) = ofPair key value := by
  have hPair : (read (written key value)).pair = some (key, Text.trim value) :=
    pair_read_written hEquals hKey
  rw [hValue] at hPair
  simp only [ofPair, ← hPair]
  rfl

end Line
end Rubric
