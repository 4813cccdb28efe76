import Mathlib.Data.List.Induction
import Rubric.Edit

/-! Writing keys into a section. A write goes to the first line of its key or to a new line at the
end, and it always succeeds. It moves no first line of another key, so the effect of many writes
can be read off the latest one for each key. -/
namespace Rubric

/-- Lines after a write under a key, with the place of the write found on the way. -/
def Line.put (key value : Text) : List Line → List Line
  | [] => [ofPair key value]
  | line :: rest =>
    if line.key = some key then ofPair key value :: rest else line :: put key value rest

@[simp] theorem Line.key_ofPair (key value : Text) : (ofPair key value).key = some key := rfl

@[simp] theorem Line.value_ofPair (key value : Text) : (ofPair key value).value = some value := rfl

namespace Section

/-- The first line that carries exactly this key. -/
def first? (s : Section) (key : Text) : Option Line :=
  s.lines.find? (·.key == some key)

def value? (s : Section) (key : Text) : Option Text :=
  (s.first? key).bind Line.value

/-- A section after a write under a key. -/
def put (s : Section) (key value : Text) : Section :=
  { s with lines := Line.put key value s.lines }

variable {s : Section} {key other value : Text} {i : Nat}

@[simp] theorem put_name : (s.put key value).name = s.name := rfl

@[simp] theorem put_header : (s.put key value).header = s.header := rfl

/-- The first line of a key stands at its position. -/
theorem first?_eq_bind_position? : s.first? key = (s.position? key).bind (s.lines[·]?) :=
  List.find?_eq_bind_findIdx?_getElem?

theorem position?_eq_none_iff :
    s.position? key = none ↔ ∀ line ∈ s.lines, line.key ≠ some key := by
  simp [position?, List.findIdx?_eq_none_iff]

/-- A line that was found by its key carries a pair with that key. -/
theorem pair_of_position? (h : s.position? key = some i) :
    ∃ line old, s.lines[i]? = some line ∧ line.pair = some (key, old) := by
  obtain ⟨hi, hKey, -⟩ := List.findIdx?_eq_some_iff_getElem.mp h
  have hPair : s.lines[i].pair.map Prod.fst = some key := by simpa [Line.key] using hKey
  obtain ⟨⟨found, old⟩, hFound, rfl⟩ := Option.map_eq_some_iff.mp hPair
  exact ⟨s.lines[i], old, List.getElem?_eq_getElem hi, hFound⟩

theorem position?_inj (h : s.position? key = some i) (hOther : s.position? other = some i) :
    key = other := by
  obtain ⟨line, old, hLine, hPair⟩ := pair_of_position? h
  obtain ⟨line', old', hLine', hPair'⟩ := pair_of_position? hOther
  obtain rfl : line = line' := by simpa [hLine] using hLine'
  simp_all

/-- Writing a key that is there replaces its first line. -/
theorem lines_put_of_position?_eq_some (h : s.position? key = some i) :
    (s.put key value).lines = s.lines.set i (.ofPair key value) := by
  simp only [position?, put] at h ⊢
  generalize s.lines = lines at h ⊢
  induction lines generalizing i with
  | nil => simp at h
  | cons line rest ih =>
      by_cases hKey : line.key = some key
      · obtain rfl : 0 = i := by simpa [List.findIdx?_cons, hKey] using h
        simp [Line.put, hKey]
      · obtain ⟨j, hj, rfl⟩ : ∃ j, rest.findIdx? (·.key == some key) = some j ∧ j + 1 = i := by
          simpa [List.findIdx?_cons, hKey] using h
        simp [Line.put, hKey, ih hj]

/-- Writing a key that is missing appends a line. -/
theorem lines_put_of_position?_eq_none (h : s.position? key = none) :
    (s.put key value).lines = s.lines ++ [.ofPair key value] := by
  simp only [position?, put] at h ⊢
  generalize s.lines = lines at h ⊢
  induction lines with
  | nil => rfl
  | cons line rest ih =>
      obtain ⟨hKey, hRest⟩ : line.key ≠ some key ∧
          rest.findIdx? (·.key == some key) = none := by
        simpa [List.findIdx?_eq_none_iff] using h
      simp [Line.put, hKey, ih hRest]

/-- Every write succeeds: the line it finds carries the key, so it has a value to replace. -/
theorem write_eq_ok (s : Section) (key value : Text) :
    s.write key value = .ok (s.put key value, s.value? key) := by
  rw [value?, first?_eq_bind_position?]
  unfold write
  split
  next h =>
    have hLines : (s.put key value).lines = s.lines ++ [.ofPair key value] :=
      lines_put_of_position?_eq_none h
    simp only [h, append, push, put] at hLines ⊢
    rw [hLines]
    rfl
  next i h =>
    have hLines : (s.put key value).lines = s.lines.set i (.ofPair key value) :=
      lines_put_of_position?_eq_some h
    obtain ⟨line, old, hLine, hPair⟩ := pair_of_position? h
    obtain ⟨hi, rfl⟩ := List.getElem?_eq_some_iff.mp hLine
    simp only [put] at hLines ⊢
    simp [h, hLine, Line.setValue, hPair, hLines, Except.map]

theorem value?_eq_none_iff :
    s.value? key = none ↔ ∀ line ∈ s.lines, line.key ≠ some key := by
  rw [← position?_eq_none_iff, value?, first?_eq_bind_position?]
  cases h : s.position? key with
  | none => simp
  | some i =>
      obtain ⟨line, old, hLine, hPair⟩ := pair_of_position? h
      simp [hLine, Line.value, hPair]

theorem first?_put_self : (s.put key value).first? key = some (.ofPair key value) := by
  simp only [first?, put]
  induction s.lines with
  | nil => simp [Line.put]
  | cons line rest ih =>
      by_cases hKey : line.key = some key
      · simp [Line.put, hKey]
      · simp [Line.put, hKey, ih]

/-- A write moves no first line of another key: the line it replaces keeps its key, and a line it
adds stands behind all others. -/
theorem position?_put_of_ne (h : other ≠ key) :
    (s.put key value).position? other = s.position? other := by
  simp only [position?, put]
  induction s.lines with
  | nil => simp [Line.put, h.symm]
  | cons line rest ih =>
      by_cases hKey : line.key = some key
      · simp [Line.put, hKey, List.findIdx?_cons, h.symm]
      · simp [Line.put, hKey, List.findIdx?_cons, ih]

theorem first?_put_of_ne (h : other ≠ key) : (s.put key value).first? other = s.first? other := by
  simp only [first?, put]
  induction s.lines with
  | nil => simp [Line.put, h.symm]
  | cons line rest ih =>
      by_cases hKey : line.key = some key
      · simp [Line.put, hKey, h.symm]
      · simp [Line.put, hKey, List.find?_cons, ih]

/-- A write brings in no line but its own. -/
theorem eq_or_mem_of_mem_lines_put {line : Line} (h : line ∈ (s.put key value).lines) :
    line = .ofPair key value ∨ line ∈ s.lines := by
  simp only [put] at h
  generalize s.lines = lines at h ⊢
  induction lines with
  | nil => simpa [Line.put] using h
  | cons first rest ih =>
      rw [Line.put] at h
      split at h
      next => exact (List.mem_cons.mp h).imp_right (List.mem_cons_of_mem _)
      next =>
        rcases List.mem_cons.mp h with rfl | hRest
        · exact .inr List.mem_cons_self
        · exact (ih hRest).imp_right (List.mem_cons_of_mem _)

theorem length_lines_le_put : s.lines.length ≤ (s.put key value).lines.length := by
  cases h : s.position? key with
  | none => simp [lines_put_of_position?_eq_none h]
  | some i => simp [lines_put_of_position?_eq_some h]

/-- Within the old lines a write changes the first line of its key and no other. -/
theorem getElem?_lines_put (hi : i < s.lines.length) :
    (s.put key value).lines[i]? =
      if s.position? key = some i then some (.ofPair key value) else s.lines[i]? := by
  cases h : s.position? key with
  | none => simp [lines_put_of_position?_eq_none h, List.getElem?_append_left hi]
  | some j =>
      rw [lines_put_of_position?_eq_some h, List.getElem?_set]
      by_cases hj : j = i
      · subst hj
        simp [hi]
      · simp [hj]

end Section

namespace Modification

/-- The line that the write behind an entry leaves. -/
def line (m : Modification) : Line where
  text := m.key ++ " = ".toList ++ m.value
  pair := some (m.key, m.value)

/-- The last entry of a log under a key. -/
def latest? (log : List Modification) (key : Text) : Option Modification :=
  log.reverse.find? (·.key == key)

theorem ofPair_eq_line (m : Modification) : Line.ofPair m.key m.value = m.line := rfl

theorem latest?_append (first second : List Modification) (key : Text) :
    latest? (first ++ second) key = (latest? second key).or (latest? first key) := by
  simp [latest?]

theorem latest?_eq_none_iff {log : List Modification} {key : Text} :
    latest? log key = none ↔ ∀ m ∈ log, m.key ≠ key := by
  simp [latest?]

/-- Keys stay distinct as long as each entry takes a new one. -/
theorem nodup_keys_concat_iff {log : List Modification} {m : Modification} :
    ((log ++ [m]).map (·.key)).Nodup ↔
      (log.map (·.key)).Nodup ∧ ∀ prior ∈ log, prior.key ≠ m.key := by
  simp [List.nodup_append]

/-- Where the keys are distinct, every entry is the latest of its key. -/
theorem latest?_eq_of_mem {log : List Modification} {m : Modification}
    (hDistinct : (log.map (·.key)).Nodup) (hm : m ∈ log) : latest? log m.key = some m := by
  induction log using List.reverseRecOn with
  | nil => cases hm
  | append_singleton log last ih =>
      obtain ⟨hLog, hFresh⟩ := nodup_keys_concat_iff.mp hDistinct
      rw [latest?_append]
      rcases List.mem_append.mp hm with hm | hm
      · have hOther : latest? [last] m.key = none := by
          simpa [latest?_eq_none_iff] using (hFresh m hm).symm
        rw [hOther, ih hLog hm]
        rfl
      · obtain rfl := List.mem_singleton.mp hm
        simp [latest?]

end Modification

namespace Section

/-- A section after the writes of a log, in the order of the log. -/
def after (s : Section) (log : List Modification) : Section :=
  log.foldl (fun s m => s.put m.key m.value) s

variable {s : Section} {log first second : List Modification} {m : Modification} {key : Text}

@[simp] theorem after_nil : s.after [] = s := rfl

@[simp] theorem after_append : s.after (first ++ second) = (s.after first).after second :=
  List.foldl_append

@[simp] theorem after_singleton : s.after [m] = s.put m.key m.value := rfl

@[simp] theorem after_name : (s.after log).name = s.name := by
  induction log using List.reverseRecOn with
  | nil => rfl
  | append_singleton log m ih => simp [ih]

@[simp] theorem after_header : (s.after log).header = s.header := by
  induction log using List.reverseRecOn with
  | nil => rfl
  | append_singleton log m ih => simp [ih]

@[simp] theorem isPreamble_after : (s.after log).isPreamble = s.isPreamble := by
  simp [isPreamble]

/-- The lines behind writes are old ones and lines that the writes leave. -/
theorem mem_lines_or_of_mem_after {line : Line} (h : line ∈ (s.after log).lines) :
    line ∈ s.lines ∨ ∃ m ∈ log, line = m.line := by
  induction log using List.reverseRecOn with
  | nil => exact .inl h
  | append_singleton log m ih =>
      rw [after_append, after_singleton] at h
      rcases eq_or_mem_of_mem_lines_put h with rfl | hBefore
      · exact .inr ⟨m, by simp, m.ofPair_eq_line⟩
      · rcases ih hBefore with hOld | ⟨prior, hPrior, rfl⟩
        · exact .inl hOld
        · exact .inr ⟨prior, List.mem_append_left _ hPrior, rfl⟩

/-- The first line of a key is the line of the latest write to it, or the old one. -/
theorem first?_after :
    (s.after log).first? key = ((Modification.latest? log key).map Modification.line).or
      (s.first? key) := by
  induction log using List.reverseRecOn with
  | nil => rfl
  | append_singleton log m ih =>
      rw [after_append, Modification.latest?_append, after_singleton]
      by_cases hKey : m.key = key
      · subst hKey
        simp [first?_put_self, Modification.latest?, Modification.ofPair_eq_line]
      · simp [first?_put_of_ne (Ne.symm hKey), ih, Modification.latest?, hKey]

/-- Where the keys are distinct, each entry's line is what stands there in the end. -/
theorem first?_after_of_mem (hDistinct : (log.map (·.key)).Nodup) (hm : m ∈ log) :
    (s.after log).first? m.key = some (.ofPair m.key m.value) := by
  rw [first?_after, Modification.latest?_eq_of_mem hDistinct hm]
  rfl

/-- The value of a key is the one last written, or else the one from before. -/
theorem value?_after :
    (s.after log).value? key = ((Modification.latest? log key).map Modification.value).or
      (s.value? key) := by
  rw [value?, first?_after]
  cases Modification.latest? log key <;> rfl

theorem length_lines_le_after : s.lines.length ≤ (s.after log).lines.length := by
  induction log using List.reverseRecOn with
  | nil => exact Nat.le_refl _
  | append_singleton log m ih =>
      rw [after_append, after_singleton]
      exact Nat.le_trans ih length_lines_le_put

theorem lines_after_ne_nil (h : s.lines ≠ []) : (s.after log).lines ≠ [] := by
  have hLength : s.lines.length ≤ (s.after log).lines.length := length_lines_le_after
  intro hNil
  rw [hNil, List.length_nil, Nat.le_zero, List.length_eq_zero_iff] at hLength
  exact h hLength

/-- Keys that the log lacks keep their first lines. -/
theorem first?_after_of_forall_ne (h : ∀ m ∈ log, m.key ≠ key) :
    (s.after log).first? key = s.first? key := by
  rw [first?_after, Modification.latest?_eq_none_iff.mpr h]
  rfl

theorem value?_after_of_forall_ne (h : ∀ m ∈ log, m.key ≠ key) :
    (s.after log).value? key = s.value? key := by
  rw [value?, value?, first?_after_of_forall_ne h]

/-- A key that the log lacks keeps its position. -/
theorem position?_after_of_forall_ne (h : ∀ m ∈ log, m.key ≠ key) :
    (s.after log).position? key = s.position? key := by
  induction log using List.reverseRecOn with
  | nil => rfl
  | append_singleton log m ih =>
      simp only [List.mem_append, List.mem_singleton, or_imp, forall_and, forall_eq] at h
      rw [after_append, after_singleton, position?_put_of_ne h.2.symm, ih h.1]

end Section
end Rubric
