import Mathlib.Data.List.Infix
import Rubric.Pattern.Reader
import Rubric.Proofs.Pattern.Search

/-! Patterns that are words. Apart from the caret and the dollar sign, a character without a meaning
of its own stands for itself, so a word is found where it occurs, and one that is bound to the start
or the end of a text is found there alone. -/
namespace Rubric.Pattern

/-- The characters that shape a pattern. -/
def reserved : Text :=
  "\\.+*?()|[]\x7b\x7d".toList

/-- The characters that do not stand for themselves in a pattern. -/
def special : Text :=
  reserved ++ ['^', '$']

/-- What a character stands for that shapes nothing, where no flag is set. -/
def meaning : Char → Expr
  | '^' => .look .textStart
  | '$' => .look .textEnd
  | c => .text [c]

/-- A word with the signs that bind it to the start and to the end of a text. -/
def bound (atStart atEnd : Bool) (word : Text) : Text :=
  (if atStart then ['^'] else []) ++ word ++ if atEnd then ['$'] else []

variable {c : Char} {t word pattern : Text} {r : Reader}

/-- A character without a special meaning stands for itself. -/
theorem meaning_of_notMem (h : c ∉ special) : meaning c = .text [c] := by
  rw [meaning.eq_def]
  split
  next => exact absurd (by decide) h
  next => exact absurd (by decide) h
  next => rfl

theorem Flags.initial_fold (s : CharSet) : Flags.initial.fold s = s :=
  rfl

theorem skip_initial (t : Text) : skip .initial t = t :=
  rfl

namespace Expr

theorem ofSet_single (c : Char) : ofSet (.single c) = .text [c] := by
  simp [ofSet, CharSet.single]

theorem row_singleton (e : Expr) : row [e] = e := by
  cases e <;> rfl

end Expr

/-- The items of a frame are held last one first and make a row in their written order. -/
theorem Frame.sequence_expr (frame : Frame) :
    frame.sequence.expr = .row (frame.items.reverse.map (·.expr)) := by
  rw [Frame.sequence.eq_def]
  split
  next hNone =>
    rw [hNone]
    rfl
  next item hOne =>
    rw [hOne]
    exact (Expr.row_singleton _).symm
  next => rfl

theorem Frame.sequence_depth_le (frame : Frame) :
    frame.sequence.depth ≤ deepest frame.items + 1 := by
  rw [Frame.sequence.eq_def]
  split
  next => exact Nat.zero_le _
  next item hOne =>
    rw [hOne]
    simp [deepest]
  next => exact Nat.le_refl _

theorem deepest_eq_zero {items : List Item} (h : ∀ item ∈ items, item.depth = 0) :
    deepest items = 0 := by
  induction items with
  | nil => rfl
  | cons item items ih =>
      rw [List.forall_mem_cons] at h
      rw [deepest, List.foldl_cons, h.1]
      exact ih h.2

namespace Reader

def addAll (r : Reader) (parts : List Expr) : Reader :=
  parts.foldl addExpr r

theorem addAll_eq (r : Reader) (parts : List Expr) : r.addAll parts =
    { r with frame := { r.frame with
      items := (parts.map fun e => ⟨e, 0, true⟩).reverse ++ r.frame.items } } := by
  induction parts generalizing r with
  | nil => rfl
  | cons e parts ih =>
      rw [addAll, List.foldl_cons, ← addAll, ih]
      simp [addExpr, add, Frame.add]

/-- A character that is not reserved adds its meaning to the row that is being read. -/
theorem step_of_notMem (hFlags : r.flags = .initial) (h : c ∉ reserved) (rest : Text) :
    r.step c rest = some (r.addExpr (meaning c), rest) := by
  rw [step.eq_def]
  split
  iterate 10 next => exact absurd (by decide) h
  next =>
    rw [hFlags]
    rfl
  next =>
    rw [hFlags]
    rfl
  next hCaret hDollar =>
    have hPlain : c ∉ special := by
      simp only [special, List.mem_append, List.mem_pair, not_or]
      exact ⟨h, hCaret, hDollar⟩
    rw [hFlags, Atom.expr?, Atom.char?, Option.map_some, Option.map_some, Flags.initial_fold,
      Expr.ofSet_single, meaning_of_notMem hPlain]

/-- So a pattern without reserved characters is read one meaning after the other. -/
theorem run_of_notMem (hFlags : r.flags = .initial) (h : ∀ c ∈ pattern, c ∉ reserved) :
    r.run pattern.length pattern = some (r.addAll (pattern.map meaning)) := by
  induction pattern generalizing r with
  | nil =>
      rw [List.length_nil, run, hFlags, skip_initial]
      rfl
  | cons c pattern ih =>
      rw [List.forall_mem_cons] at h
      rw [List.length_cons, run, hFlags, skip_initial]
      simp only [step_of_notMem hFlags h.1, Option.bind_eq_bind, Option.bind_some]
      exact ih hFlags h.2

end Reader

/-- A reading that ends outside of all groups gives the row of its items. -/
theorem read?_of_run (hRun : Reader.initial.run pattern.length pattern = some r)
    (hParents : r.parents = []) (hBranches : r.frame.branches = [])
    (hDepth : deepest r.frame.items < depthLimit) :
    read? pattern = some (.row (r.frame.items.reverse.map (·.expr))) := by
  have hWhole : r.frame.alternatives = r.frame.sequence := by
    rw [Frame.alternatives.eq_def, hBranches]
  have hLimit : r.frame.sequence.depth ≤ depthLimit :=
    (Frame.sequence_depth_le _).trans hDepth
  simp [read?, hRun, hParents, hWhole, hLimit, Frame.sequence_expr]

theorem read?_of_notMem (h : ∀ c ∈ pattern, c ∉ reserved) :
    read? pattern = some (.row (pattern.map meaning)) := by
  have hRun := Reader.run_of_notMem (r := .initial) rfl h
  rw [Reader.addAll_eq] at hRun
  rw [read?_of_run hRun rfl rfl]
  · simp [Reader.initial, Function.comp_def]
  · rw [deepest_eq_zero]
    · decide
    · simp [Reader.initial]

namespace Expr

variable {i j : Nat} {parts : List Expr}

/-- The meanings of a word span an occurrence of the word and nothing else. -/
theorem spans_row_word_iff (h : ∀ c ∈ word, c ∉ special) :
    (row (word.map meaning ++ parts)).Spans t i j ↔
      word <+: t.drop i ∧ (row parts).Spans t (i + word.length) j := by
  have hSpans : (row (word.map meaning ++ parts)).Spans t i j ↔
      ∃ k, (text word).Spans t i k ∧ (row parts).Spans t k j := by
    induction word generalizing i with
    | nil =>
        constructor
        · intro hRest
          exact ⟨i, ⟨List.nil_prefix, rfl⟩, hRest⟩
        · rintro ⟨_, ⟨-, rfl⟩, hRest⟩
          exact hRest
    | cons c word ih =>
        rw [List.forall_mem_cons] at h
        rw [List.map_cons, List.cons_append, spans_row_cons_iff, meaning_of_notMem h.1]
        constructor
        · rintro ⟨k, hFirst, hRest⟩
          obtain ⟨l, hWord, hLast⟩ := (ih h.2).mp hRest
          exact ⟨l, spans_text_append_iff.mpr ⟨k, hFirst, hWord⟩, hLast⟩
        · rintro ⟨l, hText, hLast⟩
          obtain ⟨k, hFirst, hWord⟩ := (spans_text_append_iff (s := [c])).mp hText
          exact ⟨k, hFirst, (ih h.2).mpr ⟨l, hWord, hLast⟩⟩
  rw [hSpans]
  constructor
  · rintro ⟨_, ⟨hPrefix, rfl⟩, hRest⟩
    exact ⟨hPrefix, hRest⟩
  · rintro ⟨hPrefix, hRest⟩
    exact ⟨_, ⟨hPrefix, rfl⟩, hRest⟩

/-- With the marks for the start and the end the occurrence must lie there. -/
theorem spans_row_bound_iff (h : ∀ c ∈ word, c ∉ special) (atStart atEnd : Bool) :
    (row ((bound atStart atEnd word).map meaning)).Spans t i j ↔
      (atStart = true → t.take i = []) ∧ word <+: t.drop i ∧
        (atEnd = true → t.drop (i + word.length) = []) ∧ i + word.length = j := by
  have hEnd : ∀ k, (row ((if atEnd then ['$'] else []).map meaning)).Spans t k j ↔
      (atEnd = true → t.drop k = []) ∧ k = j := by
    intro k
    cases atEnd with
    | false => simp [row, Spans]
    | true => simp [row, followedBy, meaning, Spans, Look.holds]
  rw [← hEnd, ← spans_row_word_iff h, ← List.map_append, bound, List.append_assoc]
  cases atStart with
  | false => simp
  | true =>
      rw [if_pos rfl, List.singleton_append, List.map_cons, spans_row_cons_iff]
      simp [meaning, Spans, Look.holds]

/-- A word is found where it stands in a text, if the ends that it is bound to are there as well. -/
theorem found_bound_iff (h : ∀ c ∈ word, c ∉ special) (atStart atEnd : Bool) :
    (row ((bound atStart atEnd word).map meaning)).found t = true ↔
      ∃ before after, before ++ word ++ after = t ∧ (atStart = true → before = []) ∧
        (atEnd = true → after = []) := by
  simp only [found_iff, spans_row_bound_iff h]
  constructor
  · rintro ⟨i, j, hPlace, hBefore, ⟨after, hText⟩, hAfter, -⟩
    refine ⟨t.take i, after, ?_, hBefore, fun hTrue => ?_⟩
    · rw [List.append_assoc, hText, List.take_append_drop]
    · rw [← hAfter hTrue, ← List.drop_drop, ← hText, List.drop_left]
  · rintro ⟨before, after, rfl, hBefore, hAfter⟩
    refine ⟨before.length, _, ?_, fun hTrue => ?_, ⟨after, ?_⟩, fun hTrue => ?_, rfl⟩
    · rw [List.append_assoc, List.length_append]
      exact Nat.le_add_right _ _
    · rw [List.append_assoc, List.take_left, hBefore hTrue]
    · rw [List.append_assoc, List.drop_left]
    · rw [← List.length_append, List.drop_left, hAfter hTrue]

end Expr

/-- The marks around a word are not reserved either: they mean something but open nothing. -/
theorem notMem_reserved_of_mem_bound (h : ∀ c ∈ word, c ∉ special) {atStart atEnd : Bool} :
    ∀ c ∈ bound atStart atEnd word, c ∉ reserved := by
  intro c hc hReserved
  simp only [bound, List.mem_append] at hc
  rcases hc with (hc | hc) | hc
  · cases atStart with
    | false => cases hc
    | true => exact absurd hReserved (List.mem_singleton.mp hc ▸ by decide)
  · exact h c hc (List.mem_append_left _ hReserved)
  · cases atEnd with
    | false => cases hc
    | true => exact absurd hReserved (List.mem_singleton.mp hc ▸ by decide)

/-- A word with its marks compiles to the row of its meanings. -/
theorem eq_of_compile?_bound {e : Expr} (h : ∀ c ∈ word, c ∉ special) {atStart atEnd : Bool}
    (hCompiles : compile? (bound atStart atEnd word) = some e) :
    e = .row ((bound atStart atEnd word).map meaning) := by
  have hRead := (Option.filter_eq_some_iff.mp hCompiles).1
  rw [read?_of_notMem (notMem_reserved_of_mem_bound h)] at hRead
  exact (Option.some.inj hRead).symm

end Rubric.Pattern
