import Rubric.Proofs.Document.Layout
import Rubric.Proofs.Document.Line
import Rubric.Proofs.Edit.Failure

/-! Documents through all of their history. Whatever is done to a document, the text and the pair of
each of its lines agree, and a line that is there keeps its key until the document is printed and
read again. Both come from one account of what a change does to lines. -/
namespace Rubric

/-- What can be done to a document by whoever holds it. A section stands at an index in the
document, and a line at an index in its section. -/
inductive Change where
  /-- Adds a section without lines, a preamble if it has that name and no header. -/
  | addSection (name header : Text)
  /-- Replaces the value of a line. -/
  | setValue (i j : Nat) (value : Text)
  /-- Adds a line for a key and a value to a section. -/
  | append (i : Nat) (key value : Text)
  /-- Adds a line that is read from a text to a section. -/
  | pushLine (i : Nat) (text : Text)
  /-- Gives another name and another header to a section. -/
  | rename (i : Nat) (name header : Text)
  /-- Takes away the lines of a section. -/
  | clear (i : Nat)
  /-- Applies rules. -/
  | apply (rules : List Rule)
  /-- Prints the document and reads it again. -/
  | reread
deriving DecidableEq, Repr

namespace Document

def line? (document : Document) (i j : Nat) : Option Line :=
  document[i]?.bind fun s => s.lines[j]?

/-- A document after a change, with the reason if the change has failed. Nothing happens to sections
and lines that are not there. -/
def change (document : Document) : Change → Document × Option Error
  | .addSection name header => (document ++ [.empty name header], none)
  | .setValue i j value =>
    match document.line? i j with
    | none => (document, none)
    | some line =>
      match line.setValue value with
      | .error e => (document, some e)
      | .ok fresh => (document.modify i fun s => { s with lines := s.lines.set j fresh }, none)
  | .append i key value => (document.modify i (·.append key value), none)
  | .pushLine i text => (document.modify i (·.push (.read text)), none)
  | .rename i name header =>
    (document.modify i fun s => { s with name := name, header := header }, none)
  | .clear i => (document.modify i fun s => { s with lines := [] }, none)
  | .apply rules =>
    let edited := document.apply rules
    match edited.result with
    | .error e => (edited.document, some e)
    | .ok _ => (edited.document, none)
  | .reread => (read document.print, none)

/-- A document that was read from some text and changed any number of times since. Changes that have
failed count too. -/
inductive Reached : Document → Prop where
  | read (text : Text) : Reached (read text)
  | change {document : Document} (prior : Reached document) (last : Change) :
      Reached (document.change last).1

/-- The text and the pair of every line agree. -/
def Coherent (document : Document) : Prop :=
  ∀ s ∈ document, ∀ line ∈ s.lines, line.Coherent

end Document

namespace Line

/-- Lines that have grown from old ones. The old lines are in their places with their keys, and a
line that is not an old one has just been read or written. -/
structure Grown (old new : List Line) : Prop where
  kept : ∀ (j : Nat) (line : Line), old[j]? = some line →
    ∃ fresh : Line, new[j]? = some fresh ∧ fresh.key = line.key
  made : ∀ line ∈ new, line ∈ old ∨ (∃ text, line = read text) ∨
    ∃ key value, line = ofPair key value

variable {old new last : List Line} {line : Line} {key : Text} {j : Nat}

theorem grown_refl (lines : List Line) : Grown lines lines where
  kept _ line hLine := ⟨line, hLine, rfl⟩
  made _ hLine := .inl hLine

theorem Grown.trans (h : Grown old new) (hLast : Grown new last) : Grown old last where
  kept j line hLine := by
    obtain ⟨middle, hMiddle, hKey⟩ := h.kept j line hLine
    obtain ⟨fresh, hFresh, hSame⟩ := hLast.kept j middle hMiddle
    exact ⟨fresh, hFresh, hSame.trans hKey⟩
  made line hLine := by
    rcases hLast.made line hLine with hMiddle | hMade
    · exact h.made line hMiddle
    · exact .inr hMade

/-- A line at the end is growth if it was read or made of a pair. -/
theorem grown_concat
    (hMade : (∃ text, line = read text) ∨ ∃ key value, line = ofPair key value) :
    Grown old (old ++ [line]) where
  kept j kept hKept :=
    ⟨kept, (List.getElem?_append_left (List.getElem?_eq_some_iff.mp hKept).1).trans hKept, rfl⟩
  made other hOther := by
    rcases List.mem_append.mp hOther with hOld | hNew
    · exact .inl hOld
    · obtain rfl := List.mem_singleton.mp hNew
      exact .inr hMade

/-- A line with a key may get any value. -/
theorem grown_set (hLine : old[j]? = some line) (hKey : line.key = some key) (value : Text) :
    Grown old (old.set j (ofPair key value)) where
  kept k kept hKept := by
    rw [List.getElem?_set]
    split
    next hSame =>
      subst hSame
      obtain rfl : line = kept := Option.some.inj (hLine.symm.trans hKept)
      have hj := (List.getElem?_eq_some_iff.mp hLine).1
      exact ⟨ofPair key value, if_pos hj, hKey.symm⟩
    next => exact ⟨kept, hKept, rfl⟩
  made other hOther := by
    rcases List.mem_or_eq_of_mem_set hOther with hOld | rfl
    · exact .inl hOld
    · exact .inr (.inr ⟨key, value, rfl⟩)

/-- Growth brings in coherent lines only. -/
theorem Grown.coherent (h : Grown old new) (hOld : ∀ line ∈ old, line.Coherent) :
    ∀ line ∈ new, line.Coherent := by
  intro line hLine
  rcases h.made line hLine with hKept | ⟨text, rfl⟩ | ⟨key, value, rfl⟩
  · exact hOld line hKept
  · exact coherent_read text
  · exact coherent_ofPair key value

end Line

namespace Section

/-- Rules write to the first line of a key or to a new line, so lines only grow by it. -/
theorem grown_put (s : Section) (key value : Text) :
    Line.Grown s.lines (s.put key value).lines := by
  cases h : s.position? key with
  | none =>
      rw [lines_put_of_position?_eq_none h]
      exact Line.grown_concat (.inr ⟨key, value, rfl⟩)
  | some i =>
      obtain ⟨line, old, hLine, hPair⟩ := pair_of_position? h
      rw [lines_put_of_position?_eq_some h]
      exact Line.grown_set hLine (by rw [Line.key, hPair]; rfl) value

theorem grown_after (s : Section) (log : List Modification) :
    Line.Grown s.lines (s.after log).lines := by
  induction log using List.reverseRecOn with
  | nil => exact Line.grown_refl s.lines
  | append_singleton log m ih =>
      rw [after_append, after_singleton]
      exact ih.trans (grown_put _ m.key m.value)

end Section

namespace Document

/-- A document that has grown from another. The sections of that one are in their places and their
lines have grown, and further sections are without lines. -/
structure Grown (old new : Document) : Prop where
  kept : ∀ (i : Nat) (s : Section), old[i]? = some s →
    ∃ t : Section, new[i]? = some t ∧ Line.Grown s.lines t.lines
  added : ∀ t ∈ new, t.lines = [] ∨ ∃ s ∈ old, Line.Grown s.lines t.lines

variable {document old new : Document} {s : Section} {line : Line} {i j : Nat}

theorem line?_eq_some_iff :
    document.line? i j = some line ↔ ∃ s, document[i]? = some s ∧ s.lines[j]? = some line :=
  Option.bind_eq_some_iff

theorem coherent_iff :
    document.Coherent ↔ ∀ i j line, document.line? i j = some line → line.Coherent := by
  constructor
  · intro h i j line hLine
    obtain ⟨s, hs, hFound⟩ := line?_eq_some_iff.mp hLine
    exact h s (List.mem_of_getElem? hs) line (List.mem_of_getElem? hFound)
  · intro h s hs line hLine
    obtain ⟨i, hi⟩ := List.mem_iff_getElem?.mp hs
    obtain ⟨j, hj⟩ := List.mem_iff_getElem?.mp hLine
    exact h i j line (line?_eq_some_iff.mpr ⟨s, hi, hj⟩)

/-- As many sections as before with lines that have grown are all that is needed. -/
theorem grown_of_getElem? (hLength : new.length = old.length)
    (h : ∀ (i : Nat) (s : Section), old[i]? = some s →
      ∃ t : Section, new[i]? = some t ∧ Line.Grown s.lines t.lines) : Grown old new where
  kept := h
  added t ht := by
    obtain ⟨i, hi, rfl⟩ := List.mem_iff_getElem.mp ht
    have hOld : old[i]? = some old[i] := List.getElem?_eq_getElem (hLength ▸ hi)
    obtain ⟨u, hu, hGrown⟩ := h i _ hOld
    obtain rfl : new[i] = u := Option.some.inj ((List.getElem?_eq_getElem hi).symm.trans hu)
    exact .inr ⟨old[i], List.getElem_mem _, hGrown⟩

theorem grown_refl (document : Document) : Grown document document :=
  grown_of_getElem? rfl fun _ s hs => ⟨s, hs, Line.grown_refl s.lines⟩

/-- A document grows if each of its sections does. -/
theorem grown_map {f : Section → Section} (h : ∀ s ∈ document, Line.Grown s.lines (f s).lines) :
    Grown document (document.map f) := by
  refine grown_of_getElem? (by simp) fun i s hs => ⟨f s, ?_, h s (List.mem_of_getElem? hs)⟩
  rw [List.getElem?_map, hs]
  rfl

theorem grown_modify {f : Section → Section}
    (h : ∀ s, document[i]? = some s → Line.Grown s.lines (f s).lines) :
    Grown document (document.modify i f) := by
  refine grown_of_getElem? (by simp) fun k s hs => ?_
  rw [List.getElem?_modify, hs]
  by_cases hSame : i = k
  · subst hSame
    exact ⟨f s, by simp, h s hs⟩
  · exact ⟨s, by simp [hSame], Line.grown_refl s.lines⟩

theorem grown_concat (h : s.lines = []) : Grown document (document ++ [s]) where
  kept i t ht :=
    ⟨t, (List.getElem?_append_left (List.getElem?_eq_some_iff.mp ht).1).trans ht,
      Line.grown_refl t.lines⟩
  added t ht := by
    rcases List.mem_append.mp ht with hOld | hNew
    · exact .inr ⟨t, hOld, Line.grown_refl t.lines⟩
    · obtain rfl := List.mem_singleton.mp hNew
      exact .inl h

theorem grown_apply (document : Document) (rules : List Rule) :
    Grown document (document.apply rules).document := by
  rcases Rule.forall_compiles_or_exists_leads rules with hCompiles | ⟨r, hLeads⟩
  · rw [apply_document hCompiles]
    exact grown_map fun s _ => s.grown_after _
  · rw [apply_of_leads document hLeads]
    exact grown_refl document

section Change

variable {key old value : Text}

/-- Setting the value of a line with a key replaces the line. -/
theorem change_setValue_of_pair (hLine : document.line? i j = some line)
    (hPair : line.pair = some (key, old)) : document.change (.setValue i j value) =
      (document.modify i fun s => { s with lines := s.lines.set j (.ofPair key value) }, none) := by
  simp only [Document.change, hLine, Line.setValue_of_pair hPair]

/-- Setting the value of another line fails and changes nothing. -/
theorem change_setValue_of_key_eq_none (hLine : document.line? i j = some line)
    (hKey : line.key = none) : document.change (.setValue i j value) =
      (document, some (.lineWithoutKey line.text)) := by
  simp only [Document.change, hLine, Line.setValue_of_key_eq_none hKey]

theorem change_apply_fst (document : Document) (rules : List Rule) :
    (document.change (.apply rules)).1 = (document.apply rules).document := by
  rw [Document.change]
  split <;> rfl

/-- Clearing a section takes its lines away and leaves those of the others. -/
theorem line?_change_clear (document : Document) (i k j : Nat) :
    (document.change (.clear i)).1.line? k j =
      if i = k then none else document.line? k j := by
  rw [line?, line?, Document.change, List.getElem?_modify]
  by_cases hSame : i = k <;> cases document[k]? <;> simp [hSame]

/-- Setting a value grows a document whether it fails or not. -/
theorem grown_setValue (document : Document) (i j : Nat) (value : Text) :
    Grown document (document.change (.setValue i j value)).1 := by
  cases hLine : document.line? i j with
  | none => simpa [Document.change, hLine] using grown_refl document
  | some line =>
      cases hKey : line.key with
      | none =>
          rw [change_setValue_of_key_eq_none hLine hKey]
          exact grown_refl document
      | some key =>
          obtain ⟨old, hPair⟩ := Line.exists_pair_of_key hKey
          rw [change_setValue_of_pair hLine hPair]
          refine grown_modify fun t ht => ?_
          obtain ⟨s, hs, hFound⟩ := line?_eq_some_iff.mp hLine
          obtain rfl : s = t := Option.some.inj (hs.symm.trans ht)
          exact Line.grown_set hFound hKey value

/-- All that a change can do to lines. Only clearing takes lines away, and only reading again makes
others of them. -/
theorem change_cases (document : Document) (change : Change) :
    change = .reread ∨ (∃ i, change = .clear i) ∨ Grown document (document.change change).1 := by
  cases change with
  | addSection name header => exact .inr (.inr (grown_concat rfl))
  | setValue i j value => exact .inr (.inr (grown_setValue document i j value))
  | append i key value =>
      exact .inr (.inr (grown_modify fun s _ => Line.grown_concat (.inr ⟨key, value, rfl⟩)))
  | pushLine i text =>
      exact .inr (.inr (grown_modify fun s _ => Line.grown_concat (.inl ⟨text, rfl⟩)))
  | rename i name header =>
      exact .inr (.inr (grown_modify fun s _ => Line.grown_refl s.lines))
  | clear i => exact .inr (.inl ⟨i, rfl⟩)
  | apply rules =>
      rw [change_apply_fst]
      exact .inr (.inr (grown_apply document rules))
  | reread => exact .inl rfl

end Change

theorem Grown.coherent (h : Grown old new) (hOld : old.Coherent) : new.Coherent := by
  intro t ht
  rcases h.added t ht with hNone | ⟨s, hs, hGrown⟩
  · simp [hNone]
  · exact hGrown.coherent (hOld s hs)

/-- A line keeps its place and its key in a document that grows. -/
theorem Grown.line? (h : Grown old new) (hLine : old.line? i j = some line) :
    ∃ fresh, new.line? i j = some fresh ∧ fresh.key = line.key := by
  obtain ⟨s, hs, hFound⟩ := line?_eq_some_iff.mp hLine
  obtain ⟨t, ht, hGrown⟩ := h.kept i s hs
  obtain ⟨fresh, hFresh, hKey⟩ := hGrown.kept j line hFound
  exact ⟨fresh, line?_eq_some_iff.mpr ⟨t, ht, hFresh⟩, hKey⟩

/-- All lines that are read are coherent. -/
theorem coherent_read (text : Text) : (read text).Coherent := by
  intro s hs line hLine
  rw [← (((steady_read text).of_mem hs).lines line hLine).read]
  exact Line.coherent_read line.text

/-- Each change keeps a document coherent: clearing removes lines, and the others grow them. -/
theorem Coherent.change (h : document.Coherent) (change : Change) :
    (document.change change).1.Coherent := by
  rcases document.change_cases change with rfl | ⟨i, rfl⟩ | hGrown
  · exact coherent_read document.print
  · rw [coherent_iff] at h ⊢
    intro k j line hLine
    rw [line?_change_clear] at hLine
    split at hLine
    next => cases hLine
    next => exact h k j line hLine
  · exact hGrown.coherent h

/-- So every document that is ever reached is coherent. -/
theorem Reached.coherent (h : document.Reached) : document.Coherent := by
  induction h with
  | read text => exact coherent_read text
  | change prior last ih => exact ih.change last

/-- The lines of documents through all of their history. The text and the pair of every line agree.
A line without a key takes no value: the error has its text, and nothing in the document changes.
And until the document is read again, a line that is there keeps its place and its key, unless its
section is cleared. -/
theorem Reached.lines_sound (h : document.Reached) :
    (∀ s ∈ document, ∀ line ∈ s.lines, line.Coherent) ∧
      (∀ i j line value, document.line? i j = some line → line.key = none →
        document.change (.setValue i j value) = (document, some (.lineWithoutKey line.text))) ∧
      ∀ change, change ≠ .reread → ∀ i j line, document.line? i j = some line →
        (change = .clear i ∧ (document.change change).1.line? i j = none) ∨
          ∃ fresh, (document.change change).1.line? i j = some fresh ∧ fresh.key = line.key := by
  refine ⟨h.coherent, fun i j line value => change_setValue_of_key_eq_none, ?_⟩
  intro change hReread i j line hLine
  rcases document.change_cases change with hSame | ⟨k, rfl⟩ | hGrown
  · exact absurd hSame hReread
  · rw [line?_change_clear]
    by_cases hCleared : k = i
    · exact .inl ⟨by rw [hCleared], if_pos hCleared⟩
    · exact .inr ⟨line, by rw [if_neg hCleared, hLine], rfl⟩
  · exact .inr (hGrown.line? hLine)

/-- A document with a line that is no longer read back. Its key has an equals sign. -/
def tangled : Document :=
  (((read "; lead\n[A]\nfoo=1".toList).change (.append 1 "a=b".toList "1".toList)).1.change
    (.setValue 1 1 "2".toList)).1

theorem reached_tangled : tangled.Reached :=
  .change (.change (.read _) _) _

/-- A key with an equals sign in it is kept, though its line reads back with another one. -/
theorem Reached.lines_sound_tangled :
    tangled.Reached ∧ tangled.line? 1 1 = some (.ofPair "a=b".toList "2".toList) ∧
      (Line.ofPair "a=b".toList "2".toList).Coherent ∧
      (Line.read "a=b = 2".toList).key = some "a".toList ∧
      tangled.change (.setValue 0 0 "x".toList) =
        (tangled, some (.lineWithoutKey "; lead".toList)) ∧
      ∃ fresh, (tangled.change (.apply Rule.rivals)).1.line? 1 1 = some fresh ∧
        fresh.key = some "a=b".toList := by
  obtain ⟨hCoherent, hRefused, hKept⟩ := Reached.lines_sound reached_tangled
  have hLine : tangled.line? 1 1 = some (.ofPair "a=b".toList "2".toList) := by decide
  have hLead : tangled.line? 0 0 = some (.read "; lead".toList) := by decide
  have hAgree : (Line.ofPair "a=b".toList "2".toList).Coherent :=
    coherent_iff.mp hCoherent 1 1 _ hLine
  refine ⟨reached_tangled, hLine, hAgree, by decide, hRefused 0 0 _ _ hLead (by decide), ?_⟩
  rcases hKept (.apply Rule.rivals) (by simp) 1 1 _ hLine with ⟨hClear, -⟩ | hFresh
  · cases hClear
  · exact hFresh

end Document
end Rubric
