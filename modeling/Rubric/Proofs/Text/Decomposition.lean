import Rubric.Proofs.Encoding.Utf8
import Rubric.Proofs.Text.Terminators

/-! The division of a text into lines and terminators. There is exactly one, and its lines are the
physical lines. The same lines are cut out of the bytes of the text by a walk over its characters
that keeps two places, where the line began and where the walk stands, and every cut falls between
two characters. -/
namespace Rubric.Text

/-- What may end a line: a carriage return and a line feed together, or one character that ends
lines. -/
def IsTerminator (t : Text) : Prop :=
  t = ['\r', '\n'] ∨ ∃ c ∈ breaks, t = [c]

/-- The text of lines with what ends them. -/
def joined (parts : List (Text × Text)) : Text :=
  parts.flatMap fun (line, ending) => line ++ ending

/-- A division of a text into lines and what ends them. The last line may have no terminator if it
is not empty, and all others have one. A carriage return alone is none before a line feed. -/
structure Decomposition (t : Text) (parts : List (Text × Text)) : Prop where
  covers : joined parts = t
  unbroken : ∀ part ∈ parts, ∀ c ∈ part.1, c ∉ breaks
  ended : ∀ before line ending after, parts = before ++ (line, ending) :: after →
    IsTerminator ending ∨ after = [] ∧ ending = [] ∧ line ≠ []
  unsplit : ∀ before line after, parts = before ++ (line, ['\r']) :: after →
    (joined after).head? ≠ some '\n'

/-- The physical lines of a text with what ends them. -/
def parted : Text → List (Text × Text)
  | [] => []
  | '\r' :: '\n' :: rest => ([], ['\r', '\n']) :: parted rest
  | c :: rest =>
    if isBreak c then ([], [c]) :: parted rest
    else
      match parted rest with
      | [] => [([c], [])]
      | (line, ending) :: parts => (c :: line, ending) :: parts

/-- The number of bytes that a text takes. -/
def width (t : Text) : Nat :=
  (Utf8.encode t).length

/-- Where lines begin and end among the bytes of a text, in one walk over its characters. The first
number is where the line began that is being passed over, and the second where the walk stands. -/
def lineSpans (start here : Nat) : Text → List (Nat × Nat)
  | [] => if start < here then [(start, here)] else []
  | '\r' :: '\n' :: rest => (start, here) :: lineSpans (here + 2) (here + 2) rest
  | c :: rest =>
    if isBreak c then (start, here) :: lineSpans (here + width [c]) (here + width [c]) rest
    else lineSpans start (here + width [c]) rest

/-- A place among the bytes of a text that parts no character. -/
def IsBoundary (t : Text) (place : Nat) : Prop :=
  ∃ before after, t = before ++ after ∧ place = width before

variable {c : Char} {line ending t rest done current : Text} {parts : List (Text × Text)}

/-- Cutting with the terminators kept cuts into the same lines. -/
theorem map_fst_parted (t : Text) : (parted t).map Prod.fst = physicalLines t := by
  fun_induction parted t with
  | case1 => rfl
  | case2 rest ih => rw [physicalLines, List.map_cons, ih]
  | case3 c rest hPair hBreak ih =>
      rw [physicalLines_break hBreak, List.map_cons, ih]
      rintro rfl hFeed
      obtain ⟨rest, rfl⟩ := List.head?_eq_some_iff.mp hFeed
      exact hPair rest rfl rfl
  | case4 c rest hPair hPlain hNil ih =>
      rw [physicalLines_cons (by simpa using hPlain), ← ih, hNil]
      rfl
  | case5 c rest hPair hPlain line ending parts hParts ih =>
      rw [physicalLines_cons (by simpa using hPlain), ← ih, hParts]
      rfl

theorem parted_cons (h : isBreak c = false) : parted (c :: t) =
    match parted t with
    | [] => [([c], [])]
    | (line, ending) :: parts => (c :: line, ending) :: parts := by
  rw [parted.eq_def]
  split
  next hNil => cases hNil
  next hReturn =>
    obtain ⟨rfl, -⟩ := List.cons.inj hReturn
    exact absurd h (by decide)
  next hCons =>
    obtain ⟨rfl, rfl⟩ := List.cons.inj hCons
    simp [h]

/-- A terminator ends the empty line before it. -/
theorem parted_terminator (h : IsTerminator ending)
    (hWhole : ending = ['\r'] → rest.head? ≠ some '\n') :
    parted (ending ++ rest) = ([], ending) :: parted rest := by
  rcases h with rfl | ⟨c, hBreak, rfl⟩
  · rfl
  · rw [List.cons_append, List.nil_append, parted.eq_def]
    split
    next hNil => cases hNil
    next hReturn =>
      obtain ⟨rfl, rfl⟩ := List.cons.inj hReturn
      exact absurd rfl (hWhole rfl)
    next hCons =>
      obtain ⟨rfl, rfl⟩ := List.cons.inj hCons
      rw [if_pos (isBreak_iff.mpr hBreak)]

/-- A line and its terminator are the first part of a text. A carriage return is a terminator by
itself only if no line feed follows it. -/
theorem parted_append (hLine : ∀ c ∈ line, c ∉ breaks) (h : IsTerminator ending)
    (hWhole : ending = ['\r'] → rest.head? ≠ some '\n') :
    parted (line ++ (ending ++ rest)) = (line, ending) :: parted rest := by
  induction line with
  | nil => exact parted_terminator h hWhole
  | cons c line ih =>
      obtain ⟨hFirst, hLine⟩ := List.forall_mem_cons.mp hLine
      have hPlain : isBreak c = false := by simpa using mt isBreak_iff.mp hFirst
      rw [List.cons_append, parted_cons hPlain, ih hLine]

/-- A text without a break is a single part without a terminator. -/
theorem parted_of_unbroken (hLine : ∀ c ∈ line, c ∉ breaks) (hNe : line ≠ []) :
    parted line = [(line, [])] := by
  induction line with
  | nil => exact absurd rfl hNe
  | cons c line ih =>
      obtain ⟨hFirst, hLine⟩ := List.forall_mem_cons.mp hLine
      have hPlain : isBreak c = false := by simpa using mt isBreak_iff.mp hFirst
      rw [parted_cons hPlain]
      by_cases hNil : line = []
      · subst hNil
        rfl
      · rw [ih hLine hNil]

namespace Decomposition

theorem nil : Decomposition [] [] where
  covers := rfl
  unbroken := by simp
  ended := by simp
  unsplit := by simp

/-- A line with its terminator before a divided text. -/
theorem cons (h : Decomposition rest parts) (hLine : ∀ c ∈ line, c ∉ breaks)
    (hEnding : IsTerminator ending) (hWhole : ending = ['\r'] → rest.head? ≠ some '\n') :
    Decomposition (line ++ (ending ++ rest)) ((line, ending) :: parts) where
  covers := by
    rw [← h.covers, joined, joined, List.flatMap_cons, List.append_assoc]
  unbroken := List.forall_mem_cons.mpr ⟨hLine, h.unbroken⟩
  ended := by
    intro before other last after hParts
    cases before with
    | nil =>
        obtain ⟨hFirst, -⟩ := List.cons.inj hParts
        obtain ⟨-, rfl⟩ := Prod.mk.inj hFirst
        exact .inl hEnding
    | cons first before => exact h.ended before other last after (List.cons.inj hParts).2
  unsplit := by
    intro before other after hParts
    cases before with
    | nil =>
        obtain ⟨hFirst, rfl⟩ := List.cons.inj hParts
        obtain ⟨-, rfl⟩ := Prod.mk.inj hFirst
        rw [h.covers]
        exact hWhole rfl
    | cons first before => exact h.unsplit before other after (List.cons.inj hParts).2

theorem singleton (hLine : ∀ c ∈ line, c ∉ breaks) (hNe : line ≠ []) :
    Decomposition line [(line, [])] where
  covers := by simp [joined]
  unbroken := by simpa using hLine
  ended := by
    intro before other last after hParts
    cases before with
    | nil =>
        obtain ⟨hFirst, rfl⟩ := List.cons.inj hParts
        obtain ⟨rfl, rfl⟩ := Prod.mk.inj hFirst
        exact .inr ⟨rfl, rfl, hNe⟩
    | cons first before => simp at hParts
  unsplit := by
    intro before other after hParts
    cases before with
    | nil => simp at hParts
    | cons first before => simp at hParts

theorem tail (h : Decomposition t ((line, ending) :: parts)) :
    Decomposition (joined parts) parts where
  covers := rfl
  unbroken := (List.forall_mem_cons.mp h.unbroken).2
  ended before other last after hParts :=
    h.ended ((line, ending) :: before) other last after (by rw [hParts]; rfl)
  unsplit before other after hParts :=
    h.unsplit ((line, ending) :: before) other after (by rw [hParts]; rfl)

/-- No text is divided in two ways. -/
theorem parted_eq (h : Decomposition t parts) : parted t = parts := by
  induction parts generalizing t with
  | nil =>
      obtain rfl : [] = t := h.covers
      rfl
  | cons part parts ih =>
      obtain ⟨line, ending⟩ := part
      have hLine := h.unbroken _ List.mem_cons_self
      have hText : t = line ++ (ending ++ joined parts) := by
        rw [← h.covers, joined, List.flatMap_cons, List.append_assoc, joined]
      rcases h.ended [] line ending parts rfl with hEnding | ⟨rfl, rfl, hNe⟩
      · rw [hText, parted_append hLine hEnding, ih h.tail]
        rintro rfl
        exact h.unsplit [] line parts rfl
      · rw [hText]
        simpa [joined] using parted_of_unbroken hLine hNe

/-- A character that ends no line lengthens the first line of a divided text. -/
theorem lengthen (h : Decomposition t ((line, ending) :: parts)) (hPlain : c ∉ breaks) :
    Decomposition (c :: t) ((c :: line, ending) :: parts) := by
  have hLine : ∀ d ∈ c :: line, d ∉ breaks :=
    List.forall_mem_cons.mpr ⟨hPlain, h.unbroken _ List.mem_cons_self⟩
  rw [← h.covers, joined, List.flatMap_cons, List.append_assoc, ← List.cons_append]
  rcases h.ended [] line ending parts rfl with hEnding | ⟨rfl, rfl, hNe⟩
  · refine h.tail.cons hLine hEnding ?_
    rintro rfl
    exact h.unsplit [] line parts rfl
  · simpa using singleton hLine (List.cons_ne_nil c line)

end Decomposition

/-- Every text has a decomposition, which is the cut with its terminators. -/
theorem decomposition_parted (t : Text) : Decomposition t (parted t) := by
  fun_induction parted t with
  | case1 => exact .nil
  | case2 rest ih =>
      change Decomposition ([] ++ (['\r', '\n'] ++ rest)) _
      exact ih.cons (by simp) (.inl rfl) (by simp)
  | case3 c rest hPair hBreak ih =>
      change Decomposition ([] ++ ([c] ++ rest)) _
      refine ih.cons (by simp) (.inr ⟨c, isBreak_iff.mp hBreak, rfl⟩) fun hReturn hFeed => ?_
      obtain rfl : c = '\r' := List.singleton_inj.mp hReturn
      obtain ⟨rest, rfl⟩ := List.head?_eq_some_iff.mp hFeed
      exact hPair rest rfl rfl
  | case4 c rest hPair hPlain hNil ih =>
      rw [hNil] at ih
      obtain rfl : [] = rest := ih.covers
      exact .singleton (by simpa using mt isBreak_iff.mpr hPlain) (by simp)
  | case5 c rest hPair hPlain line ending parts hParts ih =>
      rw [hParts] at ih
      exact ih.lengthen (mt isBreak_iff.mpr hPlain)

section Spans

/-- Widths add up, since every character has bytes of its own. -/
theorem width_append (s t : Text) : width (s ++ t) = width s + width t := by
  rw [width, Utf8.encode, List.flatMap_append, List.length_append]
  rfl

/-- Only the empty text has no bytes, so no two borders of parts coincide by chance. -/
theorem width_pos (h : t ≠ []) : 0 < width t := by
  obtain ⟨c, t, rfl⟩ := List.exists_cons_of_ne_nil h
  have hFirst : 0 < width [c] := by
    rw [width, Utf8.encode, List.flatMap_singleton]
    rcases Utf8.encodeChar_cases c with ⟨-, h⟩ | ⟨-, -, h⟩ | ⟨-, -, h⟩ | ⟨-, h⟩ <;> simp [h]
  have hSum : width (c :: t) = width [c] + width t := width_append [c] t
  omega

/-- Where the lines of a divided text begin and end if another text stands before it. -/
def placesBehind (done : Text) : List (Text × Text) → List (Nat × Nat)
  | [] => []
  | (line, ending) :: parts =>
    (width done, width (done ++ line)) :: placesBehind (done ++ (line ++ ending)) parts

/-- The walk cuts a text where its division does. It has passed over `done`, whose lines are cut,
and over `current`, which begins a line. -/
theorem lineSpans_eq {start here : Nat} (hStart : start = width done)
    (hHere : here = width (done ++ current)) (hCurrent : ∀ c ∈ current, c ∉ breaks) :
    lineSpans start here rest = placesBehind done (parted (current ++ rest)) := by
  fun_induction lineSpans start here rest generalizing done current with
  | case1 start here hLess =>
      have hNe : current ≠ [] := by
        rintro rfl
        rw [hStart, hHere, List.append_nil] at hLess
        exact absurd hLess (Nat.lt_irrefl _)
      rw [List.append_nil, parted_of_unbroken hCurrent hNe, placesBehind, hStart, hHere]
      rfl
  | case2 start here hNotLess =>
      have hNil : current = [] := by
        by_contra hNe
        have hPos := width_pos hNe
        rw [width_append] at hHere
        omega
      rw [hNil]
      rfl
  | case3 start here rest ih =>
      have hNext : here + 2 = width (done ++ (current ++ ['\r', '\n'])) := by
        rw [← List.append_assoc, width_append, ← hHere]
        rfl
      change _ = placesBehind done (parted (current ++ (['\r', '\n'] ++ rest)))
      rw [ih hNext (by simpa using hNext) (by simp), parted_append hCurrent (.inl rfl) (by simp),
        placesBehind, hStart, hHere]
      rfl
  | case4 start here c rest hPair hBreak ih =>
      have hNext : here + width [c] = width (done ++ (current ++ [c])) := by
        rw [← List.append_assoc, width_append, ← hHere]
      have hWhole : [c] = ['\r'] → rest.head? ≠ some '\n' := fun hReturn hFeed => by
        obtain rfl : c = '\r' := List.singleton_inj.mp hReturn
        obtain ⟨rest, rfl⟩ := List.head?_eq_some_iff.mp hFeed
        exact hPair rest rfl rfl
      change _ = placesBehind done (parted (current ++ ([c] ++ rest)))
      rw [ih hNext (by simpa using hNext) (by simp),
        parted_append hCurrent (.inr ⟨c, isBreak_iff.mp hBreak, rfl⟩) hWhole, placesBehind, hStart,
        hHere]
      rfl
  | case5 start here c rest hPair hPlain ih =>
      have hNext : here + width [c] = width (done ++ (current ++ [c])) := by
        rw [← List.append_assoc, width_append, ← hHere]
      have hLonger : ∀ d ∈ current ++ [c], d ∉ breaks :=
        List.forall_mem_append.mpr ⟨hCurrent, by simpa using mt isBreak_iff.mpr hPlain⟩
      rw [ih hStart hNext hLonger, List.append_assoc]
      rfl

/-- What stands between two places among bytes. -/
def cut (bytes : Bytes) (span : Nat × Nat) : Bytes :=
  bytes.extract span.1 span.2

/-- The bytes between the border before a line and the one behind it are those of the line. -/
theorem cut_encode (done line after : Text) :
    cut (Utf8.encode (done ++ (line ++ after))) (width done, width (done ++ line)) =
      Utf8.encode line := by
  have hBytes : Utf8.encode (done ++ (line ++ after)) =
      Utf8.encode done ++ (Utf8.encode line ++ Utf8.encode after) := by
    simp [Utf8.encode]
  rw [cut, hBytes, width_append, width, width, List.extract_eq_take_drop]
  simp

/-- The spans of parts cut the bytes of the whole text into those of the lines. -/
theorem map_cut_placesBehind (done : Text) (parts : List (Text × Text)) :
    (placesBehind done parts).map (cut (Utf8.encode (done ++ joined parts))) =
      parts.map fun part => Utf8.encode part.1 := by
  induction parts generalizing done with
  | nil => rfl
  | cons part parts ih =>
      obtain ⟨line, ending⟩ := part
      have hText : done ++ joined ((line, ending) :: parts) =
          done ++ (line ++ (ending ++ joined parts)) := by
        simp [joined]
      have hRest := ih (done ++ (line ++ ending))
      rw [List.append_assoc, List.append_assoc] at hRest
      rw [placesBehind, List.map_cons, List.map_cons, hText, cut_encode, hRest]

/-- Spans begin and end between characters, and none of them runs backwards. -/
theorem isBoundary_of_mem_placesBehind {span : Nat × Nat}
    (h : span ∈ placesBehind done parts) :
    IsBoundary (done ++ joined parts) span.1 ∧ IsBoundary (done ++ joined parts) span.2 ∧
      span.1 ≤ span.2 := by
  induction parts generalizing done with
  | nil => cases h
  | cons part parts ih =>
      obtain ⟨line, ending⟩ := part
      have hText : done ++ joined ((line, ending) :: parts) =
          done ++ line ++ (ending ++ joined parts) := by
        simp [joined]
      rw [hText]
      rcases List.mem_cons.mp h with rfl | h
      · refine ⟨⟨done, line ++ (ending ++ joined parts), by simp, rfl⟩, ⟨_, _, rfl, rfl⟩, ?_⟩
        dsimp only
        rw [width_append]
        exact Nat.le_add_right _ _
      · have hRest := ih h
        rw [List.append_assoc, List.append_assoc] at hRest
        rw [List.append_assoc]
        exact hRest

end Spans

/-- A text falls into lines and terminators in exactly one way, the lines are its physical lines,
and only the empty text has none. Walking over the characters and keeping places among the bytes
cuts the same lines out of them, always between two characters. -/
theorem physicalLines_decomposition (t : Text) :
    (∃! parts, Decomposition t parts) ∧
      (∀ parts, Decomposition t parts → physicalLines t = parts.map Prod.fst) ∧
      (physicalLines t = [] ↔ t = []) ∧
      (lineSpans 0 0 t).map (cut (Utf8.encode t)) = (physicalLines t).map Utf8.encode ∧
      ∀ span ∈ lineSpans 0 0 t, IsBoundary t span.1 ∧ IsBoundary t span.2 ∧ span.1 ≤ span.2 := by
  have hParted := decomposition_parted t
  have hWalk : lineSpans 0 0 t = placesBehind [] (parted ([] ++ t)) :=
    lineSpans_eq rfl rfl (by simp)
  have hSpans : lineSpans 0 0 t = placesBehind [] (parted t) := hWalk
  have hText : t = [] ++ joined (parted t) := hParted.covers.symm
  refine ⟨⟨_, hParted, fun parts h => h.parted_eq.symm⟩, ?lines, physicalLines_eq_nil_iff, ?cuts,
    ?places⟩
  case lines =>
    intro parts h
    rw [← map_fst_parted, h.parted_eq]
  case cuts =>
    have hCuts := map_cut_placesBehind [] (parted t)
    rw [← hText] at hCuts
    rw [hSpans, hCuts, ← map_fst_parted, List.map_map]
    rfl
  case places =>
    intro span hSpan
    rw [hSpans] at hSpan
    have hPlaces := isBoundary_of_mem_placesBehind hSpan
    rw [← hText] at hPlaces
    exact hPlaces

example : lineSpans 0 0 "é\r\n\r".toList = [(0, 2), (4, 4)] := by
  decide

end Rubric.Text
