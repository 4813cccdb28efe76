import Mathlib.Data.Finset.Card
import Mathlib.Data.Set.Lattice
import Rubric.Proofs.Pattern.Places
import Rubric.Proofs.Pattern.Spans

/-! The search finds what there is to find. A visit may leave out what an earlier one has found, so
what is said of it is about all visits so far: together they have come to all the places that lie
behind the places they have been given. -/
namespace Rubric.Pattern

open Places

/-- The places behind others. -/
def ends (R : Nat → Nat → Prop) (M : Set Nat) : Set Nat :=
  {j | ∃ i ∈ M, R i j}

def Star (R : Nat → Nat → Prop) (i j : Nat) : Prop :=
  ∃ n, Steps R n i j

/-- Visits that have been given these places, all in all, leave behind this memory. -/
inductive Visit.Leaves (count : Nat) (visit : Visit) : Memory → Set Nat → Prop where
  | blank : Leaves count visit .blank ∅
  | visit {mem : Memory} {M : Set Nat} {m : Places} (hPast : Leaves count visit mem M)
      (hPlaces : ∀ i ∈ m.toSet, i < count) : Leaves count visit (visit mem m).1 (M ∪ m.toSet)

/-- Visits carry places along a relation. With the places that one comes to, all so far have come to
the places behind all that they have been given. -/
structure Visit.Carries (count : Nat) (visit : Visit) (R : Nat → Nat → Prop) : Prop where
  lt : ∀ i j, i < count → R i j → j < count
  ends_union : ∀ {mem : Memory} {M : Set Nat} {m : Places}, Leaves count visit mem M →
    (∀ i ∈ m.toSet, i < count) → ends R M ∪ (visit mem m).2.toSet = ends R (M ∪ m.toSet)

section ends

variable {R S : Nat → Nat → Prop} {M N : Set Nat}

theorem ends_empty : ends R ∅ = ∅ := by
  ext j
  simp [ends]

theorem ends_union : ends R (M ∪ N) = ends R M ∪ ends R N := by
  ext j
  simp only [ends, Set.mem_union, Set.mem_ofPred_eq, or_and_right, exists_or]

theorem ends_mono (h : M ⊆ N) : ends R M ⊆ ends R N :=
  fun _ ⟨i, hi, hj⟩ => ⟨i, h hi, hj⟩

/-- Two relations in a row are stepped through one after the other. -/
theorem ends_comp : ends (fun i j => ∃ k, R i k ∧ S k j) M = ends S (ends R M) := by
  ext j
  constructor
  · rintro ⟨i, hi, k, hk, hj⟩
    exact ⟨k, ⟨i, hi, hk⟩, hj⟩
  · rintro ⟨k, ⟨i, hi, hk⟩, hj⟩
    exact ⟨i, hi, k, hk, hj⟩

theorem ends_or : ends (fun i j => R i j ∨ S i j) M = ends R M ∪ ends S M := by
  ext j
  simp only [ends, Set.mem_union, Set.mem_ofPred_eq, and_or_left, exists_or]

theorem ends_eq : ends (fun i j => i = j) M = M := by
  ext j
  simp [ends]

theorem subset_ends_star : M ⊆ ends (Star R) M :=
  fun i hi => ⟨i, hi, 0, rfl⟩

/-- Another step from where a repetition ends leads to where one ends. -/
theorem ends_ends_star_subset : ends R (ends (Star R) M) ⊆ ends (Star R) M := by
  rintro j ⟨k, ⟨i, hi, n, hSteps⟩, hStep⟩
  exact ⟨i, hi, n + 1, steps_add_iff.mpr ⟨k, hSteps, steps_one_iff.mpr hStep⟩⟩

/-- Places that are closed under a step hold all that its repetition reaches. -/
theorem ends_star_subset {N : Set Nat} (hStart : M ⊆ N) (hClosed : ends R N ⊆ N) :
    ends (Star R) M ⊆ N := by
  rintro j ⟨i, hi, n, hSteps⟩
  have hPlace := hStart hi
  clear hi
  induction n generalizing i with
  | zero => exact hSteps ▸ hPlace
  | succ n ih =>
      obtain ⟨k, hStep, hRest⟩ := hSteps
      exact ih k hRest (hClosed ⟨i, hPlace, hStep⟩)

end ends

namespace Visit

variable {count : Nat} {visit first rest : Visit} {R S : Nat → Nat → Prop} {mem : Memory}
  {M : Set Nat} {m : Places}

theorem Leaves.lt (h : Leaves count visit mem M) : ∀ i ∈ M, i < count := by
  induction h with
  | blank => exact fun i hi => absurd hi (Set.notMem_empty i)
  | visit hPast hPlaces ih => exact fun i hi => hi.elim (ih i) (hPlaces i)

/-- A visit never leads past the end of the text. -/
theorem Carries.lt_of_mem (h : Carries count visit R) (hPast : Leaves count visit mem M)
    (hPlaces : ∀ i ∈ m.toSet, i < count) : ∀ j ∈ (visit mem m).2.toSet, j < count := by
  intro j hj
  have hEnd : j ∈ ends R (M ∪ m.toSet) := h.ends_union hPast hPlaces ▸ Or.inr hj
  obtain ⟨i, hi, hij⟩ := hEnd
  exact h.lt i j (hi.elim (hPast.lt i) (hPlaces i)) hij

/-- Relations that agree on the places of a text are carried along alike. -/
theorem Carries.congr (h : Carries count visit R) (hIff : ∀ i j, i < count → (R i j ↔ S i j)) :
    Carries count visit S := by
  have hEnds : ∀ {N : Set Nat}, (∀ i ∈ N, i < count) → ends S N = ends R N := by
    intro N hN
    ext j
    exact exists_congr fun i => and_congr_right fun hi => (hIff i j (hN i hi)).symm
  refine ⟨fun i j hi hij => h.lt i j hi ((hIff i j hi).mpr hij), fun hPast hPlaces => ?_⟩
  rw [hEnds hPast.lt, hEnds fun i hi => hi.elim (hPast.lt i) (hPlaces i)]
  exact h.ends_union hPast hPlaces

/-- A leap carries out its relation at once and has nothing to remember. -/
theorem carries_leap {starts : Places} {width : Nat}
    (hFits : ∀ i ∈ starts.toSet, i + width < count) :
    Carries count (Track.leap starts width).visit fun i j => i ∈ starts.toSet ∧ j = i + width where
  lt i j _ := fun ⟨hStart, hEnd⟩ => hEnd ▸ hFits i hStart
  ends_union {mem M m} _ _ := by
    rw [ends_union]
    congr 1
    ext j
    exact mem_toSet_leap

/-- What two visits one behind the other leave behind. A visit from no places may pass them by. -/
theorem Leaves.behind (hFirst : Carries count first R) (h : Leaves count visit mem M)
    (hVisit : ∀ mem m, (visit mem m).1 = .pair (first mem.parts.1 m).1
      (rest mem.parts.2 (first mem.parts.1 m).2).1 ∨ m = 0 ∧ (visit mem m).1 = mem) :
    Leaves count first mem.parts.1 M ∧ Leaves count rest mem.parts.2 (ends R M) := by
  induction h with
  | blank =>
      rw [ends_empty]
      exact ⟨.blank, .blank⟩
  | @visit mem M m hPast hPlaces ih =>
      obtain ⟨hOne, hTwo⟩ := ih
      rcases hVisit mem m with hPair | ⟨rfl, hSame⟩
      · rw [hPair, ← hFirst.ends_union hOne hPlaces]
        exact ⟨hOne.visit hPlaces, hTwo.visit (hFirst.lt_of_mem hOne hPlaces)⟩
      · rw [hSame, toSet_zero, Set.union_empty]
        exact ⟨hOne, hTwo⟩

/-- Two tracks in a row carry out the composed relation, each with a memory of its own. -/
theorem Carries.seq {a b : Track} (hFirst : Carries count a.visit R)
    (hRest : Carries count b.visit S) :
    Carries count (Track.seq a b).visit fun i j => ∃ k, R i k ∧ S k j where
  lt i j hi := fun ⟨k, hk, hj⟩ => hRest.lt k j (hFirst.lt i k hi hk) hj
  ends_union {mem M m} hPast hPlaces := by
    obtain ⟨hOne, hTwo⟩ := hPast.behind hFirst fun _ _ => .inl rfl
    rw [ends_comp, ends_comp, ← hFirst.ends_union hOne hPlaces]
    exact hRest.ends_union hTwo (hFirst.lt_of_mem hOne hPlaces)

theorem Leaves.beside {a b : Track} (h : Leaves count (Track.alt a b).visit mem M) :
    Leaves count a.visit mem.parts.1 M ∧ Leaves count b.visit mem.parts.2 M := by
  induction h with
  | blank => exact ⟨.blank, .blank⟩
  | visit hPast hPlaces ih => exact ⟨ih.1.visit hPlaces, ih.2.visit hPlaces⟩

theorem Carries.alt {a b : Track} (hFirst : Carries count a.visit R)
    (hRest : Carries count b.visit S) :
    Carries count (Track.alt a b).visit fun i j => R i j ∨ S i j where
  lt i j hi := fun h => h.elim (hFirst.lt i j hi) (hRest.lt i j hi)
  ends_union {mem M m} hPast hPlaces := by
    obtain ⟨hOne, hTwo⟩ := hPast.beside
    rw [ends_or, ends_or, ← hFirst.ends_union hOne hPlaces, ← hRest.ends_union hTwo hPlaces,
      Set.union_union_union_comm, ← toSet_or]
    rfl

/-- What the memories of repeated tracks hold are the places that the copies before them lead to. -/
theorem Leaves.copies {n : Nat} (h : Leaves count (copies visit (n + 1)) mem M)
    (hVisit : Carries count visit R) :
    Leaves count visit mem.parts.1 M ∧
      Leaves count (Visit.copies visit n) mem.parts.2 (ends R M) := by
  refine h.behind hVisit fun mem m => ?_
  rw [Visit.copies]
  split
  next hZero => exact .inr ⟨hZero, rfl⟩
  next => exact .inl rfl

/-- A track repeated a fixed number of times carries out as many steps. -/
theorem Carries.copies (h : Carries count visit R) (n : Nat) :
    Carries count (copies visit n) (Steps R n) := by
  induction n with
  | zero =>
      refine ⟨fun i j hi hij => hij ▸ hi, fun _ _ => ?_⟩
      simp only [Steps, ends_eq, Visit.copies]
  | succ n ih =>
      refine ⟨fun i j hi ⟨k, hk, hj⟩ => ih.lt k j (h.lt i k hi hk) hj,
        fun {mem M m} hPast hPlaces => ?_⟩
      by_cases hZero : m = 0
      · rw [hZero, Visit.copies, if_pos rfl, toSet_zero, Set.union_empty, Set.union_empty]
      · obtain ⟨hOne, hTwo⟩ := hPast.copies h
        simp only [Steps, ends_comp]
        rw [← h.ends_union hOne hPlaces, Visit.copies, if_neg hZero]
        exact ih.ends_union hTwo (h.lt_of_mem hOne hPlaces)

theorem Leaves.upTo {n : Nat} (h : Leaves count (upTo visit (n + 1)) mem M)
    (hVisit : Carries count visit R) :
    Leaves count visit mem.parts.1 M ∧
      Leaves count (Visit.upTo visit n) mem.parts.2 (ends R M) := by
  refine h.behind hVisit fun mem m => ?_
  rw [Visit.upTo]
  split
  next hZero => exact .inr ⟨hZero, rfl⟩
  next => exact .inl rfl

theorem Carries.upTo (h : Carries count visit R) (n : Nat) :
    Carries count (upTo visit n) fun i j => ∃ k ≤ n, Steps R k i j := by
  induction n with
  | zero =>
      refine Carries.congr (R := fun i j => i = j) ⟨fun i j hi hij => hij ▸ hi, fun _ _ => ?_⟩ ?_
      · simp only [ends_eq, Visit.upTo]
      · exact fun i j _ => exists_le_steps_zero_iff.symm
  | succ n ih =>
      refine Carries.congr (R := fun i j => i = j ∨ ∃ l, R i l ∧ ∃ k ≤ n, Steps R k l j) ?_ ?_
      · refine ⟨fun i j hi => ?_, fun {mem M m} hPast hPlaces => ?_⟩
        · rintro (rfl | ⟨l, hl, hj⟩)
          · exact hi
          · exact ih.lt l j (h.lt i l hi hl) hj
        · by_cases hZero : m = 0
          · rw [hZero, Visit.upTo, if_pos rfl, toSet_zero, Set.union_empty, Set.union_empty]
          · obtain ⟨hOne, hTwo⟩ := hPast.upTo h
            have hRest := ih.ends_union hTwo (h.lt_of_mem hOne hPlaces)
            rw [ends_or, ends_or, ends_eq, ends_eq, ends_comp, ends_comp,
              ← h.ends_union hOne hPlaces, ← hRest, Visit.upTo, if_neg hZero, toSet_or,
              Set.union_union_union_comm]
      · exact fun i j _ => exists_le_steps_succ_iff.symm

def unseen (count : Nat) (seen : Places) : Finset Nat :=
  (Finset.range count).filter fun i => seen.testBit i = false

/-- Each round of a loop that finds a new place leaves fewer places unseen, which bounds the
rounds. -/
theorem card_unseen_or_lt {seen new : Places} (hNew : ∀ i ∈ new.toSet, i < count)
    (hUnseen : ∃ i ∈ new.toSet, i ∉ seen.toSet) :
    (unseen count (seen ||| new)).card < (unseen count seen).card := by
  obtain ⟨i, hi, hiUnseen⟩ := hUnseen
  rw [mem_toSet] at hi hiUnseen
  refine Finset.card_lt_card (Finset.ssubset_iff_subset_ne.mpr ⟨fun j hj => ?_, fun hSame => ?_⟩)
  · simp only [unseen, Finset.mem_filter, Nat.testBit_or, Bool.or_eq_false_iff] at hj ⊢
    exact ⟨hj.1, hj.2.1⟩
  · have hMem : i ∈ unseen count seen := by
      simpa [unseen, hiUnseen] using hNew i hi
    rw [← hSame] at hMem
    simp [unseen, hi] at hMem

/-- Rounds of a loop. All that has been seen or is to be visited next can be come to, and no step
leads from what has been seen to anywhere else, so nothing is missing when nothing new is left. -/
theorem around_spec {n : Nat} {seen : Places} (h : Carries count visit R)
    (hPast : Leaves count visit mem seen.toSet) (hPlaces : ∀ i ∈ m.toSet, i < count)
    (hFound : seen.toSet ∪ m.toSet ⊆ ends (Star R) M) (hStart : M ⊆ seen.toSet ∪ m.toSet)
    (hNext : ends R seen.toSet ⊆ seen.toSet ∪ m.toSet) (hFuel : (unseen count seen).card < n) :
    (around visit n seen mem m).1.toSet = ends (Star R) M ∧
      Leaves count visit (around visit n seen mem m).2 (around visit n seen mem m).1.toSet := by
  induction n generalizing seen mem m with
  | zero => exact absurd hFuel (Nat.not_lt_zero _)
  | succ n ih =>
      rw [Visit.around]
      have hNewSet := toSet_without m seen
      split
      next hNone =>
        rw [hNone, toSet_zero] at hNewSet
        have hSub : seen.toSet ∪ m.toSet = seen.toSet :=
          Set.union_eq_left.mpr (Set.sdiff_eq_empty.mp hNewSet.symm)
        rw [hSub] at hFound hStart hNext
        exact ⟨hFound.antisymm (ends_star_subset hStart hNext), hPast⟩
      next hSome =>
        have hNewPlaces : ∀ i ∈ (m.without seen).toSet, i < count := by
          rw [hNewSet]
          exact fun i hi => hPlaces i hi.1
        have hUnion : (seen ||| m.without seen).toSet = seen.toSet ∪ m.toSet := by
          rw [toSet_or, hNewSet, Set.union_sdiff_self]
        have hEnds := h.ends_union hPast hNewPlaces
        rw [← toSet_or, hUnion] at hEnds
        have hLeaves := hPast.visit hNewPlaces
        rw [← toSet_or] at hLeaves
        -- The union of what has been seen and what comes next only grows by the steps from it.
        refine ih hLeaves (h.lt_of_mem hPast hNewPlaces) ?_ ?_ ?_ ?_
        · rw [hUnion]
          refine Set.union_subset hFound ?_
          refine Set.Subset.trans ?_ ends_ends_star_subset
          exact (hEnds ▸ Set.subset_union_right).trans (ends_mono hFound)
        · rw [hUnion]
          exact hStart.trans Set.subset_union_left
        · rw [hUnion, ← hEnds]
          exact Set.union_subset_union_left _ hNext
        · obtain ⟨i, hi⟩ := exists_mem_of_ne_zero hSome
          have hLt := card_unseen_or_lt hNewPlaces ⟨i, hi, (hNewSet ▸ hi).2⟩
          omega

/-- What visits to a loop leave behind: the places that have been come to, and what visits from all
of these to the inside of the loop leave behind. -/
theorem Leaves.loop {a : Track} (h : Carries count a.visit R)
    (hPast : Leaves count (Track.loop a count).visit mem M) :
    mem.trail.1.toSet = ends (Star R) M ∧ Leaves count a.visit mem.trail.2 mem.trail.1.toSet := by
  induction hPast with
  | blank =>
      rw [ends_empty]
      exact ⟨toSet_zero, toSet_zero ▸ .blank⟩
  | @visit mem M m _ hPlaces ih =>
      obtain ⟨hSeen, hInner⟩ := ih
      have hFound : mem.trail.1.toSet ∪ m.toSet ⊆ ends (Star R) (M ∪ m.toSet) := by
        rw [hSeen, ends_union]
        exact Set.union_subset_union_right _ subset_ends_star
      have hStart : M ∪ m.toSet ⊆ mem.trail.1.toSet ∪ m.toSet := by
        rw [hSeen]
        exact Set.union_subset_union_left _ subset_ends_star
      have hNext : ends R mem.trail.1.toSet ⊆ mem.trail.1.toSet ∪ m.toSet := by
        rw [hSeen]
        exact ends_ends_star_subset.trans Set.subset_union_left
      have hFuel : (unseen count mem.trail.1).card < count + 1 := by
        refine Nat.lt_succ_of_le ((Finset.card_filter_le _ _).trans_eq ?_)
        exact Finset.card_range count
      have hRounds := around_spec h hInner hPlaces hFound hStart hNext hFuel
      -- The goal shows the rounds only once the visit is unfolded.
      exact hRounds

/-- A loop carries out the repetition: it stops only when a round finds nothing new, and then the
places are closed under a step. -/
theorem Carries.loop {a : Track} (h : Carries count a.visit R) :
    Carries count (Track.loop a count).visit (Star R) where
  lt i j hi := by
    rintro ⟨n, hSteps⟩
    exact (h.copies n).lt i j hi hSteps
  ends_union {mem M m} hPast hPlaces := by
    obtain ⟨hBefore, -⟩ := hPast.loop h
    obtain ⟨hAfter, -⟩ := (hPast.visit hPlaces).loop h
    have hNew : ((Track.loop a count).visit mem m).2 =
        ((Track.loop a count).visit mem m).1.trail.1.without mem.trail.1 := rfl
    rw [hNew, toSet_without, hBefore, hAfter]
    exact Set.union_sdiff_cancel (ends_mono Set.subset_union_left)

end Visit

namespace Expr

open Visit

variable {t : Text}

/-- Places that suit make a leap, over as many characters as a match is wide. -/
theorem carries_suiting {p : Option Char → Text → Bool} {width : Nat} {e : Expr}
    (hSpans : ∀ i j, i ≤ t.length →
      (p (t.take i).getLast? (t.drop i) = true ∧ j = i + width ↔ e.Spans t i j)) :
    Carries (t.length + 1) (Track.leap (suiting p none t) width).visit (e.Spans t) := by
  have hIff : ∀ i j, i < t.length + 1 →
      (i ∈ (suiting p none t).toSet ∧ j = i + width ↔ e.Spans t i j) := by
    intro i j hi
    have hPlace := Nat.le_of_lt_succ hi
    rw [← hSpans i j hPlace, mem_suiting_iff]
    exact and_congr_left fun _ => and_iff_right hPlace
  refine (carries_leap fun i hi => ?_).congr hIff
  obtain ⟨hPlace, -⟩ := mem_suiting_iff.mp hi
  have hSpan := (hIff i (i + width) (Nat.lt_succ_of_le hPlace)).mp ⟨hi, rfl⟩
  exact Nat.lt_succ_of_le (e.spans_forward t i _ hPlace hSpan).2

/-- The track of an expression carries out its spans, by induction on the expression. -/
theorem carries (t : Text) (e : Expr) :
    Carries (t.length + 1) (e.track t).visit (e.Spans t) := by
  induction e with
  | empty => exact carries_suiting fun i j _ => (and_iff_right rfl).trans eq_comm
  | text s => exact carries_suiting fun i j _ => and_congr_left fun _ => List.isPrefixOf_iff_prefix
  | chars s => exact carries_suiting fun i j _ => and_congr_left fun _ => Option.any_eq_true _ _
  | look l => exact carries_suiting fun i j _ => and_congr_right fun _ => eq_comm
  | seq first rest ihFirst ihRest => exact ihFirst.seq ihRest
  | alt first rest ihFirst ihRest => exact ihFirst.alt ihRest
  | times e least most greedy ih =>
      have hForward := e.spans_forward t
      have hCopies := ih.copies (min least (t.length + 1))
      cases most with
      | none =>
          refine (hCopies.seq (a := .copies _ _) ih.loop).congr fun i j hi => ?_
          have hPlace := Nat.le_of_lt_succ hi
          constructor
          · rintro ⟨k, hLeast, more, hMore⟩
            rw [hForward.steps_min_iff hPlace] at hLeast
            exact ⟨more, nofun, steps_add_iff.mpr ⟨k, hLeast, hMore⟩⟩
          · rintro ⟨more, -, hSteps⟩
            obtain ⟨k, hLeast, hMore⟩ := steps_add_iff.mp hSteps
            exact ⟨k, (hForward.steps_min_iff hPlace).mpr hLeast, more, hMore⟩
      | some most =>
          have hMost := ih.upTo (min (most - least) (t.length + 1))
          refine (hCopies.seq (a := .copies _ _) (b := .upTo _ _) hMost).congr fun i j hi => ?_
          have hPlace := Nat.le_of_lt_succ hi
          constructor
          · rintro ⟨k, hLeast, more, hFew, hMore⟩
            rw [hForward.steps_min_iff hPlace] at hLeast
            refine ⟨more, ?_, steps_add_iff.mpr ⟨k, hLeast, hMore⟩⟩
            rintro _ ⟨⟩
            exact Nat.le_trans hFew (Nat.min_le_left _ _)
          · rintro ⟨more, hFew, hSteps⟩
            obtain ⟨k, hLeast, hMore⟩ := steps_add_iff.mp hSteps
            obtain ⟨-, hk⟩ := hForward.steps _ i k hPlace hLeast
            have hBound : min more (t.length + 1) ≤ min (most - least) (t.length + 1) :=
              min_le_min_right _ (hFew most rfl)
            exact ⟨k, (hForward.steps_min_iff hPlace).mpr hLeast, _, hBound,
              (hForward.steps_min_iff hk).mpr hMore⟩
  | group number e ih => exact ih

/-- A pattern is found in a text exactly when it has a match from some place of the text. -/
theorem found_iff {e : Expr} : e.found t = true ↔ ∃ i j, i ≤ t.length ∧ e.Spans t i j := by
  have hPlaces : ∀ i ∈ (all t).toSet, i < t.length + 1 := fun i hi =>
    Nat.lt_succ_of_le (mem_all_iff.mp hi)
  have hEnds := (e.carries t).ends_union .blank hPlaces
  rw [ends_empty, Set.empty_union, Set.empty_union] at hEnds
  have hFound : e.found t = true ↔ (ends (e.Spans t) (all t).toSet).Nonempty := by
    rw [← hEnds, found, decide_eq_true_eq]
    constructor
    · exact exists_mem_of_ne_zero
    · rintro ⟨j, hj⟩ hNone
      rw [hNone, toSet_zero] at hj
      exact hj
  rw [hFound]
  constructor
  · rintro ⟨j, i, hi, hSpan⟩
    exact ⟨i, j, mem_all_iff.mp hi, hSpan⟩
  · rintro ⟨i, j, hi, hSpan⟩
    exact ⟨j, i, mem_all_iff.mpr hi, hSpan⟩

end Expr

end Rubric.Pattern
