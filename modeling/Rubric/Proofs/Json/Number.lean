import Rubric.Json.Reader
import Rubric.Proofs.Text.Numeral

/-! Integers in JSON. A number is read as an integer exactly where its text is the shortest one of
an integer from the least with a sign to the greatest without in 64 bits. A fraction, an exponent, a
minus before a zero and every other size make a floating-point number of it, or none at all. -/
namespace Rubric.Json

/-- A text that does not go on with a number that stands before it. -/
def Ends (rest : Text) : Prop :=
  ∀ c, rest.head? = some c → c.isDigit = false ∧ c ≠ '.' ∧ c ≠ 'e' ∧ c ≠ 'E'

/-- The integers that are read as such. -/
def Whole (n : Int) : Prop :=
  -2 ^ 63 ≤ n ∧ n < 2 ^ 64

/-- An integer of this size that is read behind a minus or behind none. -/
inductive Signed : Bool → Nat → Int → Prop where
  | plain {k : Nat} (hBound : k < 2 ^ 64) : Signed false k k
  | minus {k : Nat} (hZero : k ≠ 0) (hBound : k ≤ 2 ^ 63) : Signed true k (-k)

variable {c : Char} {ds t rest : Text} {n count m k : Nat} {negative : Bool} {number : JsonNumber}

theorem ends_nil : Ends [] := by
  simp [Ends]

theorem Ends.takeWhile (h : Ends rest) : rest.takeWhile Char.isDigit = [] := by
  cases rest with
  | nil => rfl
  | cons c rest => rw [List.takeWhile_cons, (h c rfl).1, if_neg (by simp)]

theorem Ends.dropWhile (h : Ends rest) : rest.dropWhile Char.isDigit = rest := by
  cases rest with
  | nil => rfl
  | cons c rest => rw [List.dropWhile_cons, (h c rfl).1, if_neg (by simp)]

theorem gatherBound_eq : gatherBound = 2 ^ 64 := rfl

/-- Digits whose number stays below the bound are gathered as a whole. -/
theorem gather_append (hDigits : ∀ c ∈ ds, c.isDigit = true) (hEnds : Ends rest)
    (hBound : Nat.ofDigitChars 10 ds n < 2 ^ 64) :
    gather n count (ds ++ rest) = (Nat.ofDigitChars 10 ds n, count + ds.length, rest) := by
  induction ds generalizing n count with
  | nil =>
      cases rest with
      | nil => rfl
      | cons c rest => simp [gather, (hEnds c rfl).1]
  | cons c ds ih =>
      have hDigit := hDigits c List.mem_cons_self
      rw [Nat.ofDigitChars_cons, Nat.mul_comm] at hBound
      have hNext : n * 10 + (c.toNat - '0'.toNat) < 2 ^ 64 := by
        refine Nat.lt_of_le_of_lt ?_ hBound
        rw [Nat.ofDigitChars_eq_ofDigitChars_zero]
        have hPower : 0 < 10 ^ ds.length := Nat.pow_pos (by decide)
        exact Nat.le_add_right_of_le (Nat.le_mul_of_pos_left _ hPower)
      rw [List.cons_append, gather, Text.digitValue_of_isDigit hDigit, gatherBound_eq]
      simp only [hDigit, hNext, decide_true, Bool.and_self, if_true]
      rw [ih (fun d hd => hDigits d (List.mem_cons_of_mem c hd)) hBound, Nat.ofDigitChars_cons,
        List.length_cons, Nat.mul_comm n 10]
      congr 2
      omega

/-- What is gathered are digits, and their number is below the bound. -/
theorem exists_of_gather (hBound : n < 2 ^ 64) (h : gather n count t = (m, k, rest)) :
    ∃ ds, t = ds ++ rest ∧ (∀ c ∈ ds, c.isDigit = true) ∧ m = Nat.ofDigitChars 10 ds n ∧
      m < 2 ^ 64 := by
  induction t generalizing n count with
  | nil =>
      obtain ⟨rfl, -, rfl⟩ : n = m ∧ count = k ∧ [] = rest := by simpa [gather] using h
      exact ⟨[], rfl, by simp, rfl, hBound⟩
  | cons c t ih =>
      rw [gather] at h
      split at h
      next hNext =>
        obtain ⟨hDigit, hNext⟩ : c.isDigit = true ∧ n * 10 + Text.digitValue c < gatherBound := by
          simpa using hNext
        obtain ⟨ds, rfl, hDigits, rfl, hLess⟩ := ih hNext h
        refine ⟨c :: ds, rfl, by simpa [hDigit] using hDigits, ?_, hLess⟩
        rw [Nat.ofDigitChars_cons, Text.digitValue_of_isDigit hDigit, Nat.mul_comm]
      next =>
        obtain ⟨rfl, -, rfl⟩ : n = m ∧ count = k ∧ c :: t = rest := by simpa using h
        exact ⟨[], rfl, by simp, rfl, hBound⟩

def IsFloat (number : JsonNumber) : Prop :=
  ∃ x, number = .float x

/-- A number with a fraction or an exponent is never read as an integer. -/
theorem isFloat_of_float? {exponent : Int} (h : float? negative n exponent = some number) :
    IsFloat number := by
  obtain ⟨start, -, h⟩ := Option.bind_eq_some_iff.mp h
  obtain ⟨x, -, h⟩ := Option.bind_eq_some_iff.mp h
  exact ⟨_, (Option.some.inj h).symm⟩

theorem isFloat_of_map_float? {exponent : Int} {after : Text}
    (h : (float? negative n exponent).map (·, after) = some (number, rest)) : IsFloat number := by
  obtain ⟨found, hFound, hSame⟩ := Option.map_eq_some_iff.mp h
  obtain ⟨rfl, -⟩ := Prod.mk.inj hSame
  exact isFloat_of_float? hFound

theorem isFloat_of_readExponent {start : Int}
    (h : readExponent negative n start t = some (number, rest)) : IsFloat number := by
  rw [readExponent.eq_def] at h
  split at h
  dsimp only at h
  split at h
  next => cases h
  next =>
    split at h
    next =>
      split at h
      next => cases h
      next => exact ⟨_, (Prod.mk.inj (Option.some.inj h)).1.symm⟩
    next => exact isFloat_of_map_float? h

theorem isFloat_of_readFraction {exponent : Int}
    (h : readFraction negative n exponent t = some (number, rest)) : IsFloat number := by
  rw [readFraction] at h
  split at h
  next =>
    split at h
    next => cases h
    next =>
      rw [finishFloat.eq_def] at h
      split at h
      next => exact isFloat_of_readExponent h
      next => exact isFloat_of_readExponent h
      next => exact isFloat_of_map_float? h

/-- The decimal digits of a number are read as a number as a whole. A minus makes a floating-point
number of a zero and of what is too large. -/
theorem readNumber_ofNat (hBound : k < 2 ^ 64) (hEnds : Ends rest) :
    readNumber negative (Text.ofNat k ++ rest) =
      if negative = true ∧ (k = 0 ∨ 2 ^ 63 < k) then (float? true k 0).map (·, rest)
      else some (.int (if negative then -k else k), rest) := by
  have hDigits := Text.digits_ofNat k
  have hGather : gather 0 0 (Text.ofNat k ++ rest) = (k, (Text.ofNat k).length, rest) := by
    have hAll : gather 0 0 (Text.ofNat k ++ rest) =
        (Nat.ofDigitChars 10 (Text.ofNat k) 0, 0 + (Text.ofNat k).length, rest) :=
      gather_append hDigits.2 hEnds (by rwa [Text.ofDigitChars_ofNat])
    rwa [Text.ofDigitChars_ofNat, Nat.zero_add] at hAll
  obtain ⟨c, ds, hCons⟩ := List.exists_cons_of_ne_nil hDigits.1
  have hDigit : c.isDigit = true := hDigits.2 c (by simp [hCons])
  have hLeading : (c == '0' && (ds ++ rest).head?.any Char.isDigit) = false := by
    by_cases hZero : c = '0'
    · subst hZero
      have hLength := Text.head?_ofNat (by rw [hCons, List.head?_cons])
      obtain rfl : ds = [] := by simpa [hCons] using hLength
      cases rest with
      | nil => rfl
      | cons d rest => simp [(hEnds d rfl).1]
    · simp [hZero]
  rw [hCons, List.cons_append] at hGather ⊢
  rw [readNumber.eq_def]
  simp only [hDigit, hLeading, hGather, hEnds.takeWhile, hEnds.dropWhile, Bool.not_true,
    Bool.false_eq_true, if_false, List.length_nil]
  split
  next after => exact absurd rfl (hEnds '.' rfl).2.1
  next after => exact absurd rfl (hEnds 'e' rfl).2.2.1
  next after => exact absurd rfl (hEnds 'E' rfl).2.2.2
  next => cases negative <;> simp

/-- A number ends where neither a digit nor one of the three marks that carry it on follows. -/
theorem ends_of_takeWhile (hDigits : rest.takeWhile Char.isDigit = [])
    (hPoint : ∀ after, rest ≠ '.' :: after) (hSmall : ∀ after, rest ≠ 'e' :: after)
    (hLarge : ∀ after, rest ≠ 'E' :: after) : Ends rest := by
  intro c hHead
  obtain ⟨after, rfl⟩ := List.head?_eq_some_iff.mp hHead
  have hDigit : c.isDigit = false := by
    by_contra hDigit
    rw [List.takeWhile_cons_of_pos (by simpa using hDigit)] at hDigits
    cases hDigits
  refine ⟨hDigit, ?_, ?_, ?_⟩ <;> rintro rfl
  · exact hPoint after rfl
  · exact hSmall after rfl
  · exact hLarge after rfl

/-- Where a number may start, its digits do not start with a zero, unless it is all of them. -/
theorem digits_of_start {tail left : Text} (hSplit : c :: tail = ds ++ left)
    (hDigit : c.isDigit = true) (hLeading : ¬(c == '0' && tail.head?.any Char.isDigit) = true)
    (hDigits : ∀ c ∈ ds, c.isDigit = true) (hLeft : left.takeWhile Char.isDigit = []) :
    Text.Digits ds ∧ (ds.head? = some '0' → ds.length = 1) := by
  cases ds with
  | nil =>
      obtain rfl : c :: tail = left := hSplit
      simp [hDigit] at hLeft
  | cons d ds =>
      obtain ⟨rfl, rfl⟩ := List.cons.inj hSplit
      refine ⟨⟨List.cons_ne_nil _ _, hDigits⟩, fun hZero => ?_⟩
      obtain rfl : c = '0' := Option.some.inj hZero
      cases ds with
      | nil => rfl
      | cons d ds => exact absurd (by simp [hDigits d (by simp)]) hLeading

/-- What is read as an integer are digits without a leading zero, and no number goes on behind
them. -/
theorem exists_of_readNumber_int {n : Int} (h : readNumber negative t = some (.int n, rest)) :
    ∃ ds, t = ds ++ rest ∧ Text.Digits ds ∧ (ds.head? = some '0' → ds.length = 1) ∧ Ends rest ∧
      Signed negative (Nat.ofDigitChars 10 ds 0) n := by
  have hNotFloat : ¬IsFloat (.int n) := by simp [IsFloat]
  -- Of the ways through the reader all but two end with a floating-point number.
  rw [readNumber.eq_def] at h
  split at h
  next => cases h
  next c tail =>
    split at h
    next => cases h
    next hDigit =>
      split at h
      next => cases h
      next hLeading =>
        split at h
        next k count left hGather =>
          dsimp only at h
          obtain ⟨ds, hSplit, hDigits, rfl, hBound⟩ := exists_of_gather (by decide) hGather
          split at h
          next => exact absurd (isFloat_of_readFraction h) hNotFloat
          next => exact absurd (isFloat_of_readExponent h) hNotFloat
          next => exact absurd (isFloat_of_readExponent h) hNotFloat
          next hPoint hSmall hLarge =>
            split at h
            next => exact absurd (isFloat_of_map_float? h) hNotFloat
            next hExcess =>
              have hNone : left.takeWhile Char.isDigit = [] :=
                List.length_eq_zero_iff.mp (Nat.eq_zero_of_not_pos hExcess)
              have hLeft : left.dropWhile Char.isDigit = left := by
                have hAll := List.takeWhile_append_dropWhile (p := Char.isDigit) (l := left)
                rwa [hNone, List.nil_append] at hAll
              rw [hLeft] at h hPoint hSmall hLarge
              obtain ⟨hAll, hFirst⟩ :=
                digits_of_start hSplit (by simpa using hDigit) hLeading hDigits hNone
              have hEnds : Ends left := ends_of_takeWhile hNone hPoint hSmall hLarge
              cases negative with
              | false =>
                  obtain ⟨rfl, rfl⟩ : _ = n ∧ left = rest := by simpa using h
                  exact ⟨ds, hSplit, hAll, hFirst, hEnds, .plain hBound⟩
              | true =>
                  split at h
                  next hSign => cases hSign
                  next =>
                    split at h
                    next => exact absurd (isFloat_of_map_float? h) hNotFloat
                    next hRange =>
                      obtain ⟨rfl, rfl⟩ : _ = n ∧ left = rest := by simpa using h
                      have hPow : Nat.pow 2 63 = 2 ^ 63 := rfl
                      simp only [hPow, Bool.or_eq_true, decide_eq_true_eq, not_or,
                        Nat.not_lt] at hRange
                      exact ⟨ds, hSplit, hAll, hFirst, hEnds, .minus hRange.1 hRange.2⟩

/-- An integer is read from the text of its size alone, and from all of it. -/
theorem readNumber_eq_int_iff {n : Int} :
    readNumber negative t = some (.int n, rest) ↔
      ∃ k, t = Text.ofNat k ++ rest ∧ Ends rest ∧ Signed negative k n := by
  constructor
  · intro h
    obtain ⟨ds, rfl, hDigits, hFirst, hEnds, hSigned⟩ := exists_of_readNumber_int h
    exact ⟨_, by rw [Text.ofNat_ofDigitChars hDigits hFirst], hEnds, hSigned⟩
  · rintro ⟨k, rfl, hEnds, hSigned⟩
    cases hSigned with
    | plain hBound => rw [readNumber_ofNat hBound hEnds, if_neg (by simp), if_neg (by simp)]
    | minus hZero hBound =>
        have hFits : ¬(true = true ∧ (k = 0 ∨ 2 ^ 63 < k)) := by omega
        rw [readNumber_ofNat (by omega) hEnds, if_neg hFits, if_pos rfl]

/-- The integers that are printed whole are those that a sign and digits within the bound spell. -/
theorem whole_iff {n : Int} : Whole n ↔ ∃ negative k, Signed negative k n := by
  rw [Whole]
  constructor
  · rintro ⟨hLow, hHigh⟩
    by_cases hSign : 0 ≤ n
    · have hSigned : Signed false n.toNat n.toNat := .plain (by omega)
      rw [Int.toNat_of_nonneg hSign] at hSigned
      exact ⟨_, _, hSigned⟩
    · have hSigned : Signed true (-n).toNat (-(-n).toNat) := .minus (by omega) (by omega)
      rw [Int.toNat_of_nonneg (by omega), Int.neg_neg] at hSigned
      exact ⟨_, _, hSigned⟩
  · rintro ⟨negative, k, hSigned⟩
    cases hSigned <;> omega

/-- An integer is printed as its sign and the digits of its absolute value. -/
theorem Signed.ofInt_eq {n : Int} (h : Signed negative k n) :
    Text.ofInt n = if negative then '-' :: Text.ofNat k else Text.ofNat k := by
  cases h with
  | plain => rfl
  | minus hZero => exact Text.ofInt_neg hZero

end Rubric.Json
