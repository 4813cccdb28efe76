import Mathlib.Algebra.Group.Int.Defs
import Mathlib.Algebra.Group.Nat.Even
import Mathlib.Data.List.Induction
import Mathlib.Tactic.Common
import Rubric.Text.Digit

/-! Numerals. An integer has many of them, with leading zeros and with a sign that need not be
there, and one that is shorter than all others. -/
namespace Rubric.Text

def Digits (ds : Text) : Prop :=
  ds ≠ [] ∧ ∀ c ∈ ds, c.isDigit = true

/-- The numerals of an integer: decimal digits, with or without a sign before them. -/
inductive Numeral : Text → Int → Prop where
  | plain {ds : Text} (h : Digits ds) : Numeral ds (Nat.ofDigitChars 10 ds 0)
  | plus {ds : Text} (h : Digits ds) : Numeral ('+' :: ds) (Nat.ofDigitChars 10 ds 0)
  | minus {ds : Text} (h : Digits ds) : Numeral ('-' :: ds) (-Nat.ofDigitChars 10 ds 0)

variable {c : Char} {ds t : Text} {m n : Nat}

theorem digitValue_of_isDigit (h : c.isDigit = true) : digitValue c = c.toNat - '0'.toNat := by
  rw [digitValue, if_pos h]

theorem foldl_digits (h : ∀ c ∈ ds, c.isDigit = true) (n : Nat) :
    ds.foldl (fun n c => n * 10 + digitValue c) n = Nat.ofDigitChars 10 ds n := by
  induction ds generalizing n with
  | nil => rfl
  | cons c ds ih =>
      rw [List.foldl_cons, ih (fun d hd => h d (List.mem_cons_of_mem c hd)), Nat.ofDigitChars_cons,
        digitValue_of_isDigit (h c List.mem_cons_self), Nat.mul_comm]

/-- For decimal digits the number is the one that the library computes from them. -/
theorem number_ten (h : ∀ c ∈ ds, c.isDigit = true) : number 10 ds = Nat.ofDigitChars 10 ds 0 :=
  foldl_digits h 0

/-- A natural number is written in decimal digits. -/
theorem digits_ofNat (n : Nat) : Digits (ofNat n) :=
  ⟨Nat.toDigits_ne_nil, fun _ => Nat.isDigit_of_mem_toDigits (by decide) (by decide)⟩

/-- A written number reads as itself. -/
theorem ofDigitChars_ofNat (n : Nat) : Nat.ofDigitChars 10 (ofNat n) 0 = n :=
  Nat.ofDigitChars_ten_toDigits

theorem digit_sub_lt (h : c.isDigit = true) : c.toNat - '0'.toNat < 10 := by
  have hRange := Char.isDigit_iff_toNat.mp h
  have hNine : '9'.toNat = '0'.toNat + 9 := rfl
  omega

theorem digitChar_sub (h : c.isDigit = true) : Nat.digitChar (c.toNat - '0'.toNat) = c := by
  have hZero : '0'.toNat = 48 := rfl
  have hRange := Char.isDigit_iff_toNat.mp h
  apply Char.toNat_inj.mp
  rw [Nat.toNat_digitChar_of_lt_ten (digit_sub_lt h)]
  omega

/-- Digits stay below the power of ten that belongs to their number. -/
theorem ofDigitChars_lt (h : ∀ c ∈ ds, c.isDigit = true) :
    Nat.ofDigitChars 10 ds 0 < 10 ^ ds.length := by
  induction ds using List.reverseRecOn with
  | nil => simp
  | append_singleton ds c ih =>
      have hFront := ih fun d hd => h d (List.mem_append_left _ hd)
      have hDigit := digit_sub_lt (h c (by simp))
      rw [Nat.ofDigitChars_append, Nat.ofDigitChars_cons, Nat.ofDigitChars_nil, List.length_append,
        List.length_singleton, Nat.pow_succ]
      omega

/-- Digits without a leading zero are those that their number is written with. -/
theorem ofNat_ofDigitChars (h : Digits ds) (hFirst : ds.head? = some '0' → ds.length = 1) :
    ofNat (Nat.ofDigitChars 10 ds 0) = ds := by
  induction ds using List.reverseRecOn with
  | nil => exact absurd rfl h.1
  | append_singleton front c ih =>
      have hDigit := h.2 c (by simp)
      rw [Nat.ofDigitChars_append, Nat.ofDigitChars_cons, Nat.ofDigitChars_nil, ofNat]
      by_cases hFront : front = []
      · subst hFront
        rw [Nat.ofDigitChars_nil, Nat.mul_zero, Nat.zero_add,
          Nat.toDigits_of_lt_base (digit_sub_lt hDigit), digitChar_sub hDigit, List.nil_append]
      · have hHead : front.head? ≠ some '0' := by
          intro hZero
          have hLength := hFirst (by rw [List.head?_append, hZero, Option.some_or])
          rw [List.length_append, List.length_singleton] at hLength
          exact hFront (List.length_eq_zero_iff.mp (by omega))
        have hDigits : ofNat (Nat.ofDigitChars 10 front 0) = front :=
          ih ⟨hFront, fun d hd => h.2 d (List.mem_append_left _ hd)⟩ (absurd · hHead)
        have hPositive : 0 < Nat.ofDigitChars 10 front 0 := by
          refine Nat.pos_of_ne_zero fun hZero => hHead ?_
          rw [← hDigits, hZero]
          rfl
        rw [← Nat.toDigits_append_toDigits (by decide) hPositive (digit_sub_lt hDigit), ← ofNat,
          hDigits, Nat.toDigits_of_lt_base (digit_sub_lt hDigit), digitChar_sub hDigit]

/-- A leading zero makes digits longer than those that their number is written with. -/
theorem length_ofNat_lt (h : ∀ c ∈ ds, c.isDigit = true) (hNe : ds ≠ []) :
    (ofNat (Nat.ofDigitChars 10 ('0' :: ds) 0)).length < ('0' :: ds).length := by
  have hSame : Nat.ofDigitChars 10 ('0' :: ds) 0 = Nat.ofDigitChars 10 ds 0 := rfl
  rw [hSame, List.length_cons, Nat.lt_succ_iff, ofNat,
    Nat.length_toDigits_le_iff (by decide) (List.length_pos_iff.mpr hNe)]
  exact ofDigitChars_lt h

/-- A written number starts with a zero only where it is the zero. -/
theorem head?_ofNat (h : (ofNat n).head? = some '0') : (ofNat n).length = 1 := by
  obtain ⟨ds, hDigits⟩ : ∃ ds, ofNat n = '0' :: ds := List.head?_eq_some_iff.mp h
  by_contra hLength
  have hNe : ds ≠ [] := by
    rintro rfl
    exact hLength (by rw [hDigits, List.length_singleton])
  have hLess := length_ofNat_lt
    (fun c hc => (digits_ofNat n).2 c (hDigits ▸ List.mem_cons_of_mem _ hc)) hNe
  rw [← hDigits, ofDigitChars_ofNat] at hLess
  exact absurd hLess (Nat.lt_irrefl _)

/-- Digits are what their number is written with, or longer. -/
theorem eq_ofNat_or_length_lt (h : Digits ds) : ds = ofNat (Nat.ofDigitChars 10 ds 0) ∨
    (ofNat (Nat.ofDigitChars 10 ds 0)).length < ds.length := by
  by_cases hFirst : ds.head? = some '0' → ds.length = 1
  · exact .inl (ofNat_ofDigitChars h hFirst).symm
  · obtain ⟨hZero, hLength⟩ := Classical.not_imp.mp hFirst
    obtain ⟨rest, rfl⟩ := List.head?_eq_some_iff.mp hZero
    refine .inr (length_ofNat_lt (fun c hc => h.2 c (List.mem_cons_of_mem _ hc)) ?_)
    rintro rfl
    exact hLength rfl

theorem ofInt_natCast (n : Nat) : ofInt n = ofNat n := rfl

/-- A negative number is written as its amount behind a minus. -/
theorem ofInt_neg (h : n ≠ 0) : ofInt (-n) = '-' :: ofNat n := by
  obtain ⟨k, rfl⟩ := Nat.exists_eq_succ_of_ne_zero h
  rfl

/-- The text of an integer is one of its numerals. -/
theorem numeral_ofInt (n : Int) : Numeral (ofInt n) n := by
  cases n with
  | ofNat n =>
      have hNumeral := Numeral.plain (digits_ofNat n)
      rwa [ofDigitChars_ofNat] at hNumeral
  | negSucc n =>
      have hNumeral := Numeral.minus (digits_ofNat (n + 1))
      rwa [ofDigitChars_ofNat] at hNumeral

theorem isBlank_of_isDigit (h : c.isDigit = true) : isBlank c = false := by
  have hZero : '0'.toNat = 48 := rfl
  have hNine : '9'.toNat = 57 := rfl
  have hRange := Char.isDigit_iff_toNat.mp h
  simp only [isBlank, Bool.or_eq_false_iff, Bool.and_eq_false_iff, beq_eq_false_iff_ne,
    decide_eq_false_iff_not]
  omega

/-- The characters of a numeral are digits, but for a sign in front. -/
theorem Numeral.digit_or_sign {n : Int} (h : Numeral t n) (hMem : c ∈ t) :
    c.isDigit = true ∨ c = '-' ∨ c = '+' := by
  cases h with
  | plain hDigits => exact .inl (hDigits.2 c hMem)
  | plus hDigits =>
      rcases List.mem_cons.mp hMem with rfl | hMem
      · exact .inr (.inr rfl)
      · exact .inl (hDigits.2 c hMem)
  | minus hDigits =>
      rcases List.mem_cons.mp hMem with rfl | hMem
      · exact .inr (.inl rfl)
      · exact .inl (hDigits.2 c hMem)

/-- There are no blanks in a numeral. -/
theorem Numeral.isBlank_eq_false {n : Int} (h : Numeral t n) (hMem : c ∈ t) :
    isBlank c = false := by
  rcases h.digit_or_sign hMem with hDigit | rfl | rfl
  · exact isBlank_of_isDigit hDigit
  · rfl
  · rfl

/-- Every numeral of an integer but one is longer than the text of the integer. -/
theorem Numeral.eq_or_length_lt {n : Int} (h : Numeral t n) :
    t = ofInt n ∨ (ofInt n).length < t.length := by
  cases h with
  | plain hDigits => exact eq_ofNat_or_length_lt hDigits
  | @plus ds hDigits =>
      right
      rcases eq_ofNat_or_length_lt hDigits with hSame | hLess
      · rw [ofInt_natCast, ← hSame]
        exact Nat.lt_succ_self _
      · exact Nat.lt_succ_of_lt hLess
  | @minus ds hDigits =>
      by_cases hZero : Nat.ofDigitChars 10 ds 0 = 0
      · right
        have hLength := List.length_pos_iff.mpr hDigits.1
        rw [hZero, List.length_cons]
        change 1 < ds.length + 1
        omega
      · rw [ofInt_neg hZero]
        rcases eq_ofNat_or_length_lt hDigits with hSame | hLess
        · exact .inl (congrArg ('-' :: ·) hSame)
        · exact .inr (Nat.succ_lt_succ hLess)

/-- Digits cannot be mistaken for a sign. -/
theorem not_sign_of_digits (h : Digits ds) : ds.head? ≠ some '-' ∧ ds.head? ≠ some '+' := by
  constructor <;>
  · intro hHead
    obtain ⟨rest, rfl⟩ := List.head?_eq_some_iff.mp hHead
    exact absurd (h.2 _ List.mem_cons_self) (by decide)

/-- The range is that of signed integers of 64 bits. -/
theorem inRange_iff {n : Int} : inRange n = true ↔ -2 ^ 63 ≤ n ∧ n < 2 ^ 63 := by
  have hPow : Int.pow 2 63 = 2 ^ 63 := rfl
  simp only [inRange, hPow, Bool.and_eq_true, decide_eq_true_eq]

theorem digits_iff : (!ds.isEmpty && ds.all Char.isDigit) = true ↔ Digits ds := by
  simp [Digits]

/-- What is read behind a sign, the number of which is given with its sign. -/
def behindSign? (ds : Text) (signed : Int) : Option Int :=
  if !ds.isEmpty && ds.all Char.isDigit && inRange signed then some signed else none

/-- Behind the sign there have to be digits and nothing else, and the number has to be in range. -/
theorem behindSign?_eq_some_iff {n signed : Int} : behindSign? ds signed = some n ↔
    Digits ds ∧ signed = n ∧ -2 ^ 63 ≤ n ∧ n < 2 ^ 63 := by
  rw [behindSign?, Option.ite_none_right_eq_some, Bool.and_eq_true, digits_iff, Option.some.injEq,
    and_assoc, and_congr_right_iff]
  rintro -
  constructor
  · rintro ⟨hRange, rfl⟩
    exact ⟨rfl, inRange_iff.mp hRange⟩
  · rintro ⟨rfl, hRange⟩
    exact ⟨inRange_iff.mpr hRange, rfl⟩

theorem readInt?_plus (ds : Text) : readInt? ('+' :: ds) = behindSign? ds (number 10 ds) := rfl

theorem readInt?_minus (ds : Text) : readInt? ('-' :: ds) = behindSign? ds (-number 10 ds) := rfl

/-- What has no sign in front is read like what has a plus. -/
theorem readInt?_plain (hMinus : t.head? ≠ some '-') (hPlus : t.head? ≠ some '+') :
    readInt? t = behindSign? t (number 10 t) := by
  cases t with
  | nil => rfl
  | cons c ds =>
      rw [List.head?_cons, ne_eq, Option.some.injEq] at hMinus hPlus
      rw [readInt?.eq_def, behindSign?]
      simp [hMinus, hPlus]

/-- What is read as an integer is a numeral of an integer in range. -/
theorem readInt?_eq_some_iff {n : Int} :
    readInt? t = some n ↔ Numeral t n ∧ -2 ^ 63 ≤ n ∧ n < 2 ^ 63 := by
  constructor
  · intro h
    by_cases hMinus : t.head? = some '-'
    · obtain ⟨ds, rfl⟩ := List.head?_eq_some_iff.mp hMinus
      rw [readInt?_minus, behindSign?_eq_some_iff] at h
      obtain ⟨hDigits, rfl, hRange⟩ := h
      rw [number_ten hDigits.2] at hRange ⊢
      exact ⟨.minus hDigits, hRange⟩
    · by_cases hPlus : t.head? = some '+'
      · obtain ⟨ds, rfl⟩ := List.head?_eq_some_iff.mp hPlus
        rw [readInt?_plus, behindSign?_eq_some_iff] at h
        obtain ⟨hDigits, rfl, hRange⟩ := h
        rw [number_ten hDigits.2] at hRange ⊢
        exact ⟨.plus hDigits, hRange⟩
      · rw [readInt?_plain hMinus hPlus, behindSign?_eq_some_iff] at h
        obtain ⟨hDigits, rfl, hRange⟩ := h
        rw [number_ten hDigits.2] at hRange ⊢
        exact ⟨.plain hDigits, hRange⟩
  · rintro ⟨hNumeral, hRange⟩
    cases hNumeral with
    | plain hDigits =>
        obtain ⟨hMinus, hPlus⟩ := not_sign_of_digits hDigits
        rw [readInt?_plain hMinus hPlus, behindSign?_eq_some_iff, number_ten hDigits.2]
        exact ⟨hDigits, rfl, hRange⟩
    | plus hDigits =>
        rw [readInt?_plus, behindSign?_eq_some_iff, number_ten hDigits.2]
        exact ⟨hDigits, rfl, hRange⟩
    | minus hDigits =>
        rw [readInt?_minus, behindSign?_eq_some_iff, number_ten hDigits.2]
        exact ⟨hDigits, rfl, hRange⟩

end Rubric.Text
