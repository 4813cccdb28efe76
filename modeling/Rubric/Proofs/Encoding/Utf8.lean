import Rubric.Encoding.Utf8
import Rubric.Proofs.Encoding.Reading

/-! UTF-8 read back. Two, three or four bytes are read as a character exactly when they are the ones
that the character is written with, so a text is read from its own bytes and from no others. The
bytes that can be read are those of the table of well-formed bytes. -/
namespace Rubric

theorem Text.charOf?_eq_some_iff {n : Nat} {c : Char} : charOf? n = some c ↔ c.toNat = n := by
  have hIff : (n < 0xD800 || (0xE000 ≤ n && n ≤ 0x10FFFF)) = true ↔ n.isValidChar := by
    simp [Nat.isValidChar]
    omega
  rw [charOf?]
  split
  next hValid =>
    have hNumber : (Char.ofNat n).toNat = n := by
      rw [Char.ofNat, dif_pos (hIff.mp hValid)]
      rfl
    rw [Option.some.injEq, ← Char.toNat_inj, hNumber, eq_comm]
  next hInvalid =>
    refine ⟨fun h => (nomatch h), ?_⟩
    rintro rfl
    exact absurd (hIff.mpr c.valid) hInvalid

theorem ofNat_eq_iff {n : Nat} {a : UInt8} : UInt8.ofNat n = a ↔ n % 256 = a.toNat := by
  rw [← UInt8.toNat_inj, UInt8.toNat_ofNat']

/-- All numbers up to the last character are characters, but for the halves of pairs. -/
theorem Text.exists_toNat_eq {n : Nat} (h : n < 0xD800 ∨ 0xE000 ≤ n ∧ n ≤ 0x10FFFF) :
    ∃ c : Char, c.toNat = n :=
  ⟨_, charOf?_eq_some_iff.mp (if_pos (by simpa using h))⟩

namespace Utf8

def Between (low high : Nat) (b : UInt8) : Prop :=
  low ≤ b.toNat ∧ b.toNat ≤ high

/-- A byte may stand second behind a first one. Behind four first bytes some would make a form that
is too long, a surrogate or a number that is too large. -/
structure Second (a b : UInt8) : Prop where
  isTail : Between 0x80 0xBF b
  of_E0 : a.toNat = 0xE0 → 0xA0 ≤ b.toNat
  of_ED : a.toNat = 0xED → b.toNat ≤ 0x9F
  of_F0 : a.toNat = 0xF0 → 0x90 ≤ b.toNat
  of_F4 : a.toNat = 0xF4 → b.toNat ≤ 0x8F

/-- The well-formed bytes of one character. -/
inductive IsCharacter : Bytes → Prop where
  | one {a : UInt8} (ha : Between 0x00 0x7F a) : IsCharacter [a]
  | two {a b : UInt8} (ha : Between 0xC2 0xDF a) (hb : Between 0x80 0xBF b) : IsCharacter [a, b]
  | three {a b c : UInt8} (ha : Between 0xE0 0xEF a) (hb : Second a b) (hc : Between 0x80 0xBF c) :
      IsCharacter [a, b, c]
  | four {a b c d : UInt8} (ha : Between 0xF0 0xF4 a) (hb : Second a b)
      (hc : Between 0x80 0xBF c) (hd : Between 0x80 0xBF d) : IsCharacter [a, b, c, d]

/-- Bytes that are well-formed bytes of characters, one behind the other. -/
inductive WellFormed : Bytes → Prop where
  | nil : WellFormed []
  | append {first rest : Bytes} (hFirst : IsCharacter first) (hRest : WellFormed rest) :
      WellFormed (first ++ rest)

variable {x : Char} {t : Text} {bytes rest : Bytes}

/-- Bytes behind the first one of a character have a range of their own, so none of them starts a
character. -/
theorem isTail_iff {b : UInt8} : isTail b = true ↔ 0x80 ≤ b.toNat ∧ b.toNat < 0xC0 := by
  simp [isTail]

theorem tail_eq_iff {n : Nat} {b : UInt8} : tail n = b ↔ b.toNat = 0x80 + n % 64 := by
  rw [tail, ofNat_eq_iff]
  omega

/-- The number of a character decides on the number of its bytes. -/
theorem encodeChar_cases (x : Char) :
    (x.toNat < 0x80 ∧ encodeChar x = [.ofNat x.toNat]) ∨
    (0x80 ≤ x.toNat ∧ x.toNat < 0x800 ∧
      encodeChar x = [.ofNat (0xC0 + x.toNat / 64), tail x.toNat]) ∨
    (0x800 ≤ x.toNat ∧ x.toNat < 0x10000 ∧
      encodeChar x = [.ofNat (0xE0 + x.toNat / 4096), tail (x.toNat / 64), tail x.toNat]) ∨
    (0x10000 ≤ x.toNat ∧ encodeChar x = [.ofNat (0xF0 + x.toNat / 262144),
      tail (x.toNat / 4096), tail (x.toNat / 64), tail x.toNat]) := by
  rw [encodeChar]
  split
  next h => exact .inl ⟨h, rfl⟩
  next hOne =>
    split
    next h => exact .inr (.inl ⟨by omega, h, rfl⟩)
    next hTwo =>
      split
      next h => exact .inr (.inr (.inl ⟨by omega, h, rfl⟩))
      next h => exact .inr (.inr (.inr ⟨by omega, rfl⟩))

/-- Two bytes are read as the character that is written as them. An overlong form is no such
writing. -/
theorem pair?_eq_some_iff {a b : UInt8} : pair? a b = some x ↔ encodeChar x = [a, b] := by
  have hb := b.toNat_lt
  unfold pair? low
  simp only [Option.ite_none_right_eq_some, Text.charOf?_eq_some_iff, Bool.and_eq_true,
    isTail_iff, decide_eq_true_eq]
  rcases encodeChar_cases x with ⟨hx, h⟩ | ⟨hLow, hHigh, h⟩ | ⟨hLow, hHigh, h⟩ | ⟨hLow, h⟩
  on_goal 2 =>
    simp only [h, List.cons.injEq, and_true, ofNat_eq_iff, tail_eq_iff]
    constructor
    · rintro ⟨⟨⟨hFirst, hb⟩, hLeast⟩, hNumber⟩
      omega
    · rintro ⟨ha, hb⟩
      omega
  all_goals
    simp only [h, List.cons.injEq, reduceCtorEq, and_false, iff_false]
    omega

/-- The same for three bytes, where halves of pairs are refused as well. -/
theorem triple?_eq_some_iff {a b c : UInt8} :
    triple? a b c = some x ↔ encodeChar x = [a, b, c] := by
  have hb := b.toNat_lt
  have hc := c.toNat_lt
  unfold triple? low
  simp only [Option.ite_none_right_eq_some, Text.charOf?_eq_some_iff, Bool.and_eq_true,
    isTail_iff, decide_eq_true_eq]
  rcases encodeChar_cases x with ⟨hx, h⟩ | ⟨hLow, hHigh, h⟩ | ⟨hLow, hHigh, h⟩ | ⟨hLow, h⟩
  on_goal 3 =>
    simp only [h, List.cons.injEq, and_true, ofNat_eq_iff, tail_eq_iff]
    constructor
    · rintro ⟨⟨⟨⟨hFirst, hb⟩, hc⟩, hLeast⟩, hNumber⟩
      omega
    · rintro ⟨ha, hb, hc⟩
      omega
  all_goals
    simp only [h, List.cons.injEq, reduceCtorEq, and_false, iff_false]
    omega

/-- The same for four bytes, where numbers above the last character are refused as well. -/
theorem quadruple?_eq_some_iff {a b c d : UInt8} :
    quadruple? a b c d = some x ↔ encodeChar x = [a, b, c, d] := by
  have hx : x.toNat < 0xD800 ∨ 0xDFFF < x.toNat ∧ x.toNat < 0x110000 := x.valid
  unfold quadruple? low
  simp only [Option.ite_none_right_eq_some, Text.charOf?_eq_some_iff, Bool.and_eq_true,
    isTail_iff, decide_eq_true_eq]
  rcases encodeChar_cases x with ⟨hx, h⟩ | ⟨hLow, hHigh, h⟩ | ⟨hLow, hHigh, h⟩ | ⟨hLow, h⟩
  on_goal 4 =>
    simp only [h, List.cons.injEq, and_true, ofNat_eq_iff, tail_eq_iff]
    constructor
    · rintro ⟨⟨⟨⟨⟨hFirst, hb⟩, hc⟩, hd⟩, hLeast⟩, hNumber⟩
      omega
    · rintro ⟨ha, hb, hc, hd⟩
      omega
  all_goals
    simp only [h, List.cons.injEq, reduceCtorEq, and_false, iff_false]
    omega

/-- The bytes of a character are read back, whatever follows. -/
theorem decode?_encodeChar_append :
    decode? (encodeChar x ++ rest) = (decode? rest).map (x :: ·) := by
  have hValid : x.toNat < 0xD800 ∨ 0xDFFF < x.toNat ∧ x.toNat < 0x110000 := x.valid
  rcases encodeChar_cases x with ⟨hx, h⟩ | ⟨hLow, hHigh, h⟩ | ⟨hLow, hHigh, h⟩ | ⟨hLow, h⟩
  · have hByte : (UInt8.ofNat x.toNat).toNat = x.toNat := by
      rw [UInt8.toNat_ofNat']
      omega
    rw [h, List.singleton_append, decode?.eq_def]
    simp only [hByte]
    rw [if_pos hx, Char.ofNat_toNat]
  · have hByte : (UInt8.ofNat (0xC0 + x.toNat / 64)).toNat = 0xC0 + x.toNat / 64 := by
      rw [UInt8.toNat_ofNat']
      omega
    have hPair := pair?_eq_some_iff.mpr h
    rw [h, List.cons_append, List.singleton_append, decode?.eq_def]
    simp only [hByte, hPair]
    rw [if_neg (by omega), if_pos (by omega)]
    rfl
  · have hByte : (UInt8.ofNat (0xE0 + x.toNat / 4096)).toNat = 0xE0 + x.toNat / 4096 := by
      rw [UInt8.toNat_ofNat']
      omega
    have hTriple := triple?_eq_some_iff.mpr h
    rw [h, List.cons_append, List.cons_append, List.singleton_append, decode?.eq_def]
    simp only [hByte, hTriple]
    rw [if_neg (by omega), if_neg (by omega), if_pos (by omega)]
    rfl
  · have hByte : (UInt8.ofNat (0xF0 + x.toNat / 262144)).toNat = 0xF0 + x.toNat / 262144 := by
      rw [UInt8.toNat_ofNat']
      omega
    have hQuadruple := quadruple?_eq_some_iff.mpr h
    rw [h, List.cons_append, List.cons_append, List.cons_append, List.singleton_append,
      decode?.eq_def]
    simp only [hByte, hQuadruple]
    rw [if_neg (by omega), if_neg (by omega), if_neg (by omega)]
    rfl

/-- What can be read begins with the bytes of a character. -/
theorem exists_of_decode?_cons {a : UInt8} (h : decode? (a :: rest) = some t) :
    ∃ x later u, encodeChar x ++ later = a :: rest ∧ decode? later = some u ∧ t = x :: u := by
  rw [decode?.eq_def] at h
  simp only at h
  split at h
  next hOne =>
    obtain ⟨u, hu, rfl⟩ := Option.map_eq_some_iff.mp h
    have hNumber : (Char.ofNat a.toNat).toNat = a.toNat :=
      Text.charOf?_eq_some_iff.mp (by rw [Text.charOf?, if_pos (by simp; omega)])
    have hBytes : encodeChar (Char.ofNat a.toNat) = [a] := by
      rw [encodeChar]
      simp [hNumber, hOne]
    exact ⟨_, rest, u, by rw [hBytes]; rfl, hu, rfl⟩
  next =>
    split at h
    next =>
      split at h
      next b later =>
        obtain ⟨x, hx, h⟩ := Option.bind_eq_some_iff.mp h
        obtain ⟨u, hu, rfl⟩ := Option.map_eq_some_iff.mp h
        exact ⟨x, later, u, by rw [pair?_eq_some_iff.mp hx]; rfl, hu, rfl⟩
      next => cases h
    next =>
      split at h
      next =>
        split at h
        next b c later =>
          obtain ⟨x, hx, h⟩ := Option.bind_eq_some_iff.mp h
          obtain ⟨u, hu, rfl⟩ := Option.map_eq_some_iff.mp h
          exact ⟨x, later, u, by rw [triple?_eq_some_iff.mp hx]; rfl, hu, rfl⟩
        next => cases h
      next =>
        split at h
        next b c d later =>
          obtain ⟨x, hx, h⟩ := Option.bind_eq_some_iff.mp h
          obtain ⟨u, hu, rfl⟩ := Option.map_eq_some_iff.mp h
          exact ⟨x, later, u, by rw [quadruple?_eq_some_iff.mp hx]; rfl, hu, rfl⟩
        next => cases h

/-- Reading bytes undoes writing characters, and accepts nothing else. -/
theorem readsBack : ReadsBack (fun _ => True) decode? encodeChar where
  nil := rfl
  write_append _ _ := decode?_encodeChar_append
  exists_write _ _ _ _ h := exists_of_decode?_cons h

/-- Bytes decode to a text exactly where the text is encoded as these bytes. -/
theorem decode?_eq_some_iff : decode? bytes = some t ↔ encode t = bytes :=
  readsBack.eq_some_iff fun _ _ => trivial

theorem between_tail (n : Nat) : Between 0x80 0xBF (tail n) := by
  simp only [Between, tail, UInt8.toNat_ofNat']
  omega

/-- The bytes of a character are one of the well-formed sequences. -/
theorem isCharacter_encodeChar (x : Char) : IsCharacter (encodeChar x) := by
  have hValid : x.toNat < 0xD800 ∨ 0xDFFF < x.toNat ∧ x.toNat < 0x110000 := x.valid
  rcases encodeChar_cases x with ⟨hx, h⟩ | ⟨hLow, hHigh, h⟩ | ⟨hLow, hHigh, h⟩ | ⟨hLow, h⟩
  · rw [h]
    refine .one ?_
    simp only [Between, UInt8.toNat_ofNat']
    omega
  · rw [h]
    refine .two ?_ (between_tail _)
    simp only [Between, UInt8.toNat_ofNat']
    omega
  · rw [h]
    refine .three ?_ ⟨between_tail _, ?_, ?_, ?_, ?_⟩ (between_tail _)
    all_goals
      simp only [Between, tail, UInt8.toNat_ofNat']
      omega
  · rw [h]
    refine .four ?_ ⟨between_tail _, ?_, ?_, ?_, ?_⟩ (between_tail _) (between_tail _)
    all_goals
      simp only [Between, tail, UInt8.toNat_ofNat']
      omega

/-- Each of the well-formed sequences is the bytes of a character. -/
theorem exists_encodeChar_eq (h : IsCharacter bytes) : ∃ x, encodeChar x = bytes := by
  cases h with
  | @one a ha =>
      obtain ⟨-, ha⟩ := ha
      obtain ⟨x, hx⟩ := Text.exists_toNat_eq (n := a.toNat) (by omega)
      refine ⟨x, ?_⟩
      rcases encodeChar_cases x with ⟨-, h⟩ | ⟨hLow, -⟩ | ⟨hLow, -⟩ | ⟨hLow, -⟩
      · rw [h, hx, UInt8.ofNat_toNat]
      all_goals omega
  | @two a b ha hb =>
      obtain ⟨ha, ha'⟩ := ha
      obtain ⟨hb, hb'⟩ := hb
      obtain ⟨x, hx⟩ := Text.exists_toNat_eq (n := (a.toNat - 0xC0) * 64 + (b.toNat - 0x80))
        (by omega)
      refine ⟨x, pair?_eq_some_iff.mp ?_⟩
      unfold pair? low
      rw [← hx, if_pos, Text.charOf?_eq_some_iff]
      simp only [Bool.and_eq_true, isTail_iff, decide_eq_true_eq]
      omega
  | @three a b c ha hb hc =>
      obtain ⟨ha, ha'⟩ := ha
      obtain ⟨⟨hb, hb'⟩, hE0, hED, -, -⟩ := hb
      obtain ⟨hc, hc'⟩ := hc
      obtain ⟨x, hx⟩ := Text.exists_toNat_eq
        (n := (a.toNat - 0xE0) * 4096 + (b.toNat - 0x80) * 64 + (c.toNat - 0x80)) (by omega)
      refine ⟨x, triple?_eq_some_iff.mp ?_⟩
      unfold triple? low
      rw [← hx, if_pos, Text.charOf?_eq_some_iff]
      simp only [Bool.and_eq_true, isTail_iff, decide_eq_true_eq]
      omega
  | @four a b c d ha hb hc hd =>
      obtain ⟨ha, ha'⟩ := ha
      obtain ⟨⟨hb, hb'⟩, -, -, hF0, hF4⟩ := hb
      obtain ⟨hc, hc'⟩ := hc
      obtain ⟨hd, hd'⟩ := hd
      obtain ⟨x, hx⟩ := Text.exists_toNat_eq (n := (a.toNat - 0xF0) * 262144 +
        (b.toNat - 0x80) * 4096 + (c.toNat - 0x80) * 64 + (d.toNat - 0x80)) (by omega)
      refine ⟨x, quadruple?_eq_some_iff.mp ?_⟩
      unfold quadruple? low
      rw [← hx, if_pos, Text.charOf?_eq_some_iff]
      simp only [Bool.and_eq_true, isTail_iff, decide_eq_true_eq]
      omega

/-- The well-formed bytes are those of texts. -/
theorem wellFormed_iff : WellFormed bytes ↔ ∃ t, encode t = bytes := by
  constructor
  · intro h
    induction h with
    | nil => exact ⟨[], rfl⟩
    | append hFirst _ ih =>
        obtain ⟨x, rfl⟩ := exists_encodeChar_eq hFirst
        obtain ⟨t, rfl⟩ := ih
        exact ⟨x :: t, List.flatMap_cons⟩
  · rintro ⟨t, rfl⟩
    induction t with
    | nil => exact .nil
    | cons x t ih =>
        rw [encode, List.flatMap_cons]
        exact .append (isCharacter_encodeChar x) ih

end Utf8
end Rubric
