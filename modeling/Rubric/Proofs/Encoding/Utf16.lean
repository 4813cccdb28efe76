import Mathlib.Algebra.Group.Nat.Even
import Mathlib.Data.List.Chain
import Rubric.Encoding.Utf16
import Rubric.Proofs.Encoding.Utf8

/-! UTF-16 read back. Two bytes make one unit, and the units of a character are read as it and as no
other, so a text is read from its own bytes and from no others. What can be read are the bytes of
even number among whose units all surrogates stand in pairs. -/
namespace Rubric.Utf16

/-- The units of bytes. A last byte that is alone makes none. -/
def unitsIn (order : ByteOrder) : Bytes → List Nat
  | a :: b :: rest => order.unit a b :: unitsIn order rest
  | _ => []

/-- All surrogates stand in pairs. Right behind a first one stands a second one, and a second one
stands nowhere else. -/
structure Paired (units : List Nat) : Prop where
  head : ∀ unit ∈ units.head?, isLow unit = false
  next : units.IsChain fun unit second => isHigh unit = isLow second
  last : ∀ unit ∈ units.getLast?, isHigh unit = false

variable {order : ByteOrder} {u v n : Nat} {us rest : List Nat} {c : Char} {t : Text}
  {bytes : Bytes}

theorem isHigh_iff : isHigh u = true ↔ 0xD800 ≤ u ∧ u < 0xDC00 := by
  simp [isHigh]

theorem isLow_iff : isLow u = true ↔ 0xDC00 ≤ u ∧ u < 0xE000 := by
  simp [isLow]

/-- No unit is both halves of a pair at once. -/
theorem isLow_eq_false_of_isHigh (h : isHigh u = true) : isLow u = false := by
  rw [isHigh_iff] at h
  rw [← Bool.not_eq_true, isLow_iff]
  omega

theorem isHigh_eq_false_of_isLow (h : isLow u = true) : isHigh u = false := by
  rw [← Bool.not_eq_true]
  intro hHigh
  rw [isLow_eq_false_of_isHigh hHigh] at h
  cases h

/-- A character has one unit, which is no surrogate, or it has two, which are a pair of them. -/
theorem units_cases (c : Char) :
    (c.toNat < 0x10000 ∧ isHigh c.toNat = false ∧ isLow c.toNat = false ∧ units c = [c.toNat]) ∨
    ∃ u v, isHigh u = true ∧ isLow v = true ∧
      c.toNat = 0x10000 + (u - 0xD800) * 0x400 + (v - 0xDC00) ∧ units c = [u, v] := by
  have hValid : c.toNat < 0xD800 ∨ 0xDFFF < c.toNat ∧ c.toNat < 0x110000 := c.valid
  rw [units]
  split
  next hOne =>
    refine .inl ⟨hOne, ?_, ?_, rfl⟩
    · rw [← Bool.not_eq_true, isHigh_iff]
      omega
    · rw [← Bool.not_eq_true, isLow_iff]
      omega
  next hTwo =>
    refine .inr ⟨_, _, isHigh_iff.mpr ?_, isLow_iff.mpr ?_, ?_, rfl⟩ <;> omega

/-- The units of a character have 16 bits. -/
theorem lt_of_mem_units (h : u ∈ units c) : u < 0x10000 := by
  rcases units_cases c with ⟨hLt, -, -, hUnits⟩ | ⟨high, low, hHigh, hLow, -, hUnits⟩
  · rw [hUnits, List.mem_singleton] at h
    exact h ▸ hLt
  · rw [isHigh_iff] at hHigh
    rw [isLow_iff] at hLow
    rw [hUnits, List.mem_pair] at h
    omega

/-- A unit that is no half of a pair is a character by itself. -/
theorem units_of_single (hHigh : isHigh u = false) (hLow : isLow u = false) (hLt : u < 0x10000) :
    units (.ofNat u) = [u] := by
  rw [← Bool.not_eq_true, isHigh_iff] at hHigh
  rw [← Bool.not_eq_true, isLow_iff] at hLow
  obtain ⟨c, rfl⟩ := Text.exists_toNat_eq (n := u) (by omega)
  rw [Char.ofNat_toNat, units, if_pos hLt]

/-- The two halves of a pair are the units of the character that they stand for. -/
theorem units_of_pair (hHigh : isHigh u = true) (hLow : isLow v = true) :
    units (.ofNat (0x10000 + (u - 0xD800) * 0x400 + (v - 0xDC00))) = [u, v] := by
  rw [isHigh_iff] at hHigh
  rw [isLow_iff] at hLow
  obtain ⟨c, hc⟩ := Text.exists_toNat_eq (n := 0x10000 + (u - 0xD800) * 0x400 + (v - 0xDC00))
    (by omega)
  rw [← hc, Char.ofNat_toNat, units, if_neg (by omega), hc, List.cons.injEq, List.cons.injEq]
  exact ⟨by omega, by omega, rfl⟩

/-- A unit that is no half of a pair is read as a character. -/
theorem ofUnits?_single (hHigh : isHigh u = false) (hLow : isLow u = false) :
    ofUnits? (u :: rest) = (ofUnits? rest).map (.ofNat u :: ·) := by
  rw [ofUnits?.eq_def]
  simp [hHigh, hLow]

/-- A high half with a low half behind it is read as one character. -/
theorem ofUnits?_pair (hHigh : isHigh u = true) (hLow : isLow v = true) :
    ofUnits? (u :: v :: rest) = (ofUnits? rest).map
      (.ofNat (0x10000 + (u - 0xD800) * 0x400 + (v - 0xDC00)) :: ·) := by
  rw [ofUnits?.eq_def]
  simp [hHigh, hLow]

/-- The units of a character are read back, whatever follows. -/
theorem ofUnits?_units_append : ofUnits? (units c ++ rest) = (ofUnits? rest).map (c :: ·) := by
  rcases units_cases c with ⟨-, hHigh, hLow, hUnits⟩ | ⟨u, v, hHigh, hLow, hNumber, hUnits⟩
  · rw [hUnits, List.singleton_append, ofUnits?_single hHigh hLow, Char.ofNat_toNat]
  · rw [hUnits, List.cons_append, List.singleton_append, ofUnits?_pair hHigh hLow, ← hNumber,
      Char.ofNat_toNat]

/-- What can be read begins with the units of a character. -/
theorem exists_of_ofUnits?_cons (hLt : u < 0x10000) (h : ofUnits? (u :: rest) = some t) :
    ∃ c later text, units c ++ later = u :: rest ∧ ofUnits? later = some text ∧
      t = c :: text := by
  rw [ofUnits?.eq_def] at h
  simp only at h
  split at h
  next hHigh =>
    split at h
    next second later =>
      split at h
      next hLow =>
        obtain ⟨text, hText, rfl⟩ := Option.map_eq_some_iff.mp h
        exact ⟨_, later, text, by rw [units_of_pair hHigh hLow]; rfl, hText, rfl⟩
      next => cases h
    next => cases h
  next hHigh =>
    split at h
    next => cases h
    next hLow =>
      obtain ⟨text, hText, rfl⟩ := Option.map_eq_some_iff.mp h
      rw [Bool.not_eq_true] at hHigh hLow
      exact ⟨_, rest, text, by rw [units_of_single hHigh hLow hLt]; rfl, hText, rfl⟩

/-- Reading units undoes writing characters, and accepts nothing else. -/
theorem readsBack : ReadsBack (· < 0x10000) ofUnits? units where
  nil := rfl
  write_append _ _ := ofUnits?_units_append
  exists_write _ _ _ hLt h := exists_of_ofUnits?_cons hLt h

theorem ByteOrder.bytes_unit (a b : UInt8) : order.bytes (order.unit a b) = [a, b] := by
  have ha := a.toNat_lt
  have hb := b.toNat_lt
  cases order with
  | lowFirst =>
      rw [bytes, unit, List.cons.injEq, List.cons.injEq]
      refine ⟨ofNat_eq_iff.mpr ?_, ofNat_eq_iff.mpr ?_, rfl⟩ <;> omega
  | highFirst =>
      rw [bytes, unit, List.cons.injEq, List.cons.injEq]
      refine ⟨ofNat_eq_iff.mpr ?_, ofNat_eq_iff.mpr ?_, rfl⟩ <;> omega

/-- Every unit of 16 bits is two bytes, in either order. -/
theorem ByteOrder.exists_bytes_eq (order : ByteOrder) (h : u < 0x10000) :
    ∃ a b, order.bytes u = [a, b] ∧ order.unit a b = u := by
  cases order with
  | lowFirst =>
      refine ⟨_, _, rfl, ?_⟩
      rw [unit, UInt8.toNat_ofNat', UInt8.toNat_ofNat']
      omega
  | highFirst =>
      refine ⟨_, _, rfl, ?_⟩
      rw [unit, UInt8.toNat_ofNat', UInt8.toNat_ofNat']
      omega

theorem ByteOrder.unit_lt (a b : UInt8) : order.unit a b < 0x10000 := by
  have ha := a.toNat_lt
  have hb := b.toNat_lt
  cases order with
  | lowFirst =>
      rw [unit]
      omega
  | highFirst =>
      rw [unit]
      omega

/-- Bytes are units if their number is even. -/
theorem unitsOf?_eq_ite (bytes : Bytes) :
    unitsOf? order bytes = if Even bytes.length then some (unitsIn order bytes) else none := by
  fun_induction unitsOf? order bytes with
  | case1 => rfl
  | case2 => rfl
  | case3 a b rest ih =>
      rw [ih]
      simp only [unitsIn, List.length_cons, Nat.even_add_one, not_not]
      split <;> rfl

/-- Bytes are read as those units that are written as these bytes. -/
theorem unitsOf?_eq_some_iff :
    unitsOf? order bytes = some us ↔ us.flatMap order.bytes = bytes ∧ ∀ u ∈ us, u < 0x10000 := by
  constructor
  · intro h
    fun_induction unitsOf? order bytes generalizing us with
    | case1 =>
        cases h
        exact ⟨rfl, nofun⟩
    | case2 => cases h
    | case3 a b rest ih =>
        obtain ⟨later, hLater, rfl⟩ := Option.map_eq_some_iff.mp h
        obtain ⟨rfl, hLt⟩ := ih hLater
        exact ⟨by rw [List.flatMap_cons, ByteOrder.bytes_unit]; rfl,
          List.forall_mem_cons.mpr ⟨ByteOrder.unit_lt a b, hLt⟩⟩
  · rintro ⟨rfl, hLt⟩
    induction us with
    | nil => rfl
    | cons u us ih =>
        rw [List.forall_mem_cons] at hLt
        obtain ⟨a, b, hBytes, hUnit⟩ := order.exists_bytes_eq hLt.1
        rw [List.flatMap_cons, hBytes, List.cons_append, List.singleton_append, unitsOf?,
          ih hLt.2, hUnit, Option.map_some]

/-- Bytes decode to a text exactly where the text is encoded as these bytes. -/
theorem decode?_eq_some_iff : decode? order bytes = some t ↔ encode order t = bytes := by
  have hEncode : encode order t = (t.flatMap units).flatMap order.bytes := by
    rw [encode, List.flatMap_assoc]
  have hLt : ∀ u ∈ t.flatMap units, u < 0x10000 := by
    intro u hu
    obtain ⟨c, -, hc⟩ := List.mem_flatMap.mp hu
    exact lt_of_mem_units hc
  rw [decode?, Option.bind_eq_some_iff, hEncode]
  constructor
  · rintro ⟨us, hUnits, hText⟩
    obtain ⟨rfl, hBound⟩ := unitsOf?_eq_some_iff.mp hUnits
    rw [(readsBack.eq_some_iff hBound).mp hText]
  · intro hBytes
    exact ⟨_, unitsOf?_eq_some_iff.mpr ⟨hBytes, hLt⟩, (readsBack.eq_some_iff hLt).mpr rfl⟩

theorem paired_single_iff (hHigh : isHigh u = false) (hLow : isLow u = false) :
    Paired (u :: rest) ↔ Paired rest := by
  cases rest with
  | nil => exact ⟨fun _ => ⟨nofun, .nil, nofun⟩, fun _ => ⟨by simpa, .singleton _, by simpa⟩⟩
  | cons v rest =>
      constructor
      · rintro ⟨-, hNext, hLast⟩
        rw [List.isChain_cons_cons, hHigh] at hNext
        exact ⟨by simpa using hNext.1.symm, hNext.2, by simpa using hLast⟩
      · rintro ⟨hHead, hNext, hLast⟩
        refine ⟨by simpa, List.isChain_cons_cons.mpr ⟨?_, hNext⟩, by simpa using hLast⟩
        rw [hHigh, hHead v rfl]

/-- A pair at the start is no obstacle to the rest. -/
theorem paired_pair_iff (hHigh : isHigh u = true) (hLow : isLow v = true) :
    Paired (u :: v :: rest) ↔ Paired rest := by
  have hFirst : isLow u = false := isLow_eq_false_of_isHigh hHigh
  have hSecond : isHigh v = false := isHigh_eq_false_of_isLow hLow
  cases rest with
  | nil =>
      exact ⟨fun _ => ⟨nofun, .nil, nofun⟩,
        fun _ => ⟨by simpa, by simp [hHigh, hLow], by simpa⟩⟩
  | cons w rest =>
      constructor
      · rintro ⟨-, hNext, hLast⟩
        rw [List.isChain_cons_cons, List.isChain_cons_cons, hSecond] at hNext
        exact ⟨by simpa using hNext.2.1.symm, hNext.2.2, by simpa using hLast⟩
      · rintro ⟨hHead, hNext, hLast⟩
        refine ⟨by simpa, ?_, by simpa using hLast⟩
        rw [List.isChain_cons_cons, List.isChain_cons_cons, hHigh, hLow, hSecond, hHead w rfl]
        exact ⟨rfl, rfl, hNext⟩

/-- Units can be read exactly where every half of a pair has its other half. -/
theorem exists_ofUnits?_eq_iff : (∃ t, ofUnits? us = some t) ↔ Paired us := by
  simp only [← Option.isSome_iff_exists]
  fun_induction ofUnits? us with
  | case1 => exact ⟨fun _ => ⟨nofun, .nil, nofun⟩, fun _ => rfl⟩
  | case2 u hHigh v rest hLow n ih => rw [Option.isSome_map, ih, paired_pair_iff hHigh hLow]
  | case3 u hHigh v rest hLow =>
      refine ⟨nofun, fun h => ?_⟩
      have hNext := (List.isChain_cons_cons.mp h.next).1
      exact absurd (hNext.symm.trans hHigh) hLow
  | case4 u hHigh =>
      refine ⟨nofun, fun h => ?_⟩
      cases hHigh.symm.trans (h.last u rfl)
  | case5 u rest hHigh hLow =>
      refine ⟨nofun, fun h => ?_⟩
      cases hLow.symm.trans (h.head u rfl)
  | case6 u rest hHigh hLow ih =>
      rw [Option.isSome_map, ih, paired_single_iff]
      · rwa [Bool.not_eq_true] at hHigh
      · rwa [Bool.not_eq_true] at hLow

/-- Bytes can be decoded exactly where they are whole units whose halves are paired. -/
theorem exists_decode?_eq_iff :
    (∃ t, decode? order bytes = some t) ↔ Even bytes.length ∧ Paired (unitsIn order bytes) := by
  simp only [decode?, unitsOf?_eq_ite]
  split
  next hEven =>
    simp only [Option.bind_some, exists_ofUnits?_eq_iff, hEven, true_and]
  next hOdd =>
    simp only [Option.bind_none, hOdd, false_and, reduceCtorEq, exists_false]

end Rubric.Utf16
