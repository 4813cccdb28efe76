import Rubric.Toml.Reader

/-! Spelling a text in TOML. Between double quotes every character can be spelled by its code point,
so a file can give any text at all under a key. -/
namespace Rubric.Toml

/-- The last hexadecimal digits of a number, as many as there are places. -/
def codeDigits : Nat → Nat → Text
  | 0, _ => []
  | places + 1, n => codeDigits places (n / 16) ++ [Nat.digitChar (n % 16)]

def escapeCode (c : Char) : Text :=
  '\\' :: 'U' :: codeDigits 8 c.toNat

def quoted (t : Text) : Text :=
  '"' :: t.flatMap escapeCode ++ ['"']

variable {c : Char} {n places : Nat} {t rest : Text}

theorem digitValue_digitChar (h : n < 16) :
    Text.isHex (Nat.digitChar n) = true ∧ Text.digitValue (Nat.digitChar n) = n := by
  have hAll : ∀ k < 16, Text.isHex (Nat.digitChar k) = true ∧
      Text.digitValue (Nat.digitChar k) = k := by decide
  exact hAll n h

theorem all_isHex_codeDigits : (codeDigits places n).all Text.isHex = true := by
  induction places generalizing n with
  | zero => rfl
  | succ places ih =>
      have hDigit := digitValue_digitChar (Nat.mod_lt n (by decide : 16 > 0))
      rw [codeDigits, List.all_append, ih]
      simp [hDigit.1]

/-- One place more is a digit more at the end. -/
theorem number_codeDigits_succ : Text.number 16 (codeDigits (places + 1) n) =
    Text.number 16 (codeDigits places (n / 16)) * 16 + n % 16 := by
  have hDigit := digitValue_digitChar (Nat.mod_lt n (by decide : 16 > 0))
  rw [codeDigits, Text.number, List.foldl_append]
  simp only [List.foldl_cons, List.foldl_nil, hDigit.2]
  rfl

/-- Eight places are enough for every code point. -/
theorem number_codeDigits (h : n < 4294967296) : Text.number 16 (codeDigits 8 n) = n := by
  simp only [number_codeDigits_succ]
  have hNone : ∀ n, Text.number 16 (codeDigits 0 n) = 0 := fun _ => rfl
  rw [hNone]
  omega

theorem charOf?_toNat : Text.charOf? c.toNat = some c := by
  have hValid : c.toNat < 0xD800 ∨ 0xDFFF < c.toNat ∧ c.toNat < 0x110000 := c.valid
  rw [Text.charOf?, if_pos, Char.ofNat_toNat]
  simp only [Bool.or_eq_true, Bool.and_eq_true, decide_eq_true_eq]
  omega

/-- Eight digits spell the code of any character. -/
theorem codeEscape?_codeDigits : codeEscape? (codeDigits 8 c.toNat) = some c := by
  have hBound : c.toNat < 4294967296 := c.val.toNat_lt
  rw [codeEscape?, if_pos all_isHex_codeDigits, number_codeDigits hBound, charOf?_toNat]

/-- A text of which every character is escaped reads back up to the closing quote. -/
theorem readBasic_escapeCodes :
    readBasic (t.flatMap escapeCode ++ '"' :: rest) = some (t, rest) := by
  induction t with
  | nil => rfl
  | cons c t ih =>
      rw [List.flatMap_cons, List.append_assoc, escapeCode]
      have hEscape := codeEscape?_codeDigits (c := c)
      simp only [codeDigits, List.cons_append, List.nil_append] at hEscape ⊢
      rw [readBasic, hEscape, ih]
      rfl

theorem readQuoted_quoted : readQuoted (quoted t) = some (t, []) := by
  have hBasic : readQuoted (quoted t) = readBasic (t.flatMap escapeCode ++ ['"']) := by
    cases t <;> rfl
  rw [hBasic, readBasic_escapeCodes]

theorem readAssigned_quoted : readAssigned (quoted t) = some (.string t, []) := by
  have hValue : readValue (2 * (quoted t).length + 2) depthLimit (skipGap (quoted t)) =
      (readQuoted (quoted t)).map fun read => (.string read.1, read.2) := rfl
  rw [readAssigned, hValue, readQuoted_quoted]
  rfl

section Assignment

variable {first : Char} {key name : Text} {path : List Text}

/-- A dotted name, an equals sign and a quoted text are an assignment of that text. -/
theorem readStatement_assignment (hFirst : isKeyChar first = true)
    (hKey : ∀ rest, readDotted (first :: key ++ '=' :: rest) = some (path, name, '=' :: rest)) :
    readStatement (first :: key ++ '=' :: quoted t) =
      some (.assign path name (.string t), []) := by
  rw [readStatement.eq_def]
  split
  next hBrackets =>
    obtain ⟨rfl, -⟩ := List.cons.inj hBrackets
    exact absurd hFirst (by decide)
  next hBracket =>
    obtain ⟨rfl, -⟩ := List.cons.inj hBracket
    exact absurd hFirst (by decide)
  next =>
    rw [hKey, Option.bind_eq_bind, Option.bind_some]
    simp [readAssigned_quoted]

theorem skipLayout_cons (hFirst : isKeyChar first = true) :
    skipLayout false (first :: rest) = first :: rest := by
  have hOther : ∀ c, isKeyChar c = false → first ≠ c := by
    rintro c hC rfl
    exact absurd hFirst (by simp [hC])
  rw [skipLayout.eq_def]
  split
  next h => cases h
  next h =>
    obtain ⟨rfl, -⟩ := List.cons.inj h
    exact absurd rfl (hOther _ (by decide))
  next h =>
    obtain ⟨rfl, rfl⟩ := List.cons.inj h
    have hGap : isGap first = false := by
      simp [isGap, hOther ' ' (by decide), hOther '\t' (by decide)]
    simp [hGap, hOther '\n' (by decide), hOther '#' (by decide)]

/-- A file with one text, spelled out under a key, is read as the assignment of the text. -/
theorem read?_assignment (hStart : ∃ first more, key = first :: more ∧ isKeyChar first = true)
    (hKey : ∀ rest, readDotted (key ++ '=' :: rest) = some (path, name, '=' :: rest)) :
    read? (key ++ '=' :: quoted t) = Table.ofStatements? [.assign path name (.string t)] := by
  obtain ⟨first, more, rfl, hFirst⟩ := hStart
  have hMark : first ≠ '\uFEFF' := by
    rintro rfl
    exact absurd hFirst (by decide)
  have hStatements : readStatements ((first :: more ++ '=' :: quoted t).length + 1)
      (first :: more ++ '=' :: quoted t) = some [.assign path name (.string t)] := by
    rw [readStatements, List.cons_append, skipLayout_cons hFirst, ← List.cons_append]
    change (readStatement (first :: more ++ '=' :: quoted t)).bind (fun found =>
      (readStatements _ found.2).bind fun statements => some (found.1 :: statements)) = _
    rw [readStatement_assignment hFirst hKey]
    rfl
  rw [read?.eq_def]
  split
  next hStart => exact absurd (List.cons.inj hStart).1 hMark
  next =>
    dsimp only
    rw [hStatements]
    rfl

end Assignment

end Rubric.Toml
