import Mathlib.Data.List.Forall2
import Rubric.Json.Printer
import Rubric.Proofs.Json.Number
import Rubric.Proofs.Text.Lines

/-! Reading JSON back. The texts of the parts of a value, with space around them, make up a text of
the value, and a string comes back from its escapes whatever its characters are. -/
namespace Rubric.Json

/-- Nothing but space between the parts of a JSON text. -/
def Space (t : Text) : Prop :=
  ∀ c ∈ t, isSpace c = true

variable {c : Char} {s t rest lead last text after : Text} {depth fuel : Nat} {value : Json}
  {items : List Json} {field : Text × Json} {fields : Fields Json} {texts : List Text}

theorem space_nil : Space [] := by
  simp [Space]

/-- Space in front is skipped together with the space that follows it. -/
theorem skipSpace_append (h : Space lead) : skipSpace (lead ++ t) = skipSpace t :=
  List.dropWhile_append_of_pos h

theorem skipSpace_cons (h : isSpace c = false) : skipSpace (c :: t) = c :: t := by
  simp [skipSpace, h]

theorem skipSpace_eq_nil (h : Space t) : skipSpace t = [] := by
  simpa [skipSpace] using skipSpace_append h (t := [])

/-- A text is space and what stands behind it. -/
theorem exists_append_skipSpace (t : Text) : ∃ lead, Space lead ∧ t = lead ++ skipSpace t :=
  ⟨t.takeWhile isSpace, List.all_eq_true.mp List.all_takeWhile,
    List.takeWhile_append_dropWhile.symm⟩

/-- A number ends where space or the end of an item follows. -/
theorem Ends.of_mem (h : c ∈ " \n\t\r,]\x7d".toList) : Ends (c :: rest) := by
  rintro d hHead
  obtain rfl : c = d := Option.some.inj hHead
  simp only [String.reduceToList, List.mem_cons, List.not_mem_nil, or_false] at h
  rcases h with rfl | rfl | rfl | rfl | rfl | rfl | rfl <;> decide

theorem Space.ends (h : Space lead) (hRest : Ends rest) : Ends (lead ++ rest) := by
  cases lead with
  | nil => exact hRest
  | cons c lead =>
      have hSpace := h c List.mem_cons_self
      simp only [isSpace, Bool.or_eq_true, beq_iff_eq, or_assoc] at hSpace
      refine Ends.of_mem ?_
      rcases hSpace with rfl | rfl | rfl | rfl <;> decide

/-! ### Strings -/

/-- One escaped unit below the surrogates reads as the character of that number. -/
theorem readString_unit {a b d e : Char} {n : Nat} (hUnit : unit? a b d e = some n)
    (hLow : n < 0xD800) (h : readString rest = some (t, after)) :
    readString ('\\' :: 'u' :: a :: b :: d :: e :: rest) = some (Char.ofNat n :: t, after) := by
  rw [readString.eq_def]
  split
  next hSame => cases hSame
  next hSame => simp at hSame
  next hSame =>
    simp only [List.cons.injEq, true_and] at hSame
    obtain ⟨rfl, rfl, rfl, rfl, rfl⟩ := hSame
    simp [hUnit, hLow, h]
  next hSame =>
    simp only [List.cons.injEq, true_and] at hSame
    obtain ⟨rfl, rfl, rfl, rfl, rfl⟩ := hSame
    simp [hUnit, h, Nat.not_le.mpr hLow]
  next hOther hSame =>
    simp only [List.cons.injEq, true_and] at hSame
    obtain ⟨rfl, rfl⟩ := hSame
    exact (hOther _ _ _ _ _ rfl rfl).elim
  next hOther hSame =>
    obtain ⟨rfl, rfl⟩ := List.cons.inj hSame
    exact (hOther _ _ rfl rfl).elim

/-- A letter behind a backslash reads as the character that it is short for. -/
theorem readString_short {letter : Char} (hShort : short? letter = some c)
    (h : readString rest = some (t, after)) :
    readString ('\\' :: letter :: rest) = some (c :: t, after) := by
  have hLetter : letter ≠ 'u' := by
    rintro rfl
    cases hShort
  rw [readString.eq_def]
  split
  next hSame => cases hSame
  next hSame => simp at hSame
  next hSame => simp [hLetter] at hSame
  next hSame => simp [hLetter] at hSame
  next hSame =>
    simp only [List.cons.injEq, true_and] at hSame
    obtain ⟨rfl, rfl⟩ := hSame
    simp [hShort, h]
  next hOther hSame =>
    obtain ⟨rfl, rfl⟩ := List.cons.inj hSame
    exact (hOther _ _ rfl rfl).elim

theorem readString_plain (hQuote : c ≠ '"') (hSlash : c ≠ '\\') (hControl : 0x20 ≤ c.toNat)
    (h : readString rest = some (t, after)) :
    readString (c :: rest) = some (c :: t, after) := by
  rw [readString.eq_def]
  split
  next hSame => cases hSame
  next hSame => simp [hQuote] at hSame
  next hSame => simp [hSlash] at hSame
  next hSame => simp [hSlash] at hSame
  next hSame => simp [hSlash] at hSame
  next hSame =>
    obtain ⟨rfl, rfl⟩ := List.cons.inj hSame
    simp [hSlash, Nat.not_lt.mpr hControl, h]

/-- The escape of a character is read as the character. -/
theorem readString_escape (h : readString rest = some (t, after)) :
    readString (escape c ++ rest) = some (c :: t, after) := by
  rw [escape.eq_def]
  split
  on_goal 8 =>
    next hQuote hSlash _ _ _ _ _ =>
      split
      next hControl =>
        have hUnit : ∀ n < 0x20,
            unit? '0' '0' (hexDigit (n / 16)) (hexDigit (n % 16)) = some n := by
          decide
        have hRead := readString_unit (hUnit _ hControl) (by omega) h
        rwa [Char.ofNat_toNat] at hRead
      next hControl => exact readString_plain hQuote hSlash (Nat.not_lt.mp hControl) h
  all_goals exact readString_short rfl h

/-- Whatever is escaped is read back up to the closing quote. Each character is escaped in one of
the three ways above. -/
theorem readString_quoted (t rest : Text) :
    readString (t.flatMap escape ++ '"' :: rest) = some (t, rest) := by
  induction t with
  | nil => rw [List.flatMap_nil, List.nil_append, readString]
  | cons c t ih =>
      rw [List.flatMap_cons, List.append_assoc]
      exact readString_escape ih

theorem quote_append (t rest : Text) :
    quote t ++ rest = '"' :: (t.flatMap escape ++ '"' :: rest) := by
  simp [quote]

/-! ### Values -/

/-- A text that is read as a value as a whole, whatever follows it, where arrays and objects may
nest this deep. -/
def Reads (depth : Nat) (value : Json) (t : Text) : Prop :=
  ∀ fuel rest, 2 * t.length ≤ fuel → Ends rest →
    readValue fuel depth (t ++ rest) = some (value, rest)

/-- A value may stand behind any amount of space. -/
theorem readValue_append (h : Space lead) :
    readValue fuel depth (lead ++ t) = readValue fuel depth t := by
  cases fuel with
  | zero => rfl
  | succ fuel => rw [readValue, readValue, skipSpace_append h]

theorem Reads.append (hLead : Space lead) (h : Reads depth value t) :
    Reads depth value (lead ++ t) := by
  intro fuel rest hFuel hEnds
  rw [List.length_append] at hFuel
  rw [List.append_assoc, readValue_append hLead]
  exact h fuel rest (by omega) hEnds

/-- A text that starts with a character which is no space is read with a step to spare. -/
theorem reads_cons (h : ∀ fuel rest, 2 * t.length + 1 ≤ fuel → Ends rest →
    readValue (fuel + 1) depth (c :: t ++ rest) = some (value, rest)) :
    Reads depth value (c :: t) := by
  intro fuel rest hFuel hEnds
  cases fuel with
  | zero => simp at hFuel
  | succ fuel =>
      rw [List.length_cons] at hFuel
      exact h fuel rest (by omega) hEnds

theorem reads_null : Reads depth .null "null".toList := by
  refine reads_cons fun fuel rest _ _ => ?_
  rw [readValue]
  rfl

theorem reads_bool (b : Bool) :
    Reads depth (.bool b) (if b then "true".toList else "false".toList) := by
  cases b <;>
  · refine reads_cons fun fuel rest _ _ => ?_
    rw [readValue]
    rfl

/-- Every text reads back from its quoted form. -/
theorem reads_quote (t : Text) : Reads depth (.string t) (quote t) := by
  refine reads_cons fun fuel rest _ _ => ?_
  change readValue (fuel + 1) depth (quote t ++ rest) = _
  rw [quote_append, readValue, skipSpace_cons (by decide)]
  simp only [readString_quoted, Option.map_some]

theorem readValue_minus :
    readValue (fuel + 1) depth ('-' :: t) =
      (readNumber true t).map fun (n, after) => (.number n, after) := by
  rw [readValue]
  rfl

theorem readValue_digit (h : c.isDigit = true) :
    readValue (fuel + 1) depth (c :: t) =
      (readNumber false (c :: t)).map fun (n, after) => (.number n, after) := by
  have hSpace : isSpace c = false := by
    by_contra hSpace
    simp only [Bool.not_eq_false, isSpace, Bool.or_eq_true, beq_iff_eq, or_assoc] at hSpace
    rcases hSpace with rfl | rfl | rfl | rfl <;> cases h
  rw [readValue, skipSpace_cons hSpace]
  split
  on_goal 8 => rfl
  all_goals
    next hSame =>
      obtain ⟨rfl, -⟩ := List.cons.inj hSame
      cases h

/-- Integers within the bounds read back from their digits. -/
theorem reads_int {n : Int} (h : Whole n) : Reads depth (.number (.int n)) (Text.ofInt n) := by
  obtain ⟨negative, k, hSigned⟩ := whole_iff.mp h
  have hNumber : ∀ rest, Ends rest →
      readNumber negative (Text.ofNat k ++ rest) = some (.int n, rest) := fun rest hEnds =>
    readNumber_eq_int_iff.mpr ⟨k, rfl, hEnds, hSigned⟩
  obtain ⟨c, ds, hCons⟩ := List.exists_cons_of_ne_nil (Text.digits_ofNat k).1
  have hDigit : c.isDigit = true := (Text.digits_ofNat k).2 c (by simp [hCons])
  rw [hSigned.ofInt_eq]
  cases negative with
  | false =>
      rw [if_neg (by simp), hCons]
      rw [hCons] at hNumber
      refine reads_cons fun fuel rest _ hEnds => ?_
      rw [List.cons_append, readValue_digit hDigit, ← List.cons_append, hNumber rest hEnds,
        Option.map_some]
  | true =>
      refine reads_cons fun fuel rest _ hEnds => ?_
      rw [List.cons_append, readValue_minus, hNumber rest hEnds, Option.map_some]

/-! ### Arrays and objects -/

/-- What is read as items does not start like the end of an array. -/
theorem skipSpace_ne_of_readItems (h : readItems fuel depth t = some (items, rest)) (after : Text) :
    skipSpace t ≠ ']' :: after := by
  intro hEnd
  cases fuel with
  | zero => cases h
  | succ fuel =>
      rw [readItems] at h
      obtain ⟨⟨item, left⟩, hItem, -⟩ := Option.bind_eq_some_iff.mp h
      cases fuel with
      | zero => cases hItem
      | succ fuel =>
          rw [readValue, hEnd] at hItem
          cases hItem

/-- What is read as fields does not start like the end of an object. -/
theorem skipSpace_ne_of_readFields (h : readFields fuel depth t = some (fields, rest))
    (after : Text) : skipSpace t ≠ '\x7d' :: after := by
  intro hEnd
  cases fuel with
  | zero => cases h
  | succ fuel =>
      rw [readFields, hEnd] at h
      cases h

/-- The last item is read with the end of the array, and space before it. -/
theorem readItems_last (h : Reads depth value text) (hLast : Space last)
    (hFuel : 2 * text.length ≤ fuel) :
    readItems (fuel + 1) depth (text ++ (last ++ [']'] ++ rest)) = some ([value], rest) := by
  have hEnds : Ends (last ++ ']' :: rest) := hLast.ends (Ends.of_mem (by decide))
  rw [List.append_assoc, List.singleton_append, readItems, h fuel _ hFuel hEnds]
  simp only [Option.bind_eq_bind, Option.bind_some, skipSpace_append hLast,
    skipSpace_cons (show isSpace ']' = false by decide)]

/-- One item and a comma are read before the items that follow. The fuel is twice the length of the
text, since the space and the comma take a step each. -/
theorem readItems_comma (h : Reads depth value text) (hFuel : 2 * text.length ≤ fuel)
    (hMore : readItems fuel depth t = some (items, rest)) :
    readItems (fuel + 1) depth (text ++ ',' :: t) = some (value :: items, rest) := by
  rw [readItems, h fuel _ hFuel (Ends.of_mem (by decide))]
  simp only [Option.bind_eq_bind, Option.bind_some,
    skipSpace_cons (show isSpace ',' = false by decide), hMore]

inductive ReadsField (depth : Nat) : Text × Json → Text → Prop where
  | mk {name lead text : Text} {value : Json} (hLead : Space lead) (h : Reads depth value text) :
      ReadsField depth (name, value) (lead ++ quote name ++ ':' :: text)

/-- A field is read up to what follows its value. -/
theorem readFields_field (h : ReadsField depth field text) (hFuel : 2 * text.length ≤ fuel)
    (hEnds : Ends t) : readFields (fuel + 1) depth (text ++ t) =
      match skipSpace t with
      | '\x7d' :: after => some ([field], after)
      | ',' :: after => (readFields fuel depth after).bind fun (fields, after) =>
          some (field :: fields, after)
      | _ => none := by
  obtain @⟨name, lead, text, value, hLead, hValue⟩ := h
  rw [List.length_append, List.length_cons] at hFuel
  rw [List.append_assoc, List.append_assoc, readFields, skipSpace_append hLead, quote_append,
    skipSpace_cons (by decide), List.cons_append]
  simp only [readString_quoted, Option.bind_eq_bind, Option.bind_some,
    skipSpace_cons (show isSpace ':' = false by decide)]
  exact congrArg (Option.bind · _) (hValue fuel t (by omega) hEnds)

/-- The last field is read with the end of the object, and space before it. -/
theorem readFields_last (h : ReadsField depth field text) (hLast : Space last)
    (hFuel : 2 * text.length ≤ fuel) :
    readFields (fuel + 1) depth (text ++ (last ++ ['\x7d'] ++ rest)) = some ([field], rest) := by
  have hEnds : Ends (last ++ '\x7d' :: rest) := hLast.ends (Ends.of_mem (by decide))
  rw [List.append_assoc, List.singleton_append, readFields_field h hFuel hEnds]
  simp only [skipSpace_append hLast, skipSpace_cons (show isSpace '\x7d' = false by decide)]

theorem readFields_comma (h : ReadsField depth field text) (hFuel : 2 * text.length ≤ fuel)
    (hMore : readFields fuel depth t = some (fields, rest)) :
    readFields (fuel + 1) depth (text ++ ',' :: t) = some (field :: fields, rest) := by
  rw [readFields_field h hFuel (Ends.of_mem (by decide))]
  simp only [skipSpace_cons (show isSpace ',' = false by decide), hMore, Option.bind_some]

/-- The texts of parts with commas between them are read part by part. -/
theorem read_joinWith {α : Type} {part : α → Text → Prop} {close : Text} {parts : List α}
    (read : Nat → Text → Option (List α × Text))
    (hClose : ∀ {a t fuel rest}, part a t → 2 * t.length ≤ fuel →
      read (fuel + 1) (t ++ (close ++ rest)) = some ([a], rest))
    (hComma : ∀ {a t fuel more parts rest}, part a t → 2 * t.length ≤ fuel →
      read fuel more = some (parts, rest) →
      read (fuel + 1) (t ++ ',' :: more) = some (a :: parts, rest))
    (h : List.Forall₂ part parts texts) (hNe : texts ≠ [])
    (hFuel : 2 * (Text.joinWith ',' texts).length + 1 ≤ fuel) (rest : Text) :
    read fuel (Text.joinWith ',' texts ++ (close ++ rest)) = some (parts, rest) := by
  induction h generalizing fuel with
  | nil => exact absurd rfl hNe
  | @cons a text parts texts hPart hParts ih =>
      obtain ⟨fuel, rfl⟩ : ∃ less, fuel = less + 1 := ⟨fuel - 1, by omega⟩
      by_cases hMore : texts = []
      · subst hMore
        obtain rfl := List.forall₂_nil_right_iff.mp hParts
        rw [Text.joinWith] at hFuel ⊢
        exact hClose hPart (by omega)
      · rw [Text.joinWith_cons hMore] at hFuel ⊢
        rw [List.length_append, List.length_cons] at hFuel
        rw [List.append_assoc, List.cons_append]
        exact hComma hPart (by omega) (ih hMore (by omega))

theorem reads_array_nil : Reads (depth + 1) (.array []) ['[', ']'] := by
  refine reads_cons fun fuel rest _ _ => ?_
  rw [readValue]
  rfl

theorem reads_object_nil : Reads (depth + 1) (.object []) ['\x7b', '\x7d'] := by
  refine reads_cons fun fuel rest _ _ => ?_
  rw [readValue]
  rfl

/-- Items with commas between them are read as an array. -/
theorem reads_array (h : List.Forall₂ (Reads depth) items texts) (hNe : texts ≠ [])
    (hLast : Space last) :
    Reads (depth + 1) (.array items) ('[' :: (Text.joinWith ',' texts ++ (last ++ [']']))) := by
  refine reads_cons fun fuel rest hFuel _ => ?_
  rw [List.length_append] at hFuel
  have hItems : readItems fuel depth (Text.joinWith ',' texts ++ (last ++ [']'] ++ rest)) =
      some (items, rest) :=
    read_joinWith (readItems · depth) (fun hItem => readItems_last hItem hLast) readItems_comma
      h hNe (by omega) rest
  rw [← List.append_assoc] at hItems
  rw [List.cons_append, readValue, skipSpace_cons (by decide)]
  simp only [Nat.add_eq_zero_iff, Nat.one_ne_zero, and_false, if_false, Nat.add_sub_cancel]
  split
  next after hEnd => exact absurd hEnd (skipSpace_ne_of_readItems hItems after)
  next => rw [hItems, Option.map_some]

/-- Fields with commas between them are read as an object. -/
theorem reads_object (h : List.Forall₂ (ReadsField depth) fields texts) (hNe : texts ≠ [])
    (hLast : Space last) :
    Reads (depth + 1) (.object fields)
      ('\x7b' :: (Text.joinWith ',' texts ++ (last ++ ['\x7d']))) := by
  refine reads_cons fun fuel rest hFuel _ => ?_
  rw [List.length_append] at hFuel
  have hFields : readFields fuel depth (Text.joinWith ',' texts ++ (last ++ ['\x7d'] ++ rest)) =
      some (fields, rest) :=
    read_joinWith (readFields · depth) (fun hField => readFields_last hField hLast) readFields_comma
      h hNe (by omega) rest
  rw [← List.append_assoc] at hFields
  rw [List.cons_append, readValue, skipSpace_cons (by decide)]
  simp only [Nat.add_eq_zero_iff, Nat.one_ne_zero, and_false, if_false, Nat.add_sub_cancel]
  split
  next after hEnd => exact absurd hEnd (skipSpace_ne_of_readFields hFields after)
  next => rw [hFields, Option.map_some]

/-- A text that is read as a value is all that a JSON text needs, and space around it is no harm. -/
theorem Reads.read? (h : Reads depthLimit value t) (hLead : Space lead) (hLast : Space last) :
    Json.read? (lead ++ t ++ last) = some value := by
  have hEnds : Ends last := List.append_nil last ▸ hLast.ends ends_nil
  have hStart : readStart (lead ++ t ++ last) = some (value, last) := by
    refine h.append hLead _ last ?_ hEnds
    simp only [List.length_append]
    omega
  rw [Json.read?, hStart]
  simp [skipSpace_eq_nil hLast]

/-! ### Integers -/

/-- Text that reads as an integer is the very text the integer is printed as, so there is no second
spelling of one. -/
theorem ofInt_of_readNumber {negative : Bool} {n : Int}
    (h : readNumber negative t = some (.int n, rest)) :
    (if negative then '-' :: t else t) = Text.ofInt n ++ rest ∧ Whole n := by
  obtain ⟨k, rfl, -, hSigned⟩ := readNumber_eq_int_iff.mp h
  refine ⟨?_, whole_iff.mpr ⟨_, _, hSigned⟩⟩
  rw [hSigned.ofInt_eq]
  cases negative <;> rfl

/-- What is read as an integer is its shortest text. -/
theorem skipSpace_of_readValue_int {n : Int}
    (h : readValue fuel depth t = some (.number (.int n), rest)) :
    skipSpace t = Text.ofInt n ++ rest ∧ Whole n := by
  have hOf : ∀ {negative u},
      (readNumber negative u).map (fun (n, after) => (Json.number n, after)) =
        some (.number (.int n), rest) →
      (if negative then '-' :: u else u) = Text.ofInt n ++ rest ∧ Whole n := by
    intro negative u hMap
    obtain ⟨⟨number, after⟩, hRead, hSame⟩ := Option.map_eq_some_iff.mp hMap
    obtain ⟨rfl, rfl⟩ : number = .int n ∧ after = rest := by simpa using hSame
    exact ofInt_of_readNumber hRead
  cases fuel with
  | zero => cases h
  | succ fuel =>
      rw [readValue] at h
      split at h
      next => cases h
      next => cases h
      next => cases h
      next => simp at h
      next u hSkip =>
        rw [hSkip]
        exact hOf h
      next =>
        split at h
        next => cases h
        next =>
          split at h
          next => cases h
          next => simp at h
      next =>
        split at h
        next => cases h
        next =>
          split at h
          next => cases h
          next => simp at h
      next => exact hOf h

/-- Exactly the shortest texts of integers are read as integers, with space around them or not. -/
theorem read?_eq_int_iff {n : Int} : read? t = some (.number (.int n)) ↔
    Whole n ∧ ∃ lead last, Space lead ∧ Space last ∧ t = lead ++ Text.ofInt n ++ last := by
  constructor
  · intro h
    obtain ⟨⟨value, rest⟩, hStart, hRest⟩ := Option.bind_eq_some_iff.mp h
    obtain ⟨hEmpty, rfl⟩ : skipSpace rest = [] ∧ value = .number (.int n) := by simpa using hRest
    obtain ⟨hText, hWhole⟩ := skipSpace_of_readValue_int hStart
    obtain ⟨lead, hLead, hStart⟩ := exists_append_skipSpace t
    obtain ⟨last, hLast, hSame⟩ := exists_append_skipSpace rest
    rw [hEmpty, List.append_nil] at hSame
    rw [hText, ← List.append_assoc] at hStart
    exact ⟨hWhole, lead, rest, hLead, hSame ▸ hLast, hStart⟩
  · rintro ⟨hWhole, lead, last, hLead, hLast, rfl⟩
    exact (reads_int hWhole).read? hLead hLast

end Rubric.Json
