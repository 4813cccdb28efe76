import Rubric.Encoding.Index
import Rubric.Encoding.Table.Jis0208
import Rubric.Encoding.Table.Jis0212

/-! The encodings of Japanese. All of them number the characters of one set, and one knows a second
set too. -/
namespace Rubric.Encoding

def jis0208 : Index := .ofRows 94 Table.jis0208

def jis0212 : Index := .ofRows 94 Table.jis0212

/-- The characters that Japanese encodings write as others, which look alike. -/
def lookAlike (c : Char) : Char :=
  match c with
  | '¥' => '\\'
  | '‾' => '~'
  | '−' => '－'
  | c => c

/-- The first of the half width katakana. -/
def halfKatakana : Nat := 0xFF61

def isHalfKatakana (c : Char) : Bool :=
  halfKatakana ≤ c.toNat && c.toNat < halfKatakana + 63

namespace ShiftJis

/-- The numbers of pairs that stand for private characters, by the first and the one past the
last. -/
def privateNumbers : Nat × Nat := (8836, 10716)

/-- The character of a byte that stands alone. -/
def single? (n : Nat) : Option Char :=
  if n ≤ 0x80 then some (Char.ofNat n)
  else if 0xA1 ≤ n && n < 0xE0 then some (Char.ofNat (halfKatakana + (n - 0xA1)))
  else none

def pair? (a b : Nat) : Option Text :=
  let isFirst := (0x81 ≤ a && a < 0xA0) || (0xE0 ≤ a && a < 0xFD)
  let isSecond := 0x40 ≤ b && b ≠ 0x7F && b < 0xFD
  let row := if a < 0xA0 then a - 0x81 else a - 0xC1
  let n := row * 188 + (if b < 0x7F then b - 0x40 else b - 0x41)
  if !isFirst || !isSecond then none
  else if privateNumbers.1 ≤ n && n < privateNumbers.2 then
    some [Char.ofNat (0xE000 + (n - privateNumbers.1))]
  else (jis0208.get? n).map ([·])

def decode? : Bytes → Option Text :=
  decodeBy (stepOf single? pair?)

/-- The bytes of a character. Rows with characters that also stand further on are passed over. -/
def bytes? (c : Char) : Option Bytes :=
  let c := lookAlike c
  if c.toNat ≤ 0x80 then some [.ofNat c.toNat]
  else if isHalfKatakana c then some [.ofNat (c.toNat - halfKatakana + 0xA1)]
  else (jis0208.find? (fun n => n < 8272 || 8836 ≤ n) c).map fun n =>
    let a := if n / 188 < 0x1F then n / 188 + 0x81 else n / 188 + 0xC1
    let b := if n % 188 < 0x3F then n % 188 + 0x40 else n % 188 + 0x41
    twoBytes a b

end ShiftJis

namespace EucJp

def number? (a b : Nat) : Option Nat :=
  if 0xA1 ≤ a && a < 0xFF && 0xA1 ≤ b && b < 0xFF then some ((a - 0xA1) * 94 + (b - 0xA1))
  else none

def step : Step
  | 0x8F :: b :: c :: rest => do
    let x ← jis0212.get? (← number? b.toNat c.toNat)
    some ([x], rest)
  | a :: rest =>
    stepOf ascii? (fun a b =>
      if a = 0x8E && 0xA1 ≤ b && b < 0xE0 then some [Char.ofNat (halfKatakana + (b - 0xA1))]
      else (number? a b).bind fun n => (jis0208.get? n).map ([·])) (a :: rest)
  | [] => none

def decode? : Bytes → Option Text :=
  decodeBy step

def bytes? (c : Char) : Option Bytes :=
  let c := lookAlike c
  if c.toNat < 0x80 then some [.ofNat c.toNat]
  else if isHalfKatakana c then some (twoBytes 0x8E (c.toNat - halfKatakana + 0xA1))
  else (jis0208.find? (fun _ => true) c).map fun n => twoBytes (n / 94 + 0xA1) (n % 94 + 0xA1)

end EucJp

namespace Iso2022Jp

/-- The set of characters that bytes are taken from. Escapes change it. -/
inductive CharacterSet where
  | ascii
  | roman
  | katakana
  | jis0208
deriving DecidableEq, Repr

/-- The byte that starts an escape. -/
def escape : UInt8 := 0x1B

def selected? : UInt8 → UInt8 → Option CharacterSet
  | 0x28, 0x42 => some .ascii
  | 0x28, 0x4A => some .roman
  | 0x28, 0x49 => some .katakana
  | 0x24, 0x40 => some .jis0208
  | 0x24, 0x42 => some .jis0208
  | _, _ => none

/-- The character of a byte that stands alone in one of the small sets. -/
def single? (set : CharacterSet) (b : UInt8) : Option Char :=
  let n := b.toNat
  match set with
  | .katakana =>
    if 0x21 ≤ n && n < 0x60 then some (Char.ofNat (halfKatakana + (n - 0x21))) else none
  | .roman =>
    if n = 0x5C then some '¥'
    else if n = 0x7E then some '‾'
    else if n < 0x80 && n ≠ 0x0E && n ≠ 0x0F then some (Char.ofNat n)
    else none
  | _ => if n < 0x80 && n ≠ 0x0E && n ≠ 0x0F then some (Char.ofNat n) else none

def pair? (a b : UInt8) : Option Char :=
  if 0x21 ≤ a.toNat && a.toNat < 0x7F && 0x21 ≤ b.toNat && b.toNat < 0x7F then
    Encoding.jis0208.get? ((a.toNat - 0x21) * 94 + (b.toNat - 0x21))
  else none

/-- The text of bytes. Two escapes do not follow each other; the flag tells that the last bytes were
one. -/
def decodeFrom (set : CharacterSet) (escaped : Bool) : Bytes → Option Text
  | [] => some []
  | a :: rest =>
    if a = escape then
      match rest with
      | b :: c :: rest =>
        if escaped then none
        else (selected? b c).bind fun set => decodeFrom set true rest
      | _ => none
    else if set = .jis0208 then
      match rest with
      | b :: rest => do
        let x ← pair? a b
        (decodeFrom set false rest).map (x :: ·)
      | [] => none
    else do
      let x ← single? set a
      (decodeFrom set false rest).map (x :: ·)

def decode? : Bytes → Option Text :=
  decodeFrom .ascii false

def fullKatakana : List Char :=
  "。「」、・ヲァィゥェォャュョッーアイウエオカキクケコサシスセソタチツテトナニヌネノハヒフヘホマミムメモヤユヨラリルレロワン゛゜".toList

/-- The bytes that select a set. -/
def select : CharacterSet → Bytes
  | .ascii => [escape, 0x28, 0x42]
  | .roman => [escape, 0x28, 0x4A]
  | .katakana => [escape, 0x28, 0x49]
  | .jis0208 => [escape, 0x24, 0x42]

/-- The set that a character is written in, and its bytes there. Most of the first 128 characters
stay in the Roman set where that is selected. -/
def bytes? (set : CharacterSet) (c : Char) : Option (CharacterSet × Bytes) :=
  if c = '\x0e' || c = '\x0f' || c = '\x1b' then none
  else if c = '¥' then some (.roman, [0x5C])
  else if c = '‾' then some (.roman, [0x7E])
  else if c.toNat < 0x80 then
    some (if set = .roman && c ≠ '\\' && c ≠ '~' then .roman else .ascii, [.ofNat c.toNat])
  else
    let c := if isHalfKatakana c then fullKatakana.getD (c.toNat - halfKatakana) c else lookAlike c
    (Encoding.jis0208.find? (fun _ => true) c).map fun n =>
      (.jis0208, twoBytes (n / 94 + 0x21) (n % 94 + 0x21))

def encodeFrom (set : CharacterSet) : Text → Option Bytes
  | [] => some (if set = .ascii then [] else select .ascii)
  | c :: rest => do
    let (next, bytes) ← bytes? set c
    let later ← encodeFrom next rest
    some ((if next = set then [] else select next) ++ bytes ++ later)

def encode? : Text → Option Bytes :=
  encodeFrom .ascii

end Iso2022Jp

end Rubric.Encoding
