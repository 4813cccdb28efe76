import Rubric.Encoding.Index
import Rubric.Encoding.Table.Big5
import Rubric.Encoding.Table.Gb18030
import Rubric.Text.Digit

/-! The encodings of Chinese. -/
namespace Rubric.Encoding

namespace Big5

def index : Index := .ofRows 157 Table.big5

/-- The pairs of characters that have one number. -/
def compounds : List (Nat × Text) :=
  [(1133, ['\u00CA', '\u0304']), (1135, ['\u00CA', '\u030C']), (1164, ['\u00EA', '\u0304']),
    (1166, ['\u00EA', '\u030C'])]

def pair? (a b : Nat) : Option Text :=
  if 0x81 ≤ a && a < 0xFF && ((0x40 ≤ b && b < 0x7F) || (0xA1 ≤ b && b < 0xFF)) then
    let n := (a - 0x81) * 157 + (if b < 0x7F then b - 0x40 else b - 0x62)
    match compounds.lookup n with
    | some t => some t
    | none => (index.get? n).map ([·])
  else none

def decode? : Bytes → Option Text :=
  decodeBy (stepOf ascii? pair?)

/-- The least number that is written. The additions before it are only read. -/
def leastWritten : Nat := (0xA1 - 0x81) * 157

/-- The characters with two numbers of which the larger one is written. -/
def laterOnes : List Char :=
  "═╞╡╪十卅".toList

def number? (c : Char) : Option Nat :=
  let least := index.find? (leastWritten ≤ ·) c
  if laterOnes.contains c then
    least.bind fun first => index.find? (first < ·) c
  else least

def bytes? (c : Char) : Option Bytes :=
  if c.toNat < 0x80 then some [.ofNat c.toNat]
  else (number? c).map fun n =>
    twoBytes (n / 157 + 0x81) (if n % 157 < 0x3F then n % 157 + 0x40 else n % 157 + 0x62)

end Big5

namespace Gb18030

def index : Index := .ofRows 190 Table.gb18030

def private? (n : Nat) : Option Char :=
  (Table.gbPrivate.find? fun (first, _, length) => first ≤ n && n < first + length).map
    fun (first, code, _) => Char.ofNat (code + (n - first))

def privateNumber? (c : Char) : Option Nat :=
  (Table.gbPrivate.find? fun (_, code, length) => code ≤ c.toNat && c.toNat < code + length).map
    fun (first, code, _) => first + (c.toNat - code)

/-- The number among those with four bytes that lies in no range, and its character. -/
def exception : Nat × Nat := (7457, 0xE7C7)

/-- The numbers with four bytes between which no character has one. -/
def unused : Nat × Nat := (39419, 189000)

/-- The character with a number among those with four bytes. -/
def fourth? (n : Nat) : Option Char :=
  if unused.1 < n && n < unused.2 then none
  else if n = exception.1 then some (Char.ofNat exception.2)
  else do
    let (first, code) ← Table.gbRanges.reverse.find? fun (first, _) => first ≤ n
    Text.charOf? (code + (n - first))

def fourthNumber? (c : Char) : Option Nat :=
  if c.toNat = exception.2 then some exception.1
  else
    (Table.gbRanges.reverse.find? fun (_, code) => code ≤ c.toNat).map
      fun (first, code) => first + (c.toNat - code)

def isFirst (b : UInt8) : Bool :=
  0x81 ≤ b.toNat && b.toNat < 0xFF

def isDigit (b : UInt8) : Bool :=
  0x30 ≤ b.toNat && b.toNat < 0x3A

def pair? (a b : UInt8) : Option Char :=
  let n := (a.toNat - 0x81) * 190 + (if b.toNat < 0x7F then b.toNat - 0x40 else b.toNat - 0x41)
  if isFirst a && 0x40 ≤ b.toNat && b.toNat ≠ 0x7F && b.toNat < 0xFF then
    (private? n).orElse fun _ => index.get? n
  else none

def quadruple? (a b c d : UInt8) : Option Char :=
  if isFirst a && isDigit b && isFirst c && isDigit d then
    fourth? ((((a.toNat - 0x81) * 10 + (b.toNat - 0x30)) * 126 + (c.toNat - 0x81)) * 10 +
      (d.toNat - 0x30))
  else none

def step : Step
  | [] => none
  | a :: rest =>
    if a.toNat < 0x80 then some ([Char.ofNat a.toNat], rest)
    else if a.toNat = 0x80 then some (['€'], rest)
    else
      match rest with
      | [] => none
      | b :: rest =>
        if isDigit b then
          match rest with
          | c :: d :: rest => (quadruple? a b c d).map fun x => ([x], rest)
          | _ => none
        else (pair? a b).map fun x => ([x], rest)

def decode? : Bytes → Option Text :=
  decodeBy step

/-- The private character that is not written. -/
def unwritten : Nat := 0xE5E5

/-- The bytes of a character. In the small form, which is older, no character has four bytes, and
the euro sign has one. -/
def bytes? (small : Bool) (c : Char) : Option Bytes :=
  if c.toNat < 0x80 then some [.ofNat c.toNat]
  else if c.toNat = unwritten then none
  else if small && c = '€' then some [0x80]
  else
    match Table.gbFormer.lookup c.toNat with
    | some pair => some (twoBytes (pair / 256) (pair % 256))
    | none =>
      match (privateNumber? c).orElse fun _ => index.find? (fun _ => true) c with
      | some n =>
        some (twoBytes (n / 190 + 0x81)
          (if n % 190 < 0x3F then n % 190 + 0x40 else n % 190 + 0x41))
      | none =>
        if small then none
        else (fourthNumber? c).map fun n =>
          twoBytes (n / 12600 + 0x81) (n / 1260 % 10 + 0x30) ++
            twoBytes (n / 10 % 126 + 0x81) (n % 10 + 0x30)

end Gb18030

end Rubric.Encoding
