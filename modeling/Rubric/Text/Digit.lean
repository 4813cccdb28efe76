import Rubric.Text.Basic

/-! Digits, the numbers they stand for, and the characters those number. -/
namespace Rubric.Text

def isHex (c : Char) : Bool :=
  c.isDigit || ('a' ≤ c && c ≤ 'f') || ('A' ≤ c && c ≤ 'F')

def digitValue (c : Char) : Nat :=
  if c.isDigit then c.toNat - '0'.toNat
  else if 'a' ≤ c then c.toNat - 'a'.toNat + 10
  else c.toNat - 'A'.toNat + 10

def number (base : Nat) (digits : Text) : Nat :=
  digits.foldl (fun n c => n * base + digitValue c) 0

/-- The character with this code point, unless it is a surrogate or too large. -/
def charOf? (n : Nat) : Option Char :=
  if n < 0xD800 || (0xE000 ≤ n && n ≤ 0x10FFFF) then some (Char.ofNat n) else none

/-- Whether an integer fits in 64 bits with a sign. -/
def inRange (n : Int) : Bool :=
  -Int.pow 2 63 ≤ n && n < Int.pow 2 63

/-- The integer that a sign, which may be missing, and decimal digits stand for, if it is in
range. -/
def readInt? (t : Text) : Option Int :=
  let (negative, digits) := match t with
    | '-' :: rest => (true, rest)
    | '+' :: rest => (false, rest)
    | rest => (false, rest)
  let n := number 10 digits
  let signed : Int := if negative then -n else n
  if !digits.isEmpty && digits.all Char.isDigit && inRange signed then some signed else none

end Rubric.Text
