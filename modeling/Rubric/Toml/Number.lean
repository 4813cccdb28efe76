import Rubric.Decimal.Binary
import Rubric.Text.Digit
import Rubric.Toml.Basic

/-! Numbers in TOML texts. Single underscores may stand between digits. Integers have 64 bits with
a sign, and no floating-point number may be larger than the largest one, though it may be smaller
than the smallest. -/
namespace Rubric.Toml

open Rubric.Decimal

/-- Takes digits and the underscores between them, and gives the digits. -/
def takeDigits (isDigit : Char → Bool) : Text → Option (Text × Text)
  | '_' :: c :: rest =>
    if isDigit c then (takeDigits isDigit rest).map fun (ds, after) => (c :: ds, after) else none
  | ['_'] => none
  | c :: rest =>
    if isDigit c then (takeDigits isDigit rest).map fun (ds, after) => (c :: ds, after)
    else some ([], c :: rest)
  | [] => some ([], [])

/-- Reads digits, of which there must be one. -/
def readDigits (isDigit : Char → Bool) (t : Text) : Option (Text × Text) :=
  if t.head?.any isDigit then takeDigits isDigit t else none

/-- Reads an integer in another base behind its mark. -/
def readBased (base : Nat) (isDigit : Char → Bool) (t : Text) : Option (Value × Text) := do
  let (ds, rest) ← readDigits isDigit t
  let n : Int := Text.number base ds
  if Text.inRange n then some (.integer n, rest) else none

def takeSign : Text → Text × Text
  | '+' :: rest => (['+'], rest)
  | '-' :: rest => (['-'], rest)
  | rest => ([], rest)

/-- The digits of an exponent with their sign, if the text starts with an exponent. -/
def readExponent (t : Text) : Option (Text × Text) :=
  match t with
  | c :: rest =>
    if c == 'e' || c == 'E' then do
      let (sign, rest) := takeSign rest
      let (ds, rest) ← readDigits Char.isDigit rest
      some (sign ++ ds, rest)
    else some ([], t)
  | [] => some ([], [])

def readFraction (t : Text) : Option (Text × Text) :=
  match t with
  | '.' :: rest => readDigits Char.isDigit rest
  | rest => some ([], rest)

def signedNumber (t : Text) : Int :=
  match takeSign t with
  | (['-'], ds) => -Text.number 10 ds
  | (_, ds) => Text.number 10 ds

/-- Whether digits with a point before the last `places` of them, times a power of ten, are too
large for a floating-point number. Powers far from the range decide at once. -/
def tooLarge (ds : Text) (places : Nat) (exponent : Int) : Bool :=
  let n := Text.number 10 ds
  let power := exponent - places
  let size := (Nat.toDigits 10 n).length + power
  if n = 0 || size < -400 then false
  else if 400 < size then true
  else if 0 ≤ power then (Binary.ofRatio? (n * Nat.pow 10 power.toNat) 1).isNone
  else (Binary.ofRatio? n (Nat.pow 10 (-power).toNat)).isNone

/-- Reads a decimal number. A zero does not start a longer one. -/
def readDecimal (t : Text) : Option (Value × Text) := do
  let (sign, rest) := takeSign t
  let (whole, rest) ← readDigits Char.isDigit rest
  if whole.head? = some '0' && 1 < whole.length then
    none
  let (fraction, rest) ← readFraction rest
  let (exponent, rest) ← readExponent rest
  if fraction.isEmpty && exponent.isEmpty then
    let n := signedNumber (sign ++ whole)
    if Text.inRange n then some (.integer n, rest) else none
  else if sign ≠ ['-'] && tooLarge (whole ++ fraction) fraction.length (signedNumber exponent) then
    none
  else
    let point := if fraction.isEmpty then [] else '.' :: fraction
    let power := if exponent.isEmpty then [] else 'e' :: exponent
    some (.float (sign ++ whole ++ point ++ power), rest)

def readNumber (t : Text) : Option (Value × Text) :=
  match t with
  | '0' :: 'x' :: rest => readBased 16 Text.isHex rest
  | '0' :: 'o' :: rest => readBased 8 (fun c => '0' ≤ c && c ≤ '7') rest
  | '0' :: 'b' :: rest => readBased 2 (fun c => c == '0' || c == '1') rest
  | t =>
    match takeSign t with
    | (sign, 'i' :: 'n' :: 'f' :: rest) => some (.float (sign ++ "inf".toList), rest)
    | (sign, 'n' :: 'a' :: 'n' :: rest) => some (.float (sign ++ "nan".toList), rest)
    | _ => readDecimal t

end Rubric.Toml
