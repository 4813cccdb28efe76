import Rubric.Json.Basic
import Rubric.Text.Digit

/-! Reading JSON. A text is read or refused as a whole. Arrays and objects may nest 127
deep, and a number must not be larger than every floating-point number. -/
namespace Rubric.Json

open Rubric.Decimal

def depthLimit : Nat := 127

def isSpace (c : Char) : Bool :=
  c == ' ' || c == '\n' || c == '\t' || c == '\r'

def skipSpace (t : Text) : Text :=
  t.dropWhile isSpace

/-- Digits are gathered into an integer while it stays below this bound. -/
def gatherBound : Nat := Nat.pow 2 64

/-- Gathers digits while their number stays below the bound, and gives how many there were. -/
def gather (n count : Nat) : Text → Nat × Nat × Text
  | [] => (n, count, [])
  | c :: rest =>
    let next := n * 10 + Text.digitValue c
    if c.isDigit && next < gatherBound then gather next (count + 1) rest
    else (n, count, c :: rest)

/-- The number closest to `significand` times ten to the power of `exponent` that one rounding of
each of three steps finds: the significand, the power of ten, and their product or quotient.
Powers beyond the range are taken in parts, and large numbers are refused. -/
def floatOfParts : Nat → Binary → Int → Option Binary
  | 0, _, _ => none
  | fuel + 1, x, exponent =>
    if exponent.natAbs ≤ 308 then do
      let power ← Binary.powerOfTen? exponent.natAbs
      if 0 ≤ exponent then x.mul? power else x.div? power
    else if x.significand = 0 then some x
    else if 0 ≤ exponent then none
    else do floatOfParts fuel (← x.div? (← Binary.powerOfTen? 308)) (exponent + 308)

/-- The floating-point number with the given sign, significand and power of ten. -/
def float? (negative : Bool) (significand : Nat) (exponent : Int) : Option JsonNumber := do
  let start ← Binary.ofRatio? significand 1
  -- A magnitude reaches zero after few divisions, so a small bound on their number is enough.
  let x ← floatOfParts 8 start exponent
  some (.float { x with negative := negative })

/-- The bound of an exponent; past it a number counts as zero or as too large. -/
def exponentBound : Nat := Nat.pow 2 31

def readExponent (negative : Bool) (significand : Nat) (start : Int) (t : Text) :
    Option (JsonNumber × Text) :=
  let (down, rest) := match t with
    | '+' :: rest => (false, rest)
    | '-' :: rest => (true, rest)
    | rest => (false, rest)
  let digits := rest.takeWhile Char.isDigit
  let after := rest.dropWhile Char.isDigit
  let e := Text.number 10 digits
  if digits.isEmpty then none
  else if exponentBound ≤ e then
    if significand ≠ 0 && !down then none
    else some (.float ⟨negative, 0, Binary.leastExponent⟩, after)
  else
    (float? negative significand (if down then start - e else start + e)).map (·, after)

def finishFloat (negative : Bool) (significand : Nat) (exponent : Int) (t : Text) :
    Option (JsonNumber × Text) :=
  match t with
  | 'e' :: rest => readExponent negative significand exponent rest
  | 'E' :: rest => readExponent negative significand exponent rest
  | rest => (float? negative significand exponent).map (·, rest)

/-- Reads the digits behind a point, of which there must be one, and finishes the number. Digits
that the integer cannot gather are passed over. -/
def readFraction (negative : Bool) (significand : Nat) (exponent : Int) (t : Text) :
    Option (JsonNumber × Text) :=
  let (n, count, rest) := gather significand 0 t
  if count = 0 && !(rest.head?.any Char.isDigit) then none
  else finishFloat negative n (exponent - count) (rest.dropWhile Char.isDigit)

/-- Reads a number behind its sign. A zero is not followed by a digit. Where the digits before the
point are too many to gather, the rest of them count as powers of ten. -/
def readNumber (negative : Bool) (t : Text) : Option (JsonNumber × Text) :=
  match t with
  | [] => none
  | c :: rest =>
    if !c.isDigit then none
    else if c == '0' && rest.head?.any Char.isDigit then none
    else
      let (n, _, rest) := gather 0 0 t
      let excess := (rest.takeWhile Char.isDigit).length
      let rest := rest.dropWhile Char.isDigit
      match rest with
      | '.' :: after => readFraction negative n excess after
      | 'e' :: after => readExponent negative n excess after
      | 'E' :: after => readExponent negative n excess after
      | rest =>
        if 0 < excess then (float? negative n excess).map (·, rest)
        else if !negative then some (.int n, rest)
        else if n = 0 || Nat.pow 2 63 < n then (float? true n 0).map (·, rest)
        else some (.int (-n), rest)

/-- The number four hexadecimal digits stand for. -/
def unit? (a b c d : Char) : Option Nat :=
  if [a, b, c, d].all Text.isHex then some (Text.number 16 [a, b, c, d]) else none

/-- The character for the letter of a short escape. -/
def short? : Char → Option Char
  | '"' => some '"'
  | '\\' => some '\\'
  | '/' => some '/'
  | 'b' => some '\x08'
  | 'f' => some '\x0c'
  | 'n' => some '\n'
  | 'r' => some '\r'
  | 't' => some '\t'
  | _ => none

/-- Reads a string behind its opening quote. Control characters must be escaped, and the escape of
one half of a surrogate pair must be followed by the other. -/
def readString : Text → Option (Text × Text)
  | [] => none
  | '"' :: rest => some ([], rest)
  | '\\' :: 'u' :: a :: b :: c :: d :: '\\' :: 'u' :: e :: f :: g :: h :: rest => do
    let first ← unit? a b c d
    if first < 0xD800 || 0xE000 ≤ first then
      let (t, after) ← readString ('\\' :: 'u' :: e :: f :: g :: h :: rest)
      some (Char.ofNat first :: t, after)
    else
      let second ← unit? e f g h
      if 0xDC00 ≤ first || second < 0xDC00 || 0xE000 ≤ second then
        none
      else
        let (t, after) ← readString rest
        some (Char.ofNat (0x10000 + (first - 0xD800) * 0x400 + (second - 0xDC00)) :: t, after)
  | '\\' :: 'u' :: a :: b :: c :: d :: rest => do
    let first ← unit? a b c d
    if 0xD800 ≤ first && first < 0xE000 then
      none
    else
      let (t, after) ← readString rest
      some (Char.ofNat first :: t, after)
  | '\\' :: c :: rest => do
    let c ← short? c
    let (t, after) ← readString rest
    some (c :: t, after)
  | c :: rest =>
    if c == '\\' || c.toNat < 0x20 then none
    else do
      let (t, after) ← readString rest
      some (c :: t, after)

mutual

/-- Reads a value and the space before it. `depth` is how deep arrays and objects may still nest.
Every call takes from the fuel, and two calls take at least one character. -/
def readValue : Nat → Nat → Text → Option (Json × Text)
  | 0, _, _ => none
  | fuel + 1, depth, t =>
    match skipSpace t with
    | 'n' :: 'u' :: 'l' :: 'l' :: rest => some (.null, rest)
    | 't' :: 'r' :: 'u' :: 'e' :: rest => some (.bool true, rest)
    | 'f' :: 'a' :: 'l' :: 's' :: 'e' :: rest => some (.bool false, rest)
    | '"' :: rest => (readString rest).map fun (s, after) => (.string s, after)
    | '-' :: rest => (readNumber true rest).map fun (n, after) => (.number n, after)
    | '[' :: rest =>
      if depth = 0 then none
      else
        match skipSpace rest with
        | ']' :: after => some (.array [], after)
        | _ => (readItems fuel (depth - 1) rest).map fun (items, after) => (.array items, after)
    | '\x7b' :: rest =>
      if depth = 0 then none
      else
        match skipSpace rest with
        | '\x7d' :: after => some (.object [], after)
        | _ => (readFields fuel (depth - 1) rest).map fun (fields, after) =>
          (.object fields, after)
    | rest => (readNumber false rest).map fun (n, after) => (.number n, after)

def readItems : Nat → Nat → Text → Option (List Json × Text)
  | 0, _, _ => none
  | fuel + 1, depth, t => do
    let (item, rest) ← readValue fuel depth t
    match skipSpace rest with
    | ']' :: after => some ([item], after)
    | ',' :: after => do
      let (items, after) ← readItems fuel depth after
      some (item :: items, after)
    | _ => none

def readFields : Nat → Nat → Text → Option (List (Text × Json) × Text)
  | 0, _, _ => none
  | fuel + 1, depth, t =>
    match skipSpace t with
    | '"' :: rest => do
      let (name, rest) ← readString rest
      match skipSpace rest with
      | ':' :: rest => do
        let (value, rest) ← readValue fuel depth rest
        match skipSpace rest with
        | '\x7d' :: after => some ([(name, value)], after)
        | ',' :: after => do
          let (fields, after) ← readFields fuel depth after
          some ((name, value) :: fields, after)
        | _ => none
      | _ => none
    | _ => none

end

def readStart (t : Text) : Option (Json × Text) :=
  readValue (2 * t.length + 2) depthLimit t

/-- Reads a text that holds one value and space around it. -/
def read? (t : Text) : Option Json :=
  (readStart t).bind fun (value, rest) =>
    if (skipSpace rest).isEmpty then some value else none

end Rubric.Json
