import Rubric.Pattern.Expr
import Rubric.Pattern.Flags
import Rubric.Pattern.Property
import Rubric.Text.Digit

/-! Escapes, and the readers that pass over blanks and comments in verbose patterns. -/
namespace Rubric.Pattern

/-- Passes over blanks and over comments, which run from a number sign to the end of the line. -/
def skipBlank (inComment : Bool) : Text → Text
  | [] => []
  | c :: rest =>
    if inComment then skipBlank (c != '\n') rest
    else if Text.isBlank c then skipBlank false rest
    else if c == '#' then skipBlank true rest
    else c :: rest

/-- Passes over blanks and comments if the pattern is verbose. -/
def skip (flags : Flags) (t : Text) : Text :=
  if flags.verbose then skipBlank false t else t

/-- Takes at most `limit` characters that satisfy `p`, and in a verbose pattern passes over the
blanks and comments before and behind each of them. -/
def collect (flags : Flags) (p : Char → Bool) (inComment : Bool) (limit : Nat) :
    Text → Text × Text
  | [] => ([], [])
  | c :: rest =>
    if inComment then collect flags p (c != '\n') limit rest
    else if flags.verbose && Text.isBlank c then collect flags p false limit rest
    else if flags.verbose && c == '#' then collect flags p true limit rest
    else
      match limit with
      | n + 1 =>
        if p c then
          let (taken, after) := collect flags p false n rest
          (c :: taken, after)
        else ([], c :: rest)
      | 0 => ([], c :: rest)

def collectAll (flags : Flags) (p : Char → Bool) (t : Text) : Text × Text :=
  collect flags p false t.length t

/-- A class with a one letter escape. -/
inductive Shorthand where
  | digit
  | space
  | word
deriving DecidableEq, Repr

def Shorthand.set (unicode : Bool) : Shorthand → CharSet
  | digit => if unicode then Unicode.decimal else .range '0'.toNat '9'.toNat
  | space => if unicode then Unicode.whiteSpace else .ofRanges [(9, 13), (32, 32)]
  | word =>
    if unicode then Unicode.word
    else .ofRanges [('0'.toNat, '9'.toNat), ('A'.toNat, 'Z'.toNat), ('_'.toNat, '_'.toNat),
      ('a'.toNat, 'z'.toNat)]

/-- The smallest parts of a pattern. A pair of hexadecimal digits is kept apart from other
characters because it may mean a byte. -/
inductive Atom where
  | char (c : Char)
  | pair (n : Nat)
  | look (l : Look)
  | shorthand (s : Shorthand) (negated : Bool)
  | property (q : Query) (negated : Bool)
deriving DecidableEq, Repr

/-- The characters with a meaning of their own somewhere in a pattern. -/
def isMeta (c : Char) : Bool :=
  "\\.+*?()|[]\x7b\x7d^$#&-~".toList.contains c

/-- The characters a backslash may stand before without changing them: all of the first 128 but
letters, digits and angle brackets. -/
def isEscapable (c : Char) : Bool :=
  isMeta c || (c.toNat < 0x80 && !c.isAlphanum && c != '<' && c != '>')

/-- Reads the code point behind the letter of a hexadecimal escape: digits between braces, or
exactly as many digits as the letter asks for. -/
def readHex (flags : Flags) (digits : Nat) (t : Text) : Option (Atom × Text) :=
  match skip flags t with
  | '\x7b' :: rest =>
    match collectAll flags Text.isHex rest with
    | ([], _) => none
    | (ds, '\x7d' :: after) => do
      let c ← Text.charOf? (Text.number 16 ds)
      some (.char c, skip flags after)
    | _ => none
  | rest => do
    let (ds, after) := collect flags Text.isHex false digits rest
    if ds.length ≠ digits then
      none
    let c ← Text.charOf? (Text.number 16 ds)
    some (if digits = 2 then .pair c.toNat else .char c, after)

/-- Splits at the first place where `mark` stands. -/
def splitAt? (mark : Text) : Text → Option (Text × Text)
  | [] => none
  | c :: rest =>
    if mark.isPrefixOf (c :: rest) then some ([], (c :: rest).drop mark.length)
    else (splitAt? mark rest).map fun (before, after) => (c :: before, after)

/-- The query between the braces of a class escape, and whether it asks for the characters whose
value is another one. The signs for unequal and equal and the colon all part a property from
its value. -/
def queryOf (name : Text) : Query × Bool :=
  match splitAt? ['!', '='] name with
  | some (property, value) => (⟨some property, value⟩, true)
  | none =>
    match (splitAt? [':'] name).orElse fun _ => splitAt? ['='] name with
    | some (property, value) => (⟨some property, value⟩, false)
    | none => (⟨none, name⟩, false)

/-- Reads the name of a class behind the letter of its escape. -/
def readProperty (flags : Flags) (negated : Bool) (t : Text) : Option (Atom × Text) :=
  match skip flags t with
  | [] => none
  | '\x7b' :: rest =>
    match collectAll flags (· != '\x7d') rest with
    | (name, _ :: after) =>
      let (query, unequal) := queryOf name
      some (.property query (negated != unequal), after)
    | (_, []) => none
  | '\\' :: _ => none
  | c :: rest => some (.property ⟨none, [c]⟩ negated, skip flags rest)

/-- Reads the special name in braces that may follow the escape of a word boundary. Where the brace
is not followed by a letter or hyphen, nothing is read. -/
def readBoundary (flags : Flags) (t : Text) : Option (Atom × Text) :=
  let plain := some (Atom.look (.wordBoundary flags.unicode), t)
  let isName := fun c : Char => c.isAlpha || c == '-'
  match t with
  | '\x7b' :: rest =>
    match skip flags rest with
    | [] => none
    | c :: _ =>
      if !isName c then plain
      else
        match collectAll flags isName rest with
        | (name, '\x7d' :: after) =>
          match String.ofList name with
          | "start" => some (.look (.wordStart flags.unicode), after)
          | "end" => some (.look (.wordEnd flags.unicode), after)
          | "start-half" => some (.look (.wordStartHalf flags.unicode), after)
          | "end-half" => some (.look (.wordEndHalf flags.unicode), after)
          | _ => none
        | _ => none
  | _ => plain

def readEscape (flags : Flags) : Text → Option (Atom × Text)
  | [] => none
  | c :: rest =>
    if isEscapable c then some (.char c, rest)
    else
      match c with
      | 'x' => readHex flags 2 rest
      | 'u' => readHex flags 4 rest
      | 'U' => readHex flags 8 rest
      | 'p' => readProperty flags false rest
      | 'P' => readProperty flags true rest
      | 'd' => some (.shorthand .digit false, rest)
      | 'D' => some (.shorthand .digit true, rest)
      | 's' => some (.shorthand .space false, rest)
      | 'S' => some (.shorthand .space true, rest)
      | 'w' => some (.shorthand .word false, rest)
      | 'W' => some (.shorthand .word true, rest)
      | 'a' => some (.char '\x07', rest)
      | 'f' => some (.char '\x0c', rest)
      | 't' => some (.char '\t', rest)
      | 'n' => some (.char '\n', rest)
      | 'r' => some (.char '\r', rest)
      | 'v' => some (.char '\x0b', rest)
      | 'A' => some (.look .textStart, rest)
      | 'z' => some (.look .textEnd, rest)
      | 'b' => readBoundary flags rest
      | 'B' => some (.look (.notWordBoundary flags.unicode), rest)
      | '<' => some (.look (.wordStart flags.unicode), rest)
      | '>' => some (.look (.wordEnd flags.unicode), rest)
      | _ => none

namespace Atom

/-- The class an atom stands for. The complement of a class is refused where a character may be no
more than a byte, because it would hold parts of characters. -/
def set? (flags : Flags) : Atom → Option CharSet
  | shorthand s negated =>
    if !negated then some (s.set flags.unicode)
    else if flags.unicode then some (s.set true).compl
    else none
  | property q negated => do
    if !flags.unicode then
      none
    let s := flags.fold (← q.set?)
    some (if negated then s.compl else s)
  | _ => none

def char? (flags : Flags) : Atom → Option Char
  | char c => some c
  | pair n => if flags.unicode || n < 0x80 then some (.ofNat n) else none
  | _ => none

def expr? (flags : Flags) (atom : Atom) : Option Expr :=
  match atom with
  | look l => some (.look l)
  | char _ | pair _ => (atom.char? flags).map fun c => .ofSet (flags.fold (.single c))
  | shorthand .. | property .. => (atom.set? flags).map .ofSet

end Atom

end Rubric.Pattern
