import Rubric.Text.CharSet

/-! The written form of the character tables. A table is a list of rows, and a row names
a set of code points and lists its ranges: for each range, how far it starts after the
last one ended and how many code points follow its first. All numbers are in base
thirty-six. -/
namespace Rubric.Unicode

/-- A row of a table: the names of a set, with blanks between them, and its ranges. -/
structure Row where
  names : String
  ranges : String

/-- The number a digit of base thirty-six stands for. -/
def digit36 (c : Char) : Nat :=
  if c.isDigit then c.toNat - '0'.toNat else c.toNat - 'a'.toNat + 10

/-- The numbers of a word list. Every run of digits and letters is a number, and anything else
parts two numbers. -/
def numbers (current : Option Nat) : List Char → List Nat
  | [] => current.toList
  | c :: rest =>
    if c.isAlphanum then numbers (some (current.getD 0 * 36 + digit36 c)) rest
    else current.toList ++ numbers none rest

/-- Turns gaps and lengths into ranges, the first gap counted from `next`. -/
def rangesFrom (next : Nat) : List Nat → List (Nat × Nat)
  | gap :: length :: rest =>
    (next + gap, next + gap + length) :: rangesFrom (next + gap + length + 1) rest
  | _ => []

def words (text : String) : List (List Char) :=
  (text.toList.splitBy fun a b => a.isWhitespace == b.isWhitespace).filter fun word =>
    !word.all Char.isWhitespace

def codeWords (text : String) : List (List Nat) :=
  (words text).map (numbers none)

namespace Row

/-- The set of code points a row lists. -/
def set (row : Row) : CharSet :=
  ⟨rangesFrom 0 (numbers none row.ranges.toList)⟩

/-- Whether a row goes by a name, written in small letters and without separators. -/
def hasName (row : Row) (name : List Char) : Bool :=
  (words row.names).contains name

end Row

def find? (rows : List Row) (name : List Char) : Option CharSet :=
  (rows.find? (·.hasName name)).map Row.set

end Rubric.Unicode
