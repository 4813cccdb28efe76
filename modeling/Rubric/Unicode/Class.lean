import Rubric.Unicode.Category
import Rubric.Unicode.Property
import Rubric.Unicode.Case
import Rubric.Unicode.Revision

/-! Classes of characters that the library itself asks for, and lower case. Classes for
patterns follow version 16.0 of the standard, and those under `Revised` version 17.0. -/
namespace Rubric.Unicode

def categories (names : String) : CharSet :=
  CharSet.ofRanges ((words names).flatMap fun name =>
    ((find? categoryRows name).getD .none).ranges)

def property (name : String) : CharSet :=
  (find? propertyRows name.toList).getD .none

def whiteSpace : CharSet := property "whitespace"

def decimal : CharSet := categories "nd"

def word : CharSet :=
  CharSet.ofRanges ((property "alphabetic").ranges ++ (categories "mn mc me nd pc").ranges ++
    (property "joincontrol").ranges)

namespace Revised

/-- A set as version 17.0 has it: every code point the version moved changes sides. -/
def revise (name : String) (s : CharSet) : CharSet :=
  s.symmDiff ((find? revisedRows name.toList).getD .none)

def alphabetic : CharSet := revise "alphabetic" (property "alphabetic")

def numeric : CharSet := revise "numeric" (categories "nd nl no")

/-- The characters with a case. -/
def cased : CharSet := revise "cased" (property "cased")

/-- The characters that are passed over when the case of their neighbours matters. -/
def caseIgnorable : CharSet := revise "caseignorable" (property "caseignorable")

/-- The marks that join the character before them. -/
def joiningMarks : CharSet :=
  (revise "graphemeextend" (property "graphemeextend")).inter
    (revise "mark" (categories "mn mc me"))

/-- The characters that do not show: control, format, private, unassigned and separating ones but
the space, and letters that stand for nothing. -/
def hidden : CharSet :=
  ((revise "hidden" (categories "cc cf co cn zl zp zs")).diff (.single ' ')).union
    (property "defaultignorablecodepoint")

end Revised

/-- Adds the characters that differ from those of a set by case alone. -/
def foldCase (s : CharSet) : CharSet :=
  s.closeUnder foldingClasses

def lowerChar (c : Char) : List Char :=
  if c.toNat < 0x80 then [c.toLower]
  else
    match lowerCaseWords.find? fun word => word.head? == some c.toNat with
    | some (_ :: lower) => lower.map Char.ofNat
    | _ => [c]

/-- Whether the first character that is not ignored for case is a cased one. -/
def meetsCased (t : List Char) : Bool :=
  match t.dropWhile Revised.caseIgnorable.contains with
  | [] => false
  | c :: _ => Revised.cased.contains c

/-- The lower case of a text whose characters before `t` are given in reverse. A capital sigma
that ends a word becomes a final sigma. -/
def lowerAfter (before : List Char) : List Char → List Char
  | [] => []
  | c :: rest =>
    let lower := if c = 'Σ' then
        if meetsCased before && !meetsCased rest then ['ς'] else ['σ']
      else lowerChar c
    lower ++ lowerAfter (c :: before) rest

def lower (t : List Char) : List Char :=
  lowerAfter [] t

end Rubric.Unicode
