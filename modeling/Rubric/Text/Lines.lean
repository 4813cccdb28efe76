import Rubric.Text.Basic

/-! Physical lines. A terminator ends a line and belongs to none, and a terminator at
the very end of a text does not start another line. -/
namespace Rubric.Text

/-- The characters that end a line: line feed, carriage return, vertical tab, form feed, the
file, group and record separators, next line, and the line and paragraph separators. -/
def isBreak (c : Char) : Bool :=
  let n := c.toNat
  (10 ≤ n && n ≤ 13) || (0x1C ≤ n && n ≤ 0x1E) || n == 0x85 || n == 0x2028 || n == 0x2029

/-- The physical lines of a text. A carriage return and the line feed after it are one
terminator; every other line break is one of its own. -/
def physicalLines : Text → List Text
  | [] => []
  | '\r' :: '\n' :: rest => [] :: physicalLines rest
  | c :: rest =>
    if isBreak c then [] :: physicalLines rest
    else
      match physicalLines rest with
      | [] => [[c]]
      | line :: lines => (c :: line) :: lines

end Rubric.Text
