import Rubric.Text.Basic
import Rubric.Unicode.Class

/-! Texts between quotes, with escapes for what would not show. -/
namespace Rubric.Text

def codeEscape (c : Char) : Text :=
  "\\u\x7b".toList ++ Nat.toDigits 16 c.toNat ++ ['\x7d']

/-- A character inside a quoted text. Quotes and backslashes are escaped, as are line ends, tabs,
NUL, marks that would join their neighbour, and all that does not show. -/
def escapeChar (c : Char) : Text :=
  match c with
  | '\x00' => "\\0".toList
  | '\t' => "\\t".toList
  | '\r' => "\\r".toList
  | '\n' => "\\n".toList
  | '\\' => "\\\\".toList
  | '"' => "\\\"".toList
  | c =>
    if Unicode.Revised.joiningMarks.contains c || Unicode.Revised.hidden.contains c then
      codeEscape c
    else [c]

def quoted (t : Text) : Text :=
  '"' :: t.flatMap escapeChar ++ ['"']

end Rubric.Text
