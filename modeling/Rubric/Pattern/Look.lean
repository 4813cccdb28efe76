import Rubric.Unicode.Class

/-! Conditions on a position in a text. They depend on the two characters around the position,
either of which may be missing. -/
namespace Rubric.Pattern

/-- A condition on a position. The flag of a word condition tells whether word characters beyond the
first 128 count. -/
inductive Look where
  | textStart
  | textEnd
  | lineStart
  | lineEnd
  | returnLineStart
  | returnLineEnd
  | wordBoundary (unicode : Bool)
  | notWordBoundary (unicode : Bool)
  | wordStart (unicode : Bool)
  | wordEnd (unicode : Bool)
  | wordStartHalf (unicode : Bool)
  | wordEndHalf (unicode : Bool)
deriving DecidableEq, Repr

/-- Whether a neighbour of a position is a character of words. -/
def isWord (unicode : Bool) : Option Char → Bool
  | none => false
  | some c =>
    if c.toNat < 0x80 then c.isAlphanum || c == '_' else unicode && Unicode.word.contains c

def Look.holds : Look → Option Char → Option Char → Bool
  | textStart, before, _ => before.isNone
  | textEnd, _, after => after.isNone
  | lineStart, before, _ => before.isNone || before == some '\n'
  | lineEnd, _, after => after.isNone || after == some '\n'
  | returnLineStart, before, after =>
    before.isNone || before == some '\n' || (before == some '\r' && after != some '\n')
  | returnLineEnd, before, after =>
    after.isNone || after == some '\r' || (after == some '\n' && before != some '\r')
  | wordBoundary u, before, after => isWord u before != isWord u after
  | notWordBoundary u, before, after => isWord u before == isWord u after
  | wordStart u, before, after => !isWord u before && isWord u after
  | wordEnd u, before, after => isWord u before && !isWord u after
  | wordStartHalf u, before, _ => !isWord u before
  | wordEndHalf u, _, after => !isWord u after

end Rubric.Pattern
