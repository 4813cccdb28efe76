import Rubric.Text.Basic
import Rubric.Unicode.Class

/-! The flags of a pattern. A flag holds from where it is set to the end of the group
around it. -/
namespace Rubric.Pattern

structure Flags where
  ignoreCase : Bool
  multiLine : Bool
  dotAll : Bool
  swapGreed : Bool
  unicode : Bool
  returns : Bool
  verbose : Bool
deriving DecidableEq, Repr

namespace Flags

def initial : Flags where
  ignoreCase := false
  multiLine := false
  dotAll := false
  swapGreed := false
  unicode := true
  returns := false
  verbose := false

/-- Sets or clears the flag with this letter. -/
def set? (flags : Flags) (letter : Char) (on : Bool) : Option Flags :=
  match letter with
  | 'i' => some { flags with ignoreCase := on }
  | 'm' => some { flags with multiLine := on }
  | 's' => some { flags with dotAll := on }
  | 'U' => some { flags with swapGreed := on }
  | 'u' => some { flags with unicode := on }
  | 'R' => some { flags with returns := on }
  | 'x' => some { flags with verbose := on }
  | _ => none

/-- Adds the other cases of a set's characters where case is ignored. Without the flag for
further characters only the letters of the first 128 have another case. -/
def fold (flags : Flags) (s : CharSet) : CharSet :=
  if !flags.ignoreCase then s
  else if flags.unicode then Unicode.foldCase s
  else s.closeUnder ((List.range 26).map fun n => ['A'.toNat + n, 'a'.toNat + n])

/-- Reads the letters of a flag group up to the colon or bracket that ends them, and gives the new
flags, whether there was a letter, that last character and the rest. No letter occurs twice,
the hyphen that turns to clearing occurs once at most, and a letter follows it. -/
def read (flags : Flags) (seen : Text) (clearing dangling : Bool) :
    Text → Option (Flags × Bool × Char × Text)
  | [] => none
  | c :: rest =>
    if c == ':' || c == ')' then
      if dangling then none else some (flags, !seen.isEmpty, c, rest)
    else if seen.contains c then none
    else if c == '-' then read flags (c :: seen) true true rest
    else do read (← flags.set? c (!clearing)) (c :: seen) clearing false rest

end Flags

end Rubric.Pattern
