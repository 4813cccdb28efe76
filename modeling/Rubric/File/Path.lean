import Rubric.Text.Basic

/-! Paths as they are written, with slashes between names. -/
namespace Rubric.Path

/-- The names of a path that lead somewhere else, up to the last such name: empty ones and single
points at the end are dropped. -/
def trimNames (names : List Text) : List Text :=
  (names.reverse.dropWhile fun name => name.isEmpty || name = ['.']).reverse

/-- The part of a path that stays when names are dropped from its end: the slash of a path from the
root, or a single point that the path starts with. -/
def root : Text → Text
  | '/' :: _ => ['/']
  | ['.'] => ['.']
  | '.' :: '/' :: _ => ['.']
  | _ => []

/-- The path without its last name. The root and the empty path have none to drop. -/
def parent? (path : Text) : Option Text :=
  let start := root path
  match trimNames (Text.splitAll '/' (path.drop start.length)) with
  | [] => if start = ['.'] then some [] else none
  | names => some (start ++ Text.joinWith '/' (trimNames names.dropLast))

def join (directory name : Text) : Text :=
  if directory.isEmpty || directory.getLast? = some '/' then directory ++ name
  else directory ++ '/' :: name

end Rubric.Path
