import Rubric.Error

/-! Sectioned `key = value` documents. A document is a list of sections in order, and a
section owns its lines in order. A line keeps the exact text it was read from, so a
line that nothing writes to is printed as it was. -/
namespace Rubric

/-- A line of a document: the text it prints as and the key and value it carries, if any. -/
structure Line where
  text : Text
  pair : Option (Text × Text)
deriving DecidableEq, Repr

namespace Line

/-- Reads a line. It carries a pair only when it has an equals sign; the first one divides
key from value, and both are trimmed. -/
def read (text : Text) : Line where
  text := text
  pair := (Text.splitFirst '=' (Text.trim text)).map fun (key, value) =>
    (Text.trim key, Text.trim value)

/-- The text a written pair has. -/
def written (key value : Text) : Text :=
  key ++ " = ".toList ++ value

def ofPair (key value : Text) : Line where
  text := written key value
  pair := some (key, value)

/-- The key of a line that carries a pair. -/
def key (line : Line) : Option Text :=
  line.pair.map Prod.fst

def value (line : Line) : Option Text :=
  line.pair.map Prod.snd

/-- Replaces the value of a line that carries a pair and writes its text anew, which drops
the old spacing. A line without a pair has no value to replace. -/
def setValue (line : Line) (value : Text) : Except Error Line :=
  match line.pair with
  | none => .error (.lineWithoutKey line.text)
  | some (key, _) => .ok (ofPair key value)

end Line

/-- A header and the lines below it. The name is what stands between the header's brackets. -/
structure Section where
  name : Text
  header : Text
  lines : List Line
deriving DecidableEq, Repr

namespace Section

/-- The name of the section that holds the lines before the first header. -/
def preambleName : Text :=
  "__preamble__".toList

def empty (name header : Text) : Section where
  name := name
  header := header
  lines := []

/-- The section for the lines before the first header. It alone has no header. -/
def preamble : Section :=
  empty preambleName []

/-- Whether a section is the preamble. A header that spells its name opens an ordinary
section. -/
def isPreamble (s : Section) : Bool :=
  s.name == preambleName && s.header.isEmpty

/-- The lines that carry exactly this key, in order. -/
def find (s : Section) (key : Text) : List Line :=
  s.lines.filter (·.key == some key)

def position? (s : Section) (key : Text) : Option Nat :=
  s.lines.findIdx? (·.key == some key)

theorem lt_of_position? {s : Section} {key : Text} {i : Nat} (h : s.position? key = some i) :
    i < s.lines.length :=
  (List.findIdx?_eq_some_iff_getElem.mp h).1

def push (s : Section) (line : Line) : Section :=
  { s with lines := s.lines ++ [line] }

def append (s : Section) (key value : Text) : Section :=
  s.push (.ofPair key value)

end Section

/-- A document is the list of its sections. -/
abbrev Document := List Section

end Rubric
