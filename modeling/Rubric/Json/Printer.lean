import Rubric.Json.Basic

/-! Printing JSON, without any space or with each item on a line of its own. -/
namespace Rubric.Json

def hexDigit (n : Nat) : Char :=
  (Nat.digitChar n)

/-- A character inside a printed string. Quotes, backslashes and control characters are escaped. -/
def escape (c : Char) : Text :=
  match c with
  | '"' => ['\\', '"']
  | '\\' => ['\\', '\\']
  | '\n' => ['\\', 'n']
  | '\r' => ['\\', 'r']
  | '\t' => ['\\', 't']
  | '\x08' => ['\\', 'b']
  | '\x0c' => ['\\', 'f']
  | c =>
    if c.toNat < 0x20 then
      ['\\', 'u', '0', '0', hexDigit (c.toNat / 16), hexDigit (c.toNat % 16)]
    else [c]

def quote (t : Text) : Text :=
  '"' :: t.flatMap escape ++ ['"']

mutual

/-- Prints a value without any space. -/
def compact : Json → Text
  | null => "null".toList
  | bool b => if b then "true".toList else "false".toList
  | number n => n.text
  | string t => quote t
  | array items => '[' :: compactItems true items ++ [']']
  | object fields => '\x7b' :: compactFields true fields ++ ['\x7d']

/-- Prints items with commas between them; the flag tells whether the next is the first. -/
def compactItems (first : Bool) : List Json → Text
  | [] => []
  | item :: rest => (if first then [] else [',']) ++ compact item ++ compactItems false rest

def compactFields (first : Bool) : List (Text × Json) → Text
  | [] => []
  | (name, value) :: rest =>
    (if first then [] else [',']) ++ quote name ++ ':' :: compact value ++
      compactFields false rest

end

/-- Starts a line that stands `depth` levels deep. -/
def newLine (depth : Nat) : Text :=
  '\n' :: List.replicate (2 * depth) ' '

mutual

/-- Prints a value that stands `depth` levels deep. Empty arrays and objects stay on one line. -/
def pretty (depth : Nat) : Json → Text
  | array [] => "[]".toList
  | array items => '[' :: prettyItems (depth + 1) true items ++ newLine depth ++ [']']
  | object [] => ['\x7b', '\x7d']
  | object fields => '\x7b' :: prettyFields (depth + 1) true fields ++ newLine depth ++ ['\x7d']
  | null => "null".toList
  | bool b => if b then "true".toList else "false".toList
  | number n => n.text
  | string t => quote t

def prettyItems (depth : Nat) (first : Bool) : List Json → Text
  | [] => []
  | item :: rest =>
    (if first then [] else [',']) ++ newLine depth ++ pretty depth item ++
      prettyItems depth false rest

def prettyFields (depth : Nat) (first : Bool) : List (Text × Json) → Text
  | [] => []
  | (name, value) :: rest =>
    (if first then [] else [',']) ++ newLine depth ++ quote name ++ ": ".toList ++
      pretty depth value ++ prettyFields depth false rest

end

def print (indent : Bool) (value : Json) : Text :=
  if indent then pretty 0 value else compact value

end Rubric.Json
