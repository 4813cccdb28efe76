import Rubric.Toml.Draft
import Rubric.Toml.Moment
import Rubric.Toml.Number
import Rubric.Toml.Quoted

/-! Reading TOML. A text is read or refused as a whole. Arrays and tables between braces may nest
79 deep, and a dotted key may have 79 parts. -/
namespace Rubric.Toml

/-- The deepest nesting, and the largest number of parts of a key. -/
def depthLimit : Nat := 79

/-- The characters of keys that are not quoted. -/
def isKeyChar (c : Char) : Bool :=
  c.isAlphanum || c == '_' || c == '-'

def readKey (t : Text) : Option (Text × Text) :=
  match t with
  | '"' :: rest => readBasic rest
  | '\'' :: rest => readLiteral rest
  | t =>
    match t.takeWhile isKeyChar with
    | [] => none
    | name => some (name, t.dropWhile isKeyChar)

/-- Reads the parts of a key, at most as many as the bound, with points between them and blanks
around each. -/
def readParts : Nat → Text → Option (List Text × Text)
  | 0, _ => none
  | bound + 1, t => do
    let (name, rest) ← readKey (skipGap t)
    match skipGap rest with
    | '.' :: after => do
      let (names, after) ← readParts bound after
      some (name :: names, after)
    | after => some ([name], after)

def readDotted (t : Text) : Option (List Text × Text × Text) := do
  let (names, rest) ← readParts depthLimit t
  let key ← names.getLast?
  some (names.dropLast, key, rest)

mutual

/-- Reads a value. `depth` is how deep arrays and tables may still nest. Every call takes from the
fuel, and two calls take at least one character. -/
def readValue : Nat → Nat → Text → Option (Value × Text)
  | 0, _, _ => none
  | fuel + 1, depth, t =>
    match t with
    | '"' :: _ => (readQuoted t).map fun (s, rest) => (.string s, rest)
    | '\'' :: _ => (readQuoted t).map fun (s, rest) => (.string s, rest)
    | 't' :: 'r' :: 'u' :: 'e' :: rest => some (.boolean true, rest)
    | 'f' :: 'a' :: 'l' :: 's' :: 'e' :: rest => some (.boolean false, rest)
    | '[' :: rest =>
      if depth = 0 then none
      else (readItems fuel (depth - 1) rest).map fun (items, after) => (.array items, after)
    | '\x7b' :: rest =>
      if depth = 0 then none
      else
        match skipGap rest with
        | '\x7d' :: after => some (.table [], after)
        | _ => do
          let (pairs, after) ← readPairs fuel (depth - 1) rest
          let fields ← Table.ofPairs? pairs
          some (.table fields, after)
    | t =>
      match readMoment t with
      | some (shown, rest) => some (.moment shown, rest)
      | none => readNumber t

def readItems : Nat → Nat → Text → Option (List Value × Text)
  | 0, _, _ => none
  | fuel + 1, depth, t =>
    match skipLayout false t with
    | ']' :: after => some ([], after)
    | t => do
      let (item, rest) ← readValue fuel depth t
      match skipLayout false rest with
      | ']' :: after => some ([item], after)
      | ',' :: after => do
        let (items, after) ← readItems fuel depth after
        some (item :: items, after)
      | _ => none

def readPairs : Nat → Nat → Text → Option (List (List Text × Text × Value) × Text)
  | 0, _, _ => none
  | fuel + 1, depth, t => do
    let (path, key, rest) ← readDotted t
    match rest with
    | '=' :: rest => do
      let (v, rest) ← readValue fuel depth (skipGap rest)
      match skipGap rest with
      | '\x7d' :: after => some ([(path, key, v)], after)
      | ',' :: after => do
        let (pairs, after) ← readPairs fuel depth after
        some ((path, key, v) :: pairs, after)
      | _ => none
    | _ => none

end

def readAssigned (t : Text) : Option (Value × Text) := do
  let (v, rest) ← readValue (2 * t.length + 2) depthLimit (skipGap t)
  let rest ← lineEnd? rest
  some (v, rest)

/-- Reads a statement and the rest of its line. -/
def readStatement (t : Text) : Option (Statement × Text) :=
  match t with
  | '[' :: '[' :: rest => do
    match ← readDotted rest with
    | (path, key, ']' :: ']' :: rest) =>
      let rest ← lineEnd? rest
      some (.element path key, rest)
    | _ => none
  | '[' :: rest => do
    match ← readDotted rest with
    | (path, key, ']' :: rest) =>
      let rest ← lineEnd? rest
      some (.table path key, rest)
    | _ => none
  | t => do
    match ← readDotted t with
    | (path, key, '=' :: rest) =>
      let (v, rest) ← readAssigned rest
      some (.assign path key v, rest)
    | _ => none

/-- Reads statements up to the end of the text. Each takes at least one character, and one of the
fuel. -/
def readStatements : Nat → Text → Option (List Statement)
  | 0, _ => none
  | fuel + 1, t =>
    match skipLayout false t with
    | [] => some []
    | t => do
      let (statement, rest) ← readStatement t
      let statements ← readStatements fuel rest
      some (statement :: statements)

/-- Reads a table in the order of writing. A byte order mark at the start is passed over. -/
def read? (t : Text) : Option Table := do
  let t := match t with
    | '\uFEFF' :: rest => rest
    | t => t
  Table.ofStatements? (← readStatements (t.length + 1) t)

end Rubric.Toml
