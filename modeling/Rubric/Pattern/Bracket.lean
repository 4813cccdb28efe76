import Rubric.Pattern.Atom

/-! Classes in brackets. A class may hold classes, and two classes may be joined by one of
three operations, which all bind alike and to the left. -/
namespace Rubric.Pattern

/-- The operations between the parts of a class. -/
inductive SetOp where
  | inter
  | diff
  | symmDiff
deriving DecidableEq, Repr

def SetOp.apply : SetOp → CharSet → CharSet → CharSet
  | inter, a, b => a.inter b
  | diff, a, b => a.diff b
  | symmDiff, a, b => a.symmDiff b

/-- A set together with how deep its notation nests. -/
structure Nested where
  set : CharSet
  depth : Nat

/-- An open bracket: whether it is negated, the operation that awaits its right side, and the items
read since, the last one first. -/
structure Level where
  negated : Bool
  pending : Option (SetOp × Nested)
  items : List Nested

namespace Level

def add (level : Level) (item : Nested) : Level :=
  { level with items := item :: level.items }

/-- Adds an item that nests nothing. -/
def addSet (level : Level) (set : CharSet) : Level :=
  level.add ⟨set, 0⟩

/-- The items as one set. Two or more of them nest one deeper than the deepest. -/
def joined (level : Level) : Nested :=
  match level.items with
  | [] => ⟨.none, 0⟩
  | [item] => item
  | items =>
    ⟨.ofRanges (items.flatMap (·.set.ranges)), items.foldl (fun d i => max d i.depth) 0 + 1⟩

/-- The set read so far. Both sides of an operation get the other cases of their characters first
where case is ignored. -/
def total (flags : Flags) (level : Level) : Nested :=
  let right := level.joined
  match level.pending with
  | none => right
  | some (op, left) =>
    ⟨op.apply (flags.fold left.set) (flags.fold right.set), max left.depth right.depth + 1⟩

def operate (flags : Flags) (level : Level) (op : SetOp) : Level :=
  { level with pending := some (op, level.total flags), items := [] }

/-- The set of a bracket that closes. A complement is refused where a character may be no more than
a byte. -/
def close? (flags : Flags) (level : Level) : Option Nested :=
  let inner := level.total flags
  let set := flags.fold inner.set
  if !level.negated then some ⟨set, inner.depth + 1⟩
  else if flags.unicode then some ⟨set.compl, inner.depth + 1⟩
  else none

end Level

/-- The classes that are named between colons, by their ranges. -/
def namedRanges? (name : Text) : Option (List (Nat × Nat)) :=
  let digits := ('0'.toNat, '9'.toNat)
  let upper := ('A'.toNat, 'Z'.toNat)
  let lower := ('a'.toNat, 'z'.toNat)
  match String.ofList name with
  | "alnum" => some [digits, upper, lower]
  | "alpha" => some [upper, lower]
  | "ascii" => some [(0, 0x7F)]
  | "blank" => some [(9, 9), (32, 32)]
  | "cntrl" => some [(0, 0x1F), (0x7F, 0x7F)]
  | "digit" => some [digits]
  | "graph" => some [(0x21, 0x7E)]
  | "lower" => some [lower]
  | "print" => some [(0x20, 0x7E)]
  | "punct" => some [(0x21, 0x2F), (0x3A, 0x40), (0x5B, 0x60), (0x7B, 0x7E)]
  | "space" => some [(9, 13), (32, 32)]
  | "upper" => some [upper]
  | "word" => some [digits, upper, ('_'.toNat, '_'.toNat), lower]
  | "xdigit" => some [digits, ('A'.toNat, 'F'.toNat), ('a'.toNat, 'f'.toNat)]
  | _ => none

/-- Reads a class named between colons, behind its bracket. Whatever does not spell one of the
names is read as an ordinary class instead. -/
def readNamed : Text → Option (Bool × List (Nat × Nat) × Text)
  | ':' :: rest =>
    let (negated, start) := match rest with
      | '^' :: after => (true, after)
      | _ => (false, rest)
    match start.dropWhile (· != ':') with
    | ':' :: ']' :: after =>
      (namedRanges? (start.takeWhile (· != ':'))).map fun ranges => (negated, ranges, after)
    | _ => none
  | _ => none

/-- Reads hyphens, which stand for themselves at the start of a class. -/
def readHyphens (flags : Flags) (inComment : Bool) (level : Level) : Text → Level × Text
  | [] => (level, [])
  | c :: rest =>
    if inComment then readHyphens flags (c != '\n') level rest
    else if c == '-' then readHyphens flags false (level.addSet (.single '-')) rest
    else if flags.verbose && Text.isBlank c then readHyphens flags false level rest
    else if flags.verbose && c == '#' then readHyphens flags true level rest
    else (level, c :: rest)

/-- Reads the start of a class behind its bracket: a caret, hyphens, and a closing bracket that
stands for itself because it comes first. -/
def readOpening (flags : Flags) (t : Text) : Option (Level × Text) :=
  let (negated, rest) := match skip flags t with
    | '^' :: after => (true, skip flags after)
    | other => (false, other)
  let (level, rest) := readHyphens flags false ⟨negated, none, []⟩ rest
  match rest with
  | [] => none
  | ']' :: after =>
    if level.items.isEmpty then
      match skip flags after with
      | [] => none
      | more => some (level.addSet (.single ']'), more)
    else some (level, ']' :: after)
  | more => some (level, more)

/-- Reads one item of a class, of which there is at least one character. -/
def readItem (flags : Flags) : Text → Option (Atom × Text)
  | [] => none
  | '\\' :: rest => readEscape flags rest
  | c :: rest => some (.char c, rest)

/-- The character that decides whether a hyphen makes a range. In a verbose pattern it is looked
for behind blanks and behind one number sign, and is the very next one if there is none. -/
def peek (flags : Flags) (t : Text) : Option Char :=
  if !flags.verbose then t.head?
  else
    let found := match t.dropWhile Text.isBlank with
      | '#' :: rest => (rest.dropWhile Text.isBlank).head?
      | rest => rest.head?
    found.orElse fun _ => t.head?

/-- Reads an item and, if a hyphen and another item follow, the range between them. -/
def readRange (flags : Flags) (t : Text) : Option (CharSet × Text) := do
  let (first, rest) ← readItem flags t
  match skip flags rest with
  | [] => none
  | '-' :: after =>
    if peek flags after == some ']' || peek flags after == some '-' then
      some (← memberOf first, '-' :: after)
    else
      let (last, rest) ← readItem flags (skip flags after)
      let low ← first.char? flags
      let high ← last.char? flags
      if high < low then
        none
      some (← rangeOf low high, rest)
  | other => some (← memberOf first, other)
where
  /-- A character past the first 128 is no member of a class of bytes. -/
  rangeOf (low high : Char) : Option CharSet :=
    if flags.unicode || high.toNat < 0x80 then some (.range low.toNat high.toNat) else none
  /-- The set of a single item. -/
  memberOf (atom : Atom) : Option CharSet :=
    match atom.char? flags with
    | some c => rangeOf c c
    | none => atom.set? flags

/-- Reads on inside the open brackets, the innermost of them first, until the outermost closes. A
step takes at least one character, so the length of the text bounds their number. -/
def readLevels (flags : Flags) : Nat → Level → List Level → Text → Option (Nested × Text)
  | 0, _, _, _ => none
  | fuel + 1, level, outer, t =>
    match skip flags t with
    | [] => none
    | '[' :: rest =>
      match readNamed rest with
      | some (negated, ranges, after) =>
        match Level.close? flags ⟨negated, none, [⟨.ofRanges ranges, 0⟩]⟩ with
        | some named => readLevels flags fuel (level.addSet named.set) outer after
        | none => none
      | none => do
        let (inner, after) ← readOpening flags rest
        readLevels flags fuel inner (level :: outer) after
    | ']' :: rest => do
      let closed ← level.close? flags
      match outer with
      | [] => some (closed, rest)
      | parent :: others => readLevels flags fuel (parent.add closed) others rest
    | '&' :: '&' :: rest => readLevels flags fuel (level.operate flags .inter) outer rest
    | '-' :: '-' :: rest => readLevels flags fuel (level.operate flags .diff) outer rest
    | '~' :: '~' :: rest => readLevels flags fuel (level.operate flags .symmDiff) outer rest
    | other => do
      let (set, rest) ← readRange flags other
      readLevels flags fuel (level.addSet set) outer rest

def readClass (flags : Flags) (t : Text) : Option (Nested × Text) := do
  let (level, rest) ← readOpening flags t
  readLevels flags (rest.length + 1) level [] rest

end Rubric.Pattern
