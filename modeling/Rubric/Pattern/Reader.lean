import Rubric.Pattern.Bracket
import Rubric.Pattern.Size

/-! Reading a pattern. The reader keeps a frame for every open group and takes one part of
the pattern at a time. It accepts or refuses a pattern as a whole. -/
namespace Rubric.Pattern

/-- A part of a pattern that has been read: what it says, how deep its notation nests, and whether
a repetition may follow it. -/
structure Item where
  expr : Expr
  depth : Nat
  repeatable : Bool

/-- An open group, or the whole pattern: its number if it captures, the flags to return to behind
it, and the items since the last bar and the alternatives before it, the latest first in both. -/
structure Frame where
  number : Option Nat
  outer : Flags
  items : List Item
  branches : List Item

/-- What the reader knows between two parts: the flags in force, how many groups capture and the
names of those that have one, the innermost open group and the groups around it. -/
structure Reader where
  flags : Flags
  groups : Nat
  names : List Text
  frame : Frame
  parents : List Frame

def depthLimit : Nat := 250

/-- The greatest depth among items. -/
def deepest (items : List Item) : Nat :=
  items.foldl (fun d i => max d i.depth) 0

namespace Frame

def sequence (frame : Frame) : Item :=
  match frame.items with
  | [] => ⟨.empty, 0, true⟩
  | [item] => item
  | items => ⟨.row (items.reverse.map (·.expr)), deepest items + 1, true⟩

def alternatives (frame : Frame) : Item :=
  match frame.branches with
  | [] => frame.sequence
  | branches =>
    let all := frame.sequence :: branches
    ⟨.choice (all.reverse.map (·.expr)), deepest all + 1, true⟩

def add (frame : Frame) (item : Item) : Frame :=
  { frame with items := item :: frame.items }

/-- Ends an alternative. -/
def bar (frame : Frame) : Frame :=
  { frame with items := [], branches := frame.sequence :: frame.branches }

end Frame

/-- Reads the question mark that may follow a repetition. It turns the preference for more copies
into one for fewer. -/
def readGreed (flags : Flags) : Text → Bool × Text
  | '?' :: rest => (flags.swapGreed, rest)
  | rest => (!flags.swapGreed, rest)

def readCount (flags : Flags) (t : Text) : Option Nat × Text :=
  let (digits, rest) := collectAll flags Char.isDigit (t.dropWhile Text.isBlank)
  let n := Text.number 10 digits
  (if digits.isEmpty || Nat.pow 2 32 ≤ n then none else some n, rest.dropWhile Text.isBlank)

/-- Reads the counts of a repetition behind the opening brace. A count without a comma is exact,
and the upper count may be missing. -/
def readBounds (flags : Flags) (t : Text) : Option (Nat × Option Nat × Text) := do
  let (count, rest) := readCount flags (skip flags t)
  let least ← count
  let (most, rest) ← match rest with
    | ',' :: after =>
      match skip flags after with
      | '\x7d' :: _ => some (none, skip flags after)
      | other => do
        let (count, rest) := readCount flags other
        let most ← count
        if most < least then
          none
        some (some most, rest)
    | other => some (some least, other)
  match rest with
  | '\x7d' :: after => some (least, most, skip flags after)
  | _ => none

/-- Whether a group may have this name. It starts with a letter or underscore; digits, periods and
square brackets may follow. -/
def isGroupName : Text → Bool
  | [] => false
  | c :: rest =>
    (c == '_' || Unicode.Revised.alphabetic.contains c) && rest.all fun c =>
      c == '_' || c == '.' || c == '[' || c == ']' || Unicode.Revised.alphabetic.contains c ||
        Unicode.Revised.numeric.contains c

namespace Reader

def initial : Reader where
  flags := .initial
  groups := 0
  names := []
  frame := ⟨none, .initial, [], []⟩
  parents := []

def add (r : Reader) (item : Item) : Reader :=
  { r with frame := r.frame.add item }

/-- Adds a part that nests nothing. -/
def addExpr (r : Reader) (e : Expr) : Reader :=
  r.add ⟨e, 0, true⟩

def openGroup (r : Reader) (number : Option Nat) (inner : Flags) : Reader :=
  { r with
    flags := inner
    frame := ⟨number, r.flags, [], []⟩
    parents := r.frame :: r.parents }

def openCapture (r : Reader) : Reader :=
  { r with groups := r.groups + 1 }.openGroup (some (r.groups + 1)) r.flags

def closeGroup? (r : Reader) : Option Reader :=
  match r.parents with
  | [] => none
  | parent :: others =>
    let inner := r.frame.alternatives
    let e := match r.frame.number with
      | some n => .group n inner.expr
      | none => inner.expr
    some { r with
      flags := r.frame.outer
      frame := parent.add ⟨e, inner.depth + 1, true⟩
      parents := others }

/-- Repeats the last item and reads the preference behind the repetition. -/
def repeatLast? (r : Reader) (least : Nat) (most : Option Nat) (t : Text) :
    Option (Reader × Text) :=
  match r.frame.items with
  | [] => none
  | last :: before =>
    if last.repeatable then
      let (greedy, rest) := readGreed r.flags t
      let item := ⟨last.expr.repeated least most greedy, last.depth + 1, true⟩
      some ({ r with frame := { r.frame with items := item :: before } }, rest)
    else none

/-- Reads a group name up to its closing bracket and opens the group. No two groups share a name. -/
def openNamed? (r : Reader) (t : Text) : Option (Reader × Text) :=
  let name := t.takeWhile (· != '>')
  match t.dropWhile (· != '>') with
  | [] => none
  | _ :: rest =>
    if isGroupName name && !r.names.contains name then
      some ({ r with names := name :: r.names }.openCapture, rest)
    else none

/-- Reads what follows an opening parenthesis. Conditions on what lies around a match are
refused. -/
def openParen? (r : Reader) (t : Text) : Option (Reader × Text) :=
  match skip r.flags t with
  | '?' :: '=' :: _ => none
  | '?' :: '!' :: _ => none
  | '?' :: '<' :: '=' :: _ => none
  | '?' :: '<' :: '!' :: _ => none
  | '?' :: '<' :: rest => r.openNamed? rest
  | '?' :: 'P' :: '<' :: rest => r.openNamed? rest
  | '?' :: rest => do
    let (flags, changed, ending, after) ← r.flags.read [] false false rest
    if ending == ':' then
      some (r.openGroup none flags, after)
    else if changed then
      some ({ r with flags := flags }.add ⟨.empty, 0, false⟩, after)
    else
      none
  | rest => some (r.openCapture, rest)

/-- The set a period stands for. It is refused where a character may be no more than a byte. -/
def dot? (flags : Flags) : Option CharSet :=
  if !flags.unicode then none
  else if flags.dotAll then some .all
  else if flags.returns then some (CharSet.ofRanges [(10, 10), (13, 13)]).compl
  else some (CharSet.single '\n').compl

/-- What a caret stands for. -/
def caret (flags : Flags) : Look :=
  if !flags.multiLine then .textStart
  else if flags.returns then .returnLineStart
  else .lineStart

def dollar (flags : Flags) : Look :=
  if !flags.multiLine then .textEnd
  else if flags.returns then .returnLineEnd
  else .lineEnd

/-- Reads the part of a pattern that starts with the character `c`. -/
def step (r : Reader) (c : Char) (rest : Text) : Option (Reader × Text) :=
  match c with
  | '(' => r.openParen? rest
  | ')' => r.closeGroup?.map fun r => (r, rest)
  | '|' => some ({ r with frame := r.frame.bar }, rest)
  | '[' => (readClass r.flags rest).map fun (cls, after) =>
    (r.add ⟨.ofSet cls.set, cls.depth, true⟩, after)
  | '?' => r.repeatLast? 0 (some 1) rest
  | '*' => r.repeatLast? 0 none rest
  | '+' => r.repeatLast? 1 none rest
  | '\x7b' => do
    let (least, most, after) ← readBounds r.flags rest
    r.repeatLast? least most after
  | '\\' => do
    let (atom, after) ← readEscape r.flags rest
    some (r.addExpr (← atom.expr? r.flags), after)
  | '.' => (dot? r.flags).map fun s => (r.addExpr (.ofSet s), rest)
  | '^' => some (r.addExpr (.look (caret r.flags)), rest)
  | '$' => some (r.addExpr (.look (dollar r.flags)), rest)
  | c => ((Atom.char c).expr? r.flags).map fun e => (r.addExpr e, rest)

/-- Reads the parts of a pattern one by one. A step takes at least one character, so the length of
the pattern bounds their number. -/
def run : Nat → Reader → Text → Option Reader
  | 0, r, t => if (skip r.flags t).isEmpty then some r else none
  | fuel + 1, r, t =>
    match skip r.flags t with
    | [] => some r
    | c :: rest => do
      let (r, rest) ← r.step c rest
      run fuel r rest

end Reader

/-- The meaning of a pattern whose groups are all closed and that does not nest too deep. -/
def read? (pattern : Text) : Option Expr := do
  let r ← Reader.initial.run pattern.length pattern
  let whole := r.frame.alternatives
  if r.parents.isEmpty && whole.depth ≤ depthLimit then
    some whole.expr
  else
    none

/-- The meaning of a pattern that can be compiled: it can be read and is not too large. -/
def compile? (pattern : Text) : Option Expr :=
  (read? pattern).filter Expr.fits

end Rubric.Pattern
