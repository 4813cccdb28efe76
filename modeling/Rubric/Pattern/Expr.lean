import Rubric.Pattern.Look
import Rubric.Text.Basic
import Rubric.Text.CharSet

/-! Patterns, and the ways to put them together. A pattern is kept in a normal form that does
not show how it was grouped: rows hold no rows, choices no choices, neighbouring texts are
one text, and a choice between single characters is a set of them. -/
namespace Rubric.Pattern

/-- What a pattern says, freed of the way it is written. The first part of a row is no row itself,
and the first branch of a choice no choice. Whether a repetition prefers more copies to fewer,
and the number of a group, change no answer but keep patterns apart. -/
inductive Expr where
  | empty
  | text (t : Text)
  | chars (s : CharSet)
  | look (l : Look)
  | seq (first rest : Expr)
  | alt (first rest : Expr)
  | times (e : Expr) (least : Nat) (most : Option Nat) (greedy : Bool)
  | group (number : Nat) (e : Expr)
deriving DecidableEq, Repr

namespace Expr

/-- The pattern of one character out of a set. A set with one member is a text. -/
def ofSet (s : CharSet) : Expr :=
  match s.ranges with
  | [(low, high)] => if low = high then text [.ofNat low] else chars s
  | _ => chars s

/-- Puts a part in front of a row. The empty pattern adds nothing, and texts that meet are
joined. -/
def followedBy : Expr → Expr → Expr
  | empty, e => e
  | e, empty => e
  | seq first rest, e => first.followedBy (rest.followedBy e)
  | text s, text t => text (s ++ t)
  | text s, seq (text t) rest => seq (text (s ++ t)) rest
  | part, e => seq part e

def row (parts : List Expr) : Expr :=
  parts.foldr followedBy empty

def parts : Expr → List Expr
  | seq first rest => first :: rest.parts
  | e => [e]

def branches : Expr → List Expr
  | alt first rest => first :: rest.branches
  | e => [e]

/-- The choice between branches that share nothing. -/
def chain : List Expr → Expr
  | [] => empty
  | [e] => e
  | e :: rest => alt e (chain rest)

def letter? : Expr → Option Char
  | text [c] => some c
  | _ => none

def set? : Expr → Option CharSet
  | chars s => some s
  | _ => none

/-- The parts of a row of at least two. -/
def rowParts? : Expr → Option (List Expr)
  | seq first rest => some (seq first rest).parts
  | _ => none

/-- The choice between branches that are all characters or all sets. -/
def merged? (branches : List Expr) : Option Expr :=
  match branches.mapM letter? with
  | some letters => some (ofSet (.ofRanges (letters.map fun c => (c.toNat, c.toNat))))
  | none => (branches.mapM set?).map fun sets => ofSet (.ofRanges (sets.flatMap (·.ranges)))

/-- The choice between branches. Whether they start alike is not looked at. -/
def choiceOf : List Expr → Expr
  | [e] => e
  | branches => (merged? branches).getD (chain branches)

/-- The parts with which two rows start. -/
def sharedParts : List Expr → List Expr → List Expr
  | a :: as, b :: bs => if a = b then a :: sharedParts as bs else []
  | _, _ => []

/-- The choice between branches, where parts with which all of them start are put before it. -/
def choice (alternatives : List Expr) : Expr :=
  let flat := alternatives.flatMap branches
  match flat.mapM rowParts? with
  | some (first :: second :: others) =>
    let shared := (second :: others).foldl sharedParts first
    let rests := (first :: second :: others).map fun parts => row (parts.drop shared.length)
    if shared.isEmpty then chain flat else row (shared ++ [choiceOf (rests.flatMap branches)])
  | _ => choiceOf flat

/-- Whether every match is empty. -/
def isHollow : Expr → Bool
  | empty | look _ => true
  | text _ | chars _ => false
  | seq a b | alt a b => a.isHollow && b.isHollow
  | times e .. | group _ e => e.isHollow

/-- A repetition. What can only be empty gains nothing from being taken twice. -/
def repeated (e : Expr) (least : Nat) (most : Option Nat) (greedy : Bool) : Expr :=
  let (least, most) :=
    if e.isHollow then (min least 1, some (min (most.getD 1) 1)) else (least, most)
  if most = some 0 then empty
  else if least = 1 ∧ most = some 1 then e
  else times e least most greedy

end Expr

end Rubric.Pattern
