/-! Sets of characters as ascending ranges of code points. A set of characters is a
condition on one character; ranges let it be complemented and counted as well. -/
namespace Rubric

/-- A set of code points. The ranges hold both their ends, ascend and do not touch. -/
structure CharSet where
  ranges : List (Nat × Nat)
deriving DecidableEq, Repr

namespace CharSet

def top : Nat := 0x10FFFF

def holds : List (Nat × Nat) → Nat → Bool
  | [], _ => false
  | (low, high) :: rest, n => if n < low then false else n ≤ high || holds rest n

/-- Whether a character is in the set. -/
def contains (s : CharSet) (c : Char) : Bool :=
  holds s.ranges c.toNat

def none : CharSet := ⟨[]⟩

def all : CharSet := ⟨[(0, top)]⟩

def single (c : Char) : CharSet := ⟨[(c.toNat, c.toNat)]⟩

/-- The set of the code points from `low` to `high`. -/
def range (low high : Nat) : CharSet :=
  ⟨if low ≤ high then [(low, high)] else []⟩

/-- Merges the range from `low` to `high` with those after it that overlap or touch it. The
list ascends by lower ends. -/
def merge (low high : Nat) : List (Nat × Nat) → List (Nat × Nat)
  | [] => [(low, high)]
  | (low', high') :: rest =>
    if low' ≤ high + 1 then merge low (max high high') rest
    else (low, high) :: merge low' high' rest

/-- The set of all code points in the given ranges, whose order does not matter. -/
def ofRanges (ranges : List (Nat × Nat)) : CharSet :=
  ⟨match ranges.mergeSort fun a b => a.1 ≤ b.1 with
    | [] => []
    | (low, high) :: rest => merge low high rest⟩

def union (a b : CharSet) : CharSet :=
  ofRanges (a.ranges ++ b.ranges)

/-- What an ascending list of ranges leaves out, from code point `next` on. -/
def gaps (next : Nat) : List (Nat × Nat) → List (Nat × Nat)
  | [] => if next ≤ top then [(next, top)] else []
  | (low, high) :: rest =>
    if next < low then (next, low - 1) :: gaps (high + 1) rest else gaps (high + 1) rest

def compl (s : CharSet) : CharSet :=
  ⟨gaps 0 s.ranges⟩

def inter (a b : CharSet) : CharSet :=
  compl (union (compl a) (compl b))

def diff (a b : CharSet) : CharSet :=
  inter a (compl b)

def symmDiff (a b : CharSet) : CharSet :=
  union (diff a b) (diff b a)

/-- Adds to a set, for each of the classes, all its members as soon as one of them is there. -/
def closeUnder (classes : List (List Nat)) (s : CharSet) : CharSet :=
  let met := classes.filter fun members => members.any (holds s.ranges)
  if met.isEmpty then s
  else ofRanges (s.ranges ++ met.flatMap fun members => members.map fun n => (n, n))

def isAscii (s : CharSet) : Bool :=
  s.ranges.all fun r => r.2 < 0x80

end CharSet

end Rubric
