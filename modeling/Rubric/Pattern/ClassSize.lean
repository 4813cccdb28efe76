import Rubric.Pattern.ByteRange
import Rubric.Pattern.Tally

/-! What a set of characters takes up. Read forwards, the products of byte ranges become a tree
whose equal ends are shared; read backwards, each becomes a row of states that shares its
first bytes with others. -/
namespace Rubric.Pattern

/-- Products that start with one range, as that range and what follows it. -/
abbrev Bough := ByteRange × List (List ByteRange)

/-- Puts neighbouring products with the same first range together. -/
def boughs : List (List ByteRange) → List Bough
  | [] => []
  | [] :: rest => boughs rest
  | (range :: tail) :: rest =>
    match boughs rest with
    | (other, tails) :: more =>
      if other = range then (range, tail :: tails) :: more
      else (range, [tail]) :: (other, tails) :: more
    | [] => [(range, [tail])]

/-- Makes the states of a tree of products, from its ends to its root, and gives the number of the
root. A state is described by its edges, each a range and the state it leads to. -/
def tree? (target : Nat) : Nat → List (List ByteRange) → Workshop → Option (Nat × Workshop)
  | 0, _, w => some (target, w)
  | depth + 1, products, w =>
    if products = [[]] then some (target, w)
    else do
      let (edges, w) ← (boughs products).foldlM
        (fun (edges, w) (range, tails) => do
          let (next, w) ← tree? target depth tails w
          some (next :: range.2 :: range.1 :: edges, w))
        (([] : List Nat), w)
      w.state? edges.reverse (edgeSize * (edges.length / 3))

/-- Makes the states of one product before the state `next`, from its first byte on. -/
def product? (next : Nat) : List ByteRange → Workshop → Option Workshop
  | [], w => some w
  | (low, high) :: rest, w => do
    let (state, w) ← w.state? [next, low, high] 0
    product? state rest w

/-- Makes the states of a set of characters. The first 128 need two states at most, one of which
has an edge for each range. -/
def CharSet.make? (s : CharSet) (backward : Bool) (t : Tally) : Option Tally :=
  if s.isAscii then t.add? 2 (edgeSize * s.ranges.length)
  else if backward then do
    let target := t.states + 1
    let w ← (byteRanges s).foldlM
      (fun w product => do
        let w ← product? target product w
        let tally ← w.tally.add? 0 branchSize
        some { w with tally })
      (⟨← t.add? 2 0, .none 1000⟩ : Workshop)
    some w.tally
  else do
    let (_, w) ← tree? t.states 4 (byteRanges s) ⟨← t.add? 1 0, .none 10000⟩
    some w.tally

end Rubric.Pattern
