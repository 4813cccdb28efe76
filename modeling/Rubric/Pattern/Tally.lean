import Std.Data.HashMap

/-! What a compiled pattern takes up. A pattern is compiled to states that are numbered in the
order of their making; some states keep a list beside them. -/
namespace Rubric.Pattern

/-- The largest size that compiles, in bytes. -/
def sizeLimit : Nat := 10 * Nat.pow 2 20

/-- The bytes one state takes. -/
def stateSize : Nat := 32

/-- The bytes one edge of a state takes that has many. -/
def edgeSize : Nat := 8

/-- The bytes one branch of a fork takes. -/
def branchSize : Nat := 4

/-- The states made so far, and the bytes of the lists beside them. -/
structure Tally where
  states : Nat
  extra : Nat
deriving DecidableEq, Repr

namespace Tally

def zero : Tally := ⟨0, 0⟩

def size (t : Tally) : Nat :=
  stateSize * t.states + t.extra

/-- Makes states with lists of so many bytes beside them, unless that is too large. -/
def add? (t : Tally) (states extra : Nat) : Option Tally :=
  let sum : Tally := ⟨t.states + states, t.extra + extra⟩
  if sum.size ≤ sizeLimit then some sum else none

def copies? (make : Tally → Option Tally) : Nat → Tally → Option Tally
  | 0, t => some t
  | n + 1, t => do copies? make n (← make t)

end Tally

/-- States that may serve again, under the numbers that describe them. There is a fixed number of
slots, and the description decides on the slot, so a later state may drive out an earlier. -/
structure Reuse where
  slots : Nat
  kept : Std.HashMap Nat (List Nat × Nat)

namespace Reuse

def none (slots : Nat) : Reuse := ⟨slots, ∅⟩

/-- Mixes the numbers of a description into one. -/
def mix (key : List Nat) : UInt64 :=
  key.foldl (fun h n => (h ^^^ n.toUInt64) * 1099511628211) 14695981039346656037

def slot (r : Reuse) (key : List Nat) : Nat :=
  (mix key).toNat % r.slots

def find? (r : Reuse) (key : List Nat) : Option Nat :=
  match r.kept[r.slot key]? with
  | some (other, state) => if other = key then some state else Option.none
  | Option.none => Option.none

def keep (r : Reuse) (key : List Nat) (state : Nat) : Reuse :=
  { r with kept := r.kept.insert (r.slot key) (key, state) }

end Reuse

structure Workshop where
  tally : Tally
  reuse : Reuse

/-- The number of a state with this description. A new one is made only if none may serve. -/
def Workshop.state? (w : Workshop) (key : List Nat) (extra : Nat) : Option (Nat × Workshop) :=
  match w.reuse.find? key with
  | some state => some (state, w)
  | none => (w.tally.add? 1 extra).map fun tally =>
    (w.tally.states, ⟨tally, w.reuse.keep key w.tally.states⟩)

end Rubric.Pattern
