import Rubric.Pattern.Expr

/-! Looking for a pattern in a text. A set of places is a number: bit `n` tells whether the
place behind the first `n` characters is in the set. A pattern carries the places where a
match may begin to the places where it may end. A loop remembers where it has been, so that
it sets out from no place twice, however often the loops around it come back to it. -/
namespace Rubric.Pattern

/-- A set of places in a text. -/
abbrev Places := Nat

namespace Places

/-- The places of a text where a condition holds on the character before and the text behind. -/
def suiting (p : Option Char → Text → Bool) (before : Option Char) : Text → Places
  | [] => (p before []).toNat
  | c :: rest => (p before (c :: rest)).toNat + 2 * suiting p (some c) rest

def all (t : Text) : Places :=
  suiting (fun _ _ => true) none t

def without (m seen : Places) : Places :=
  (m ||| seen) ^^^ seen

end Places

/-- What the loops of a pattern remember, in the shape of the pattern. A loop remembers the places
it has been at. -/
inductive Memory where
  | blank
  | pair (first rest : Memory)
  | loop (seen : Places) (inner : Memory)

namespace Memory

/-- The memories of two parts. -/
def parts : Memory → Memory × Memory
  | pair first rest => (first, rest)
  | _ => (blank, blank)

/-- The memory of a loop and of what is in it. -/
def trail : Memory → Places × Memory
  | loop seen inner => (seen, inner)
  | _ => (0, blank)

end Memory

/-- What happens when a match has come to new places: it goes on to others, of which those that it
went on to on an earlier visit may be left out. -/
abbrev Visit := Memory → Places → Memory × Places

namespace Visit

/-- Visits a number of copies one behind the other. -/
def copies (visit : Visit) : Nat → Visit
  | 0, mem, m => (mem, m)
  | n + 1, mem, m =>
    if m = 0 then (mem, 0)
    else
      let (one, rest) := mem.parts
      let (one, m) := visit one m
      let (rest, m) := copies visit n rest m
      (.pair one rest, m)

/-- Visits at most so many copies one behind the other. -/
def upTo (visit : Visit) : Nat → Visit
  | 0, mem, m => (mem, m)
  | n + 1, mem, m =>
    if m = 0 then (mem, 0)
    else
      let (one, rest) := mem.parts
      let (one, next) := visit one m
      let (rest, last) := upTo visit n rest next
      (.pair one rest, m ||| last)

/-- Visits a loop over and over, each time from the places that are new to it, until none is. -/
def around (visit : Visit) : Nat → Places → Memory → Places → Places × Memory
  | 0, seen, mem, _ => (seen, mem)
  | n + 1, seen, mem, m =>
    let new := m.without seen
    if new = 0 then (seen, mem)
    else
      let (mem, next) := visit mem new
      around visit n (seen ||| new) mem next

end Visit

/-- A pattern laid along a text. A leap goes from any of its starts over a width of characters, and
a loop visits no more places than the text has. -/
inductive Track where
  | leap (starts : Places) (width : Nat)
  | seq (first rest : Track)
  | alt (first rest : Track)
  | copies (e : Track) (count : Nat)
  | upTo (e : Track) (count : Nat)
  | loop (e : Track) (places : Nat)

/-- The places where a match that has come to new places may end. -/
def Track.visit : Track → Visit
  | leap starts width, mem, m => (mem, (m &&& starts) <<< width)
  | seq first rest, mem, m =>
    let (a, b) := mem.parts
    let (a, m) := first.visit a m
    let (b, m) := rest.visit b m
    (.pair a b, m)
  | alt first rest, mem, m =>
    let (a, b) := mem.parts
    let (a, left) := first.visit a m
    let (b, right) := rest.visit b m
    (.pair a b, left ||| right)
  | copies e count, mem, m => Visit.copies e.visit count mem m
  | upTo e count, mem, m => Visit.upTo e.visit count mem m
  | loop e places, mem, m =>
    let (seen, inner) := mem.trail
    let (all, inner) := Visit.around e.visit (places + 1) seen inner m
    (.loop all inner, all.without seen)

/-- Lays a pattern along a text. No repetition needs more copies than the text has places, because
of that many copies one is empty and stands for any number of its kind. -/
def Expr.track (t : Text) : Expr → Track
  | empty => .leap (Places.all t) 0
  | text s => .leap (Places.suiting (fun _ rest => s.isPrefixOf rest) none t) s.length
  | chars s => .leap (Places.suiting (fun _ rest => rest.head?.any s.contains) none t) 1
  | look l => .leap (Places.suiting (fun before rest => l.holds before rest.head?) none t) 0
  | seq first rest => .seq (first.track t) (rest.track t)
  | alt first rest => .alt (first.track t) (rest.track t)
  | times e least most _ =>
    let places := t.length + 1
    let track := e.track t
    let more := match most with
      | none => .loop track places
      | some most => .upTo track (min (most - least) places)
    .seq (.copies track (min least places)) more
  | group _ e => e.track t

def Expr.found (e : Expr) (t : Text) : Bool :=
  ((e.track t).visit .blank (Places.all t)).2 ≠ 0

end Rubric.Pattern
