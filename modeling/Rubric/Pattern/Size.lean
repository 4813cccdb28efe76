import Rubric.Pattern.ClassSize
import Rubric.Pattern.Expr

/-! What a pattern takes up, which bounds what may be compiled. A pattern is compiled twice, to be
read forwards and backwards, and neither may be too large. -/
namespace Rubric.Pattern

def textBytes (t : Text) : List Nat :=
  t.flatMap fun c => codeBytes c.toNat

/-- Splits a list of rows at its empty rows. There is always one piece more than empty rows. -/
def splitAtEmpty : List (List Nat) → List (List (List Nat))
  | [] => [[]]
  | [] :: rest => [] :: splitAtEmpty rest
  | row :: rest =>
    match splitAtEmpty rest with
    | [] => [[row]]
    | piece :: pieces => (row :: piece) :: pieces

/-- The tally of a tree of texts, given by their bytes in the order of preference. A place where a
text ends parts those before it from those behind it, so that an earlier text is tried before a
later one. -/
def textTree : Nat → List (List Nat) → Tally
  | 0, _ => .zero
  | depth + 1, rows =>
    let rows := match rows with
      | [] :: rest => [] :: rest.dropWhile List.isEmpty
      | rows => rows
    let pieces := splitAtEmpty rows
    let full := pieces.filter (!·.isEmpty)
    let inner := full.map fun piece =>
      let heads := (piece.filterMap List.head?).eraseDups
      let below := heads.map fun head =>
        let tails := (piece.filter (·.head? == some head)).map List.tail
        if tails.all List.isEmpty then .zero else textTree depth tails
      let edges := if heads.length = 1 then 0 else edgeSize * heads.length
      sum (⟨1, edges⟩ :: below)
    sum (⟨1, branchSize * (full.length + pieces.length - 1)⟩ :: inner)
where
  /-- The sum of tallies. -/
  sum (tallies : List Tally) : Tally :=
    tallies.foldl (fun a b => ⟨a.states + b.states, a.extra + b.extra⟩) .zero

/-- The place of a pattern in the choice around it. The states that fork and join are made behind
the second branch, and every branch adds to the fork. -/
inductive Place where
  | alone
  | second
  | later

/-- Makes what stands behind a branch. -/
def Place.join? : Place → Tally → Option Tally
  | alone, t => some t
  | second, t => t.add? 2 (2 * branchSize)
  | later, t => t.add? 0 branchSize

def Place.next : Place → Place
  | alone => second
  | _ => later

namespace Expr

/-- The text that is the whole of a pattern. -/
def text? : Expr → Option Text
  | text t => some t
  | _ => none

/-- The least length of a match. It is not known where a set without characters is in the way. -/
def leastLength? : Expr → Option Nat
  | empty | look _ => some 0
  | text t => some t.length
  | chars s => if s.ranges.isEmpty then none else some 1
  | seq a b => do return (← a.leastLength?) + (← b.leastLength?)
  | alt a b => do return min (← a.leastLength?) (← b.leastLength?)
  | times e least .. => do return (← e.leastLength?) * least
  | group _ e => e.leastLength?

/-- Whether a match always begins where the text does. -/
def startsText : Expr → Bool
  | look .textStart => true
  | seq a b => a.startsText || (a.isHollow && b.startsText)
  | alt a b => a.startsText && b.startsText
  | times e least .. => least != 0 && e.startsText
  | group _ e => e.startsText
  | _ => false

def endsText : Expr → Bool
  | look .textEnd => true
  | seq a b => b.endsText || (b.isHollow && a.endsText)
  | alt a b => a.endsText && b.endsText
  | times e least .. => least != 0 && e.endsText
  | group _ e => e.endsText
  | _ => false

/-- Makes the states of a pattern that is read in one direction. The marks of a group are kept only
when it is read forwards. -/
def make? (backward : Bool) : Expr → Place → Tally → Option Tally
  | empty, place, t => do place.join? (← t.add? 1 0)
  | look _, place, t => do place.join? (← t.add? 1 0)
  | text s, place, t => do place.join? (← t.add? (textBytes s).length 0)
  | chars s, place, t => do place.join? (← CharSet.make? s backward t)
  | seq a b, place, t => do
    let t ← if backward then b.make? backward .alone t else a.make? backward .alone t
    let t ← if backward then a.make? backward .alone t else b.make? backward .alone t
    place.join? t
  | alt a b, .alone, t =>
    match (alt a b).branches.mapM text? with
    | some texts =>
      let rows := texts.map fun s =>
        if backward then (textBytes s).reverse else textBytes s
      let tree := textTree (rows.foldl (fun n row => max n row.length) 0) rows
      t.add? (tree.states + 1) tree.extra
    | none => do b.make? backward .second (← a.make? backward .alone t)
  | alt a b, place, t => do
    b.make? backward place.next (← place.join? (← a.make? backward .alone t))
  | group _ e, place, t => do
    if backward then
      place.join? (← e.make? backward .alone t)
    else
      let t ← t.add? 1 0
      let t ← e.make? backward .alone t
      place.join? (← t.add? 1 0)
  | times e least most _, place, t => do
    let make := e.make? backward .alone
    let t ← match most with
      | none =>
        if least ≠ 0 then do (← Tally.copies? make least t).add? 1 (2 * branchSize)
        else if e.leastLength?.any (· ≠ 0) then do make (← t.add? 1 (2 * branchSize))
        else do (← make t).add? 3 (4 * branchSize)
      | some most => do
        if least = 0 ∧ most = 1 then
          let t ← t.add? 1 (2 * branchSize)
          (← make t).add? 1 0
        else
          let t ← if least = 0 then t.add? 1 0 else Tally.copies? make least t
          if least = most then
            some t
          else
            let t ← t.add? 1 0
            Tally.copies? (fun t => do make (← t.add? 1 (2 * branchSize))) (most - least) t
    place.join? t

/-- Makes all states of a pattern. Unless it is bound to the end it is read from, a loop over any
bytes comes first; the states that mark the match and its ends come last. -/
def makeAll? (e : Expr) (backward : Bool) : Option Tally := do
  let bound := if backward then e.endsText else e.startsText
  let t ← if bound then Tally.zero.add? 1 0 else Tally.zero.add? 3 (2 * branchSize + edgeSize)
  if backward then
    (← e.make? backward .alone t).add? 1 0
  else
    let t ← t.add? 1 0
    (← e.make? backward .alone t).add? 2 0

/-- Whether a pattern is small enough to be compiled. -/
def fits (e : Expr) : Bool :=
  (e.makeAll? false).isSome && (e.makeAll? true).isSome

end Expr

end Rubric.Pattern
