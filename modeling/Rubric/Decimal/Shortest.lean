import Rubric.Decimal.Binary
import Rubric.Text.Basic

/-! The shortest decimal text of a number: the fewest digits that read back as the number,
and among those the nearest to it. -/
namespace Rubric.Decimal

structure Scientific where
  digits : Nat
  exponent : Int
deriving DecidableEq, Repr

namespace Binary

/-- Twice the magnitude and twice the distances from it to the ends of the interval that rounds to
it, all in units of two to the power of one less than the exponent, and whether the ends belong
to the interval. Below a power of two the interval is half as wide. -/
def interval (x : Binary) : Nat × Nat × Nat × Bool :=
  let m := x.significand
  let narrow := m = Nat.pow 2 52 ∧ leastExponent < x.exponent
  (4 * m, if narrow then 1 else 2, 2, m % 2 = 0)

/-- The candidate with one unit of ten to the power of `k`: of the two multiples of the unit around
the magnitude the nearer one that lies in the interval, and the even one of two as near. -/
def candidate? (x : Binary) (k : Int) : Option Nat :=
  let (v, below, above, closed) := x.interval
  -- The interval in units of `1 / den`, with the power of ten as `unit`.
  let e := x.exponent - 2
  let num2 := if 0 ≤ e then Nat.pow 2 e.toNat else 1
  let den2 := if 0 ≤ e then 1 else Nat.pow 2 (-e).toNat
  let num10 := if 0 ≤ k then Nat.pow 10 k.toNat else 1
  let den10 := if 0 ≤ k then 1 else Nat.pow 10 (-k).toNat
  let scale := num2 * den10
  let unit := den2 * num10
  let value := v * scale
  let low := (v - below) * scale
  let high := (v + above) * scale
  let inside := fun n : Nat =>
    let p := n * unit
    if closed then low ≤ p && p ≤ high else low < p && p < high
  let down := value / unit
  let up := down + 1
  let toDown := value - down * unit
  let toUp := up * unit - value
  if inside down && 0 < down && inside up then
    if toDown < toUp then some down
    else if toUp < toDown then some up
    else if down % 2 = 0 then some down else some up
  else if inside down && 0 < down then some down
  else if inside up then some up
  else none

/-- The first candidate as the unit falls from ten to the power of `k`. -/
def firstCandidate (x : Binary) : Nat → Int → Scientific
  | 0, k => ⟨0, k⟩
  | fuel + 1, k =>
    match x.candidate? k with
    | some n => ⟨n, k⟩
    | none => firstCandidate x fuel (k - 1)

/-- The shortest decimal number that reads back as a positive magnitude. The units that are tried
start above the magnitude and end where seventeen digits fit. -/
def shortest (x : Binary) : Scientific :=
  let top := ((x.significand.log2 : Int) + x.exponent) * 30103 / 100000 + 2
  x.firstCandidate 24 top

end Binary

namespace Scientific

/-- The digits before the point and behind it when the point stands behind the first `point`
digits. -/
def positional (ds : Text) (point : Int) : Text :=
  if point ≤ 0 then "0.".toList ++ List.replicate (-point).toNat '0' ++ ds
  else if ds.length ≤ point.toNat then
    ds ++ List.replicate (point.toNat - ds.length) '0' ++ ".0".toList
  else ds.take point.toNat ++ '.' :: ds.drop point.toNat

/-- The text of a decimal number. It is positional while the point stands at most four digits before
the first and sixteen behind it; otherwise the first digit alone stands before the point and
an exponent with its sign follows. -/
def text (s : Scientific) : Text :=
  let ds := Text.ofNat s.digits
  let point := s.exponent + ds.length
  if -5 < point ∧ point ≤ 16 then positional ds point
  else
    let mantissa := match ds with
      | [] => []
      | [d] => [d]
      | d :: rest => d :: '.' :: rest
    mantissa ++ 'e' :: (if 0 < point then ['+'] else []) ++ Text.ofInt (point - 1)

end Scientific

def Binary.text (x : Binary) : Text :=
  let magnitude := if x.significand = 0 then "0.0".toList else x.shortest.text
  if x.negative then '-' :: magnitude else magnitude

end Rubric.Decimal
