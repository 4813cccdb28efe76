/-! Binary floating-point numbers with a significand of 53 bits, in exact arithmetic. The
operations round to the nearest number and, halfway between two, to the even one. -/
namespace Rubric.Decimal

/-- A finite number: a sign, and a magnitude of `significand` times two to the power of `exponent`.
The significand is below 2 to the 53 and, unless the exponent is the least one, not below 2 to
the 52. -/
structure Binary where
  negative : Bool
  significand : Nat
  exponent : Int
deriving DecidableEq, Repr

namespace Binary

def leastExponent : Int := -1074

def largestExponent : Int := 971

/-- The integer nearest to a ratio, the even one of two. -/
def roundRatio (num den : Nat) : Nat :=
  let q := num / den
  let r := num % den
  if 2 * r < den then q
  else if den < 2 * r then q + 1
  else if q % 2 = 0 then q else q + 1

/-- A ratio as a numerator and denominator once it is divided by two to the power of `e`. -/
def scaled (num den : Nat) (e : Int) : Nat × Nat :=
  if 0 ≤ e then (num, den * Nat.pow 2 e.toNat) else (num * Nat.pow 2 (-e).toNat, den)

/-- The exponent for a positive ratio: the one that leaves 53 bits before the point, but none below
the least. -/
def exponentOf (num den : Nat) : Int :=
  let guess : Int := (num.log2 : Int) - (den.log2 : Int) - 52
  let (n, d) := scaled num den guess
  max leastExponent (if n / d < Nat.pow 2 52 then guess - 1 else guess)

def ofRatio? (num den : Nat) : Option Binary :=
  if num = 0 then some ⟨false, 0, leastExponent⟩
  else
    let e := exponentOf num den
    let (n, d) := scaled num den e
    let m := roundRatio n d
    let (m, e) := if m = Nat.pow 2 53 then (Nat.pow 2 52, e + 1) else (m, e)
    if largestExponent < e then none else some ⟨false, m, e⟩

def ratio (x : Binary) : Nat × Nat :=
  if 0 ≤ x.exponent then (x.significand * Nat.pow 2 x.exponent.toNat, 1)
  else (x.significand, Nat.pow 2 (-x.exponent).toNat)

/-- The product of two magnitudes, unless it is too large. -/
def mul? (x y : Binary) : Option Binary :=
  ofRatio? (x.ratio.1 * y.ratio.1) (x.ratio.2 * y.ratio.2)

def div? (x y : Binary) : Option Binary :=
  ofRatio? (x.ratio.1 * y.ratio.2) (x.ratio.2 * y.ratio.1)

def powerOfTen? (k : Nat) : Option Binary :=
  ofRatio? (Nat.pow 10 k) 1

end Binary

end Rubric.Decimal
