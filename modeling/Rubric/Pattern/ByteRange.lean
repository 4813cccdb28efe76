import Rubric.Text.CharSet

/-! Sets of characters as products of byte ranges. The written form of a character is a row of one
to four bytes, and the characters whose bytes lie in given ranges make up one product. -/
namespace Rubric.Pattern

abbrev ByteRange := Nat × Nat

/-- The bytes of the written form of a code point. -/
def codeBytes (n : Nat) : List Nat :=
  if n < 0x80 then [n]
  else if n < 0x800 then [0xC0 + n / 64, 0x80 + n % 64]
  else if n < 0x10000 then [0xE0 + n / 4096, 0x80 + n / 64 % 64, 0x80 + n % 64]
  else [0xF0 + n / 262144, 0x80 + n / 4096 % 64, 0x80 + n / 64 % 64, 0x80 + n % 64]

/-- Splits a range of code points until each part is a product of byte ranges. A part is split
where its last `tail` bytes do not run from the least to the greatest value. -/
def splitTails (tail : Nat) (low high : Nat) : List (Nat × Nat) :=
  match tail with
  | 0 => [(low, high)]
  | k + 1 =>
    let unit := Nat.pow 64 (k + 1)
    if low / unit = high / unit then splitTails k low high
    else
      let start := if low % unit = 0 then low else (low / unit + 1) * unit
      let stop := if high % unit = unit - 1 then high + 1 else high / unit * unit
      (if low < start then splitTails k low (start - 1) else []) ++
        (if start < stop then [(start, stop - 1)] else []) ++
        (if stop ≤ high then splitTails k stop high else [])

/-- The ranges of code points whose written forms have one length, with the number of bytes
behind the first. Surrogates have no written form. -/
def lengthBands : List (Nat × Nat × Nat) :=
  [(0, 0x7F, 0), (0x80, 0x7FF, 1), (0x800, 0xD7FF, 2), (0xE000, 0xFFFF, 2),
    (0x10000, 0x10FFFF, 3)]

/-- The products of byte ranges that make up a set, in ascending order. -/
def byteRanges (s : CharSet) : List (List ByteRange) :=
  s.ranges.flatMap fun (low, high) => lengthBands.flatMap fun (first, last, tail) =>
    if max low first ≤ min high last then
      (splitTails tail (max low first) (min high last)).map fun (a, b) =>
        (codeBytes a).zip (codeBytes b)
    else []

end Rubric.Pattern
