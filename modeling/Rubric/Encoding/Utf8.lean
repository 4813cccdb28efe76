import Rubric.Bytes
import Rubric.Text.Digit

/-! UTF-8. A character takes one to four bytes, and only its shortest form counts. -/
namespace Rubric.Utf8

/-- A byte behind the first one of a character; it holds the last six bits of a number. -/
def tail (n : Nat) : UInt8 :=
  .ofNat (0x80 + n % 64)

def encodeChar (c : Char) : Bytes :=
  let n := c.toNat
  if n < 0x80 then [.ofNat n]
  else if n < 0x800 then [.ofNat (0xC0 + n / 64), tail n]
  else if n < 0x10000 then [.ofNat (0xE0 + n / 4096), tail (n / 64), tail n]
  else [.ofNat (0xF0 + n / 262144), tail (n / 4096), tail (n / 64), tail n]

def encode (t : Text) : Bytes :=
  t.flatMap encodeChar

def isTail (b : UInt8) : Bool :=
  0x80 ≤ b.toNat && b.toNat < 0xC0

/-- The number that a byte behind the first one holds. -/
def low (b : UInt8) : Nat :=
  b.toNat - 0x80

def pair? (a b : UInt8) : Option Char :=
  let n := (a.toNat - 0xC0) * 64 + low b
  if 0xC0 ≤ a.toNat && a.toNat < 0xE0 && isTail b && 0x80 ≤ n then Text.charOf? n else none

def triple? (a b c : UInt8) : Option Char :=
  let n := (a.toNat - 0xE0) * 4096 + low b * 64 + low c
  if 0xE0 ≤ a.toNat && a.toNat < 0xF0 && isTail b && isTail c && 0x800 ≤ n then Text.charOf? n
  else none

def quadruple? (a b c d : UInt8) : Option Char :=
  let n := (a.toNat - 0xF0) * 262144 + low b * 4096 + low c * 64 + low d
  if 0xF0 ≤ a.toNat && a.toNat < 0xF8 && isTail b && isTail c && isTail d && 0x10000 ≤ n then
    Text.charOf? n
  else none

def decode? : Bytes → Option Text
  | [] => some []
  | a :: rest =>
    if a.toNat < 0x80 then (decode? rest).map (Char.ofNat a.toNat :: ·)
    else if a.toNat < 0xE0 then
      match rest with
      | b :: rest => do
        let x ← pair? a b
        (decode? rest).map (x :: ·)
      | _ => none
    else if a.toNat < 0xF0 then
      match rest with
      | b :: c :: rest => do
        let x ← triple? a b c
        (decode? rest).map (x :: ·)
      | _ => none
    else
      match rest with
      | b :: c :: d :: rest => do
        let x ← quadruple? a b c d
        (decode? rest).map (x :: ·)
      | _ => none

end Rubric.Utf8
