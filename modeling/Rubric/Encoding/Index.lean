import Rubric.Bytes
import Rubric.Text.Basic

/-! Numbered characters, and decoding step by step. Encodings of several bytes number their
characters, and reckon the number from the bytes. -/
namespace Rubric.Encoding

/-- Stands where a number has no character. -/
def hole : Char := '\uFFFD'

/-- Characters by their numbers. -/
structure Index where
  chars : Array Char

namespace Index

/-- The characters of a row, filled up with holes. -/
def fill (width : Nat) (row : String) : List Char :=
  let chars := row.toList
  chars ++ List.replicate (width - chars.length) hole

def ofRows (width : Nat) (rows : List (Nat × String)) : Index :=
  ⟨rows.foldl (fun chars (row, text) =>
    chars ++ List.replicate (row * width - chars.size) hole ++ fill width text) #[]⟩

def get? (index : Index) (n : Nat) : Option Char :=
  match index.chars[n]? with
  | some c => if c = hole then none else some c
  | none => none

/-- The least number of a character among those of the last numbers that satisfy `p`. -/
def findLast? (index : Index) (p : Nat → Bool) (c : Char) : Nat → Option Nat
  | 0 => none
  | count + 1 =>
    let n := index.chars.size - (count + 1)
    if index.chars.getD n hole = c && p n then some n else findLast? index p c count

def find? (index : Index) (p : Nat → Bool) (c : Char) : Option Nat :=
  if c = hole then none else index.findLast? p c index.chars.size

end Index

/-- What one step of a decoder takes from bytes: some characters and the bytes that remain, or
nothing where the bytes are not well formed. -/
abbrev Step := Bytes → Option (Text × Bytes)

/-- Takes steps to the end of the bytes. Each takes at least one byte, and one of the fuel. -/
def decodeSteps (step : Step) : Nat → Bytes → Option Text
  | _, [] => some []
  | 0, _ => none
  | fuel + 1, bytes => do
    let (t, rest) ← step bytes
    (decodeSteps step fuel rest).map (t ++ ·)

def decodeBy (step : Step) (bytes : Bytes) : Option Text :=
  decodeSteps step bytes.length bytes

def encodeBy (bytes? : Char → Option Bytes) (t : Text) : Option Bytes :=
  (t.mapM bytes?).map List.flatten

/-- Takes one byte that stands for itself, or two that `pair?` knows. -/
def stepOf (single? : Nat → Option Char) (pair? : Nat → Nat → Option Text) : Step
  | [] => none
  | a :: rest =>
    match single? a.toNat with
    | some c => some ([c], rest)
    | none =>
      match rest with
      | [] => none
      | b :: rest => (pair? a.toNat b.toNat).map fun t => (t, rest)

def ascii? (n : Nat) : Option Char :=
  if n < 0x80 then some (Char.ofNat n) else none

/-- Two bytes, given by their numbers. -/
def twoBytes (a b : Nat) : Bytes :=
  [.ofNat a, .ofNat b]

end Rubric.Encoding
