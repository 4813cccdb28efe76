import Rubric.Bytes
import Rubric.Text.Digit

/-! UTF-16. A character takes one unit of sixteen bits, or two that are surrogates. -/
namespace Rubric.Utf16

/-- Which of the two bytes of a unit comes first. -/
inductive ByteOrder where
  | lowFirst
  | highFirst
deriving DecidableEq, Repr

def ByteOrder.bytes (order : ByteOrder) (unit : Nat) : Bytes :=
  match order with
  | lowFirst => [.ofNat (unit % 256), .ofNat (unit / 256)]
  | highFirst => [.ofNat (unit / 256), .ofNat (unit % 256)]

def ByteOrder.unit (order : ByteOrder) (a b : UInt8) : Nat :=
  match order with
  | lowFirst => b.toNat * 256 + a.toNat
  | highFirst => a.toNat * 256 + b.toNat

/-- The units of a character. -/
def units (c : Char) : List Nat :=
  let n := c.toNat
  if n < 0x10000 then [n]
  else [0xD800 + (n - 0x10000) / 0x400, 0xDC00 + (n - 0x10000) % 0x400]

def encode (order : ByteOrder) (t : Text) : Bytes :=
  t.flatMap fun c => (units c).flatMap order.bytes

def unitsOf? (order : ByteOrder) : Bytes → Option (List Nat)
  | [] => some []
  | [_] => none
  | a :: b :: rest => (unitsOf? order rest).map (order.unit a b :: ·)

/-- Whether a unit is the first of two surrogates. -/
def isHigh (unit : Nat) : Bool :=
  0xD800 ≤ unit && unit < 0xDC00

/-- Whether a unit is the second of two surrogates. -/
def isLow (unit : Nat) : Bool :=
  0xDC00 ≤ unit && unit < 0xE000

def ofUnits? : List Nat → Option Text
  | [] => some []
  | unit :: rest =>
    if isHigh unit then
      match rest with
      | second :: rest =>
        if isLow second then
          let n := 0x10000 + (unit - 0xD800) * 0x400 + (second - 0xDC00)
          (ofUnits? rest).map (Char.ofNat n :: ·)
        else none
      | [] => none
    else if isLow unit then none
    else (ofUnits? rest).map (Char.ofNat unit :: ·)

def decode? (order : ByteOrder) (bytes : Bytes) : Option Text :=
  (unitsOf? order bytes).bind ofUnits?

end Rubric.Utf16
