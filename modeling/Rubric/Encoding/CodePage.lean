import Rubric.Encoding.Index

/-! Code pages, the encodings of one byte for each character. -/
namespace Rubric.Encoding

/-- A code page. The bytes below 128 stand for the first 128 characters; `upper` has the characters
of the other bytes, and a hole for a byte that has none. -/
structure CodePage where
  name : String
  upper : String
deriving DecidableEq, Repr

namespace CodePage

def char? (page : CodePage) (b : UInt8) : Option Char :=
  if b.toNat < 0x80 then some (Char.ofNat b.toNat)
  else
    match page.upper.toList[b.toNat - 0x80]? with
    | some c => if c = hole then none else some c
    | none => none

def byte? (page : CodePage) (c : Char) : Option UInt8 :=
  if c.toNat < 0x80 then some (.ofNat c.toNat)
  else if c = hole then none
  else (page.upper.toList.idxOf? c).map fun n => .ofNat (0x80 + n)

def decode? (page : CodePage) (bytes : Bytes) : Option Text :=
  bytes.mapM page.char?

def encode? (page : CodePage) (t : Text) : Option Bytes :=
  t.mapM page.byte?

end CodePage

def privateStart : Nat := 0xF780

/-- The text of bytes of which those from 128 on stand for private characters. -/
def decodePrivate (bytes : Bytes) : Text :=
  bytes.map fun b =>
    if b.toNat < 0x80 then Char.ofNat b.toNat else Char.ofNat (privateStart + (b.toNat - 0x80))

/-- The byte of one of the first 128 characters or of those that stand for bytes. -/
def privateByte? (c : Char) : Option UInt8 :=
  if c.toNat < 0x80 then some (.ofNat c.toNat)
  else if privateStart ≤ c.toNat && c.toNat < privateStart + 0x80 then
    some (.ofNat (c.toNat - privateStart + 0x80))
  else none

end Rubric.Encoding
