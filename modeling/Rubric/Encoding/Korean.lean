import Rubric.Encoding.Index
import Rubric.Encoding.Table.KsX1001

/-! The encoding of Korean. -/
namespace Rubric.Encoding.EucKr

def index : Index := .ofRows 190 Table.ksX1001

def pair? (a b : Nat) : Option Text :=
  if 0x81 ≤ a && a < 0xFF && 0x41 ≤ b && b < 0xFF then
    (index.get? ((a - 0x81) * 190 + (b - 0x41))).map ([·])
  else none

def decode? : Bytes → Option Text :=
  decodeBy (stepOf ascii? pair?)

def bytes? (c : Char) : Option Bytes :=
  if c.toNat < 0x80 then some [.ofNat c.toNat]
  else (index.find? (fun _ => true) c).map fun n => twoBytes (n / 190 + 0x81) (n % 190 + 0x41)

end Rubric.Encoding.EucKr
