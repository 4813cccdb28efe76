import Rubric.Unicode.Row

/-! What version 17.0 of the standard changed. Patterns know the characters of version 16.0;
quoting, lower case and the names of groups follow version 17.0. -/
namespace Rubric.Unicode

/-- The code points that version 17.0 moved into or out of a set. -/
def revisedRows : List Row := [
  ⟨"alphabetic", "1ov 0 r0 0 3j 0 ult 1 2 0 1 0 s 0 j7y p 12j 2 1e 1 2g4 7 g8 17 fyc o 2 o 7y 4
    4qp 7 zt l 2p 36 hjh u 1 l 8 1 154q 5 4ma b gsi 3bd"⟩,
  ⟨"cased", "id 0 wmw 1 2 0 1 0 s 0 138u o 2 o"⟩,
  ⟨"caseignorable", "5an e 2 b rut 0 kb7 0 1g 1 2g4 0 1 2 1 0 he 0 g7s 1 nhr 0 2 0 7 1 5 0 9 0"⟩,
  ⟨"graphemeextend", "5an e 2 b 1c7i 1 2g4 0 1 2 1 0 1470 0 2 0 7 1 5 0"⟩,
  ⟨"hidden", "1ov 0 r0 0 3j 0 2r6 e 2 b 15h 0 250 0 ojb 1 2 0 1 0 s 0 gk1 f cd 1 1i 6 29d p 12j 2
    8 8 x 1 2g4 7 g8 17 4 9 fxy o 2 o 7y 4 4qp 7 zt l 2p 36 cg7 2 cd m f g 4pb u 1 l 8 1 34o 0 4e
    3 9h 8 aj 3 1e 0 3 0 1l 0 4 0 s 0 4 0 7e 0 10zj 5 4ma b gsi 3bd"⟩,
  ⟨"mark", "5an e 2 b 1c7i 1 2g4 7 146z 0 2 0 7 1 5 0"⟩,
  ⟨"numeric", "1kgw 9 g7e 2"⟩]

end Rubric.Unicode
