import Rubric.Encoding.Chinese
import Rubric.Encoding.Japanese
import Rubric.Encoding.Korean
import Rubric.Encoding.Table.CodePages
import Rubric.Encoding.Utf16
import Rubric.Encoding.Utf8

/-! Encodings of texts as bytes. Decoding refuses bytes that are not well formed, encoding refuses
characters that have no bytes, and a byte order mark is a character like any other. -/
namespace Rubric

inductive Encoding where
  | utf8
  | utf16 (order : Utf16.ByteOrder)
  | page (p : Encoding.CodePage)
  | userDefined
  | gbk
  | gb18030
  | big5
  | eucJp
  | iso2022Jp
  | shiftJis
  | eucKr
  /-- Stands for encodings that are no longer used. Nothing but the empty text is read in it, and
  nothing is written. -/
  | replacement
deriving DecidableEq, Repr

namespace Encoding

def name : Encoding → Text
  | utf8 => "UTF-8".toList
  | utf16 .lowFirst => "UTF-16LE".toList
  | utf16 .highFirst => "UTF-16BE".toList
  | page p => p.name.toList
  | userDefined => "x-user-defined".toList
  | gbk => "GBK".toList
  | gb18030 => "gb18030".toList
  | big5 => "Big5".toList
  | eucJp => "EUC-JP".toList
  | iso2022Jp => "ISO-2022-JP".toList
  | shiftJis => "Shift_JIS".toList
  | eucKr => "EUC-KR".toList
  | replacement => "replacement".toList

def decode? (encoding : Encoding) (bytes : Bytes) : Option Text :=
  match encoding with
  | utf8 => Utf8.decode? bytes
  | utf16 order => Utf16.decode? order bytes
  | page p => p.decode? bytes
  | userDefined => some (decodePrivate bytes)
  | gbk => Gb18030.decode? bytes
  | gb18030 => Gb18030.decode? bytes
  | big5 => Big5.decode? bytes
  | eucJp => EucJp.decode? bytes
  | iso2022Jp => Iso2022Jp.decode? bytes
  | shiftJis => ShiftJis.decode? bytes
  | eucKr => EucKr.decode? bytes
  | replacement => if bytes.isEmpty then some [] else none

def encode? (encoding : Encoding) (t : Text) : Option Bytes :=
  match encoding with
  | utf8 => some (Utf8.encode t)
  | utf16 order => some (Utf16.encode order t)
  | page p => p.encode? t
  | userDefined => t.mapM privateByte?
  | gbk => encodeBy (Gb18030.bytes? true) t
  | gb18030 => encodeBy (Gb18030.bytes? false) t
  | big5 => encodeBy Big5.bytes? t
  | eucJp => encodeBy EucJp.bytes? t
  | iso2022Jp => Iso2022Jp.encode? t
  | shiftJis => encodeBy ShiftJis.bytes? t
  | eucKr => encodeBy EucKr.bytes? t
  | replacement => none

end Encoding

end Rubric
