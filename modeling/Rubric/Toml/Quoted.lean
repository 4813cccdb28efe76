import Rubric.Text.Digit
import Rubric.Toml.Space

/-! Quoted texts in TOML: with escapes between double quotes or as they stand between single ones,
on one line or, between three quotes, on several. -/
namespace Rubric.Toml

def shortEscape? : Char → Option Char
  | 'b' => some '\x08'
  | 't' => some '\t'
  | 'n' => some '\n'
  | 'f' => some '\x0c'
  | 'r' => some '\r'
  | '"' => some '"'
  | '\\' => some '\\'
  | _ => none

def codeEscape? (digits : Text) : Option Char :=
  if digits.all Text.isHex then Text.charOf? (Text.number 16 digits) else none

def readBasic : Text → Option (Text × Text)
  | [] => none
  | '"' :: rest => some ([], rest)
  | '\\' :: 'u' :: a :: b :: c :: d :: rest => do
    let e ← codeEscape? [a, b, c, d]
    (readBasic rest).map fun (t, after) => (e :: t, after)
  | '\\' :: 'U' :: a :: b :: c :: d :: a' :: b' :: c' :: d' :: rest => do
    let e ← codeEscape? [a, b, c, d, a', b', c', d']
    (readBasic rest).map fun (t, after) => (e :: t, after)
  | '\\' :: c :: rest => do
    let e ← shortEscape? c
    (readBasic rest).map fun (t, after) => (e :: t, after)
  | c :: rest =>
    if c ≠ '\\' && isShown c then (readBasic rest).map fun (t, after) => (c :: t, after) else none

/-- Reads a text on several lines behind its three opening double quotes. Up to two quotes may stand
before the three that close it. A backslash at the end of a line takes away the line end and all
blanks and line ends that follow; the flag tells that they are being taken away. -/
def readLongBasic (skipping : Bool) : Text → Option (Text × Text)
  | [] => none
  | '"' :: '"' :: '"' :: '"' :: '"' :: rest => some (['"', '"'], rest)
  | '"' :: '"' :: '"' :: '"' :: rest => some (['"'], rest)
  | '"' :: '"' :: '"' :: rest => some ([], rest)
  | '\r' :: '\n' :: rest =>
    if skipping then readLongBasic true rest
    else (readLongBasic false rest).map fun (t, after) => ('\n' :: t, after)
  | '\\' :: 'u' :: a :: b :: c :: d :: rest => do
    let e ← codeEscape? [a, b, c, d]
    (readLongBasic false rest).map fun (t, after) => (e :: t, after)
  | '\\' :: 'U' :: a :: b :: c :: d :: a' :: b' :: c' :: d' :: rest => do
    let e ← codeEscape? [a, b, c, d, a', b', c', d']
    (readLongBasic false rest).map fun (t, after) => (e :: t, after)
  | '\\' :: c :: rest =>
    if (newline? (skipGap (c :: rest))).isSome then readLongBasic true (c :: rest)
    else do
      let e ← shortEscape? c
      (readLongBasic false rest).map fun (t, after) => (e :: t, after)
  | c :: rest =>
    if skipping && (isGap c || c == '\n') then readLongBasic true rest
    else if c ≠ '\\' && (isShown c || c == '\n') then
      (readLongBasic false rest).map fun (t, after) => (c :: t, after)
    else none

def readLiteral : Text → Option (Text × Text)
  | [] => none
  | '\'' :: rest => some ([], rest)
  | c :: rest =>
    if isShown c then (readLiteral rest).map fun (t, after) => (c :: t, after) else none

/-- Reads a text on several lines behind its three opening single quotes. -/
def readLongLiteral : Text → Option (Text × Text)
  | [] => none
  | '\'' :: '\'' :: '\'' :: '\'' :: '\'' :: rest => some (['\'', '\''], rest)
  | '\'' :: '\'' :: '\'' :: '\'' :: rest => some (['\''], rest)
  | '\'' :: '\'' :: '\'' :: rest => some ([], rest)
  | '\r' :: '\n' :: rest => (readLongLiteral rest).map fun (t, after) => ('\n' :: t, after)
  | c :: rest =>
    if isShown c || c == '\n' then (readLongLiteral rest).map fun (t, after) => (c :: t, after)
    else none

/-- Reads a quoted text. A line end right behind three opening quotes is no part of it. -/
def readQuoted : Text → Option (Text × Text)
  | '"' :: '"' :: '"' :: rest => readLongBasic false (skipNewline rest)
  | '"' :: rest => readBasic rest
  | '\'' :: '\'' :: '\'' :: rest => readLongLiteral (skipNewline rest)
  | '\'' :: rest => readLiteral rest
  | _ => none

end Rubric.Toml
