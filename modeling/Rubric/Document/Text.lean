import Rubric.Document.Basic
import Rubric.Text.Lines

/-! Reading a document from text and printing it. Reading accepts every text. Printing
joins headers and lines with line feeds and adds none at the end. -/
namespace Rubric

/-- The name a line gives to a section it opens. A line is a header when its trimmed text
starts with an opening and ends with a closing bracket. -/
def Section.nameOfHeader? (line : Text) : Option Text :=
  Text.stripBrackets (Text.trim line)

namespace Document

/-- Gives the lines that stand before the next header to the section above them. -/
def sectionsOf (current : Section) : List Text → Document
  | [] => [current]
  | line :: rest =>
    match Section.nameOfHeader? line with
    | some name => current :: sectionsOf (.empty name line) rest
    | none => sectionsOf (current.push (.read line)) rest

/-- Groups physical lines into sections. Lines before the first header form the preamble,
which exists only when there is such a line. -/
def ofLines : List Text → Document
  | [] => []
  | line :: rest =>
    match Section.nameOfHeader? line with
    | some name => sectionsOf (.empty name line) rest
    | none => sectionsOf (Section.preamble.push (.read line)) rest

def read (text : Text) : Document :=
  ofLines (Text.physicalLines text)

/-- The lines a section prints: its header, unless it is the preamble, and the texts of its
lines. -/
def linesOf (s : Section) : List Text :=
  (if s.isPreamble then [] else [s.header]) ++ s.lines.map (·.text)

def print (document : Document) : Text :=
  Text.joinWith '\n' (document.flatMap linesOf)

end Document

end Rubric
