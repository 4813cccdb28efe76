import Rubric.Text.Basic

/-! What stands between the parts of a TOML text: blanks, comments and line ends. A line ends with
a line feed, which one carriage return may precede. -/
namespace Rubric.Toml

/-- Blanks inside a line. -/
def isGap (c : Char) : Bool :=
  c == ' ' || c == '\t'

/-- The characters of comments and quoted texts: all but control characters. The tab is allowed. -/
def isShown (c : Char) : Bool :=
  c == '\t' || (0x20 ≤ c.toNat && c.toNat ≠ 0x7F)

def skipGap (t : Text) : Text :=
  t.dropWhile isGap

/-- The text behind the line end it starts with. -/
def newline? : Text → Option Text
  | '\n' :: rest => some rest
  | '\r' :: '\n' :: rest => some rest
  | _ => none

def skipNewline (t : Text) : Text :=
  (newline? t).getD t

/-- Passes over blanks, line ends and comments. A comment runs from a number sign to the end of
the line. -/
def skipLayout (inComment : Bool) : Text → Text
  | [] => []
  | '\r' :: '\n' :: rest => skipLayout false rest
  | c :: rest =>
    if c == '\n' then skipLayout false rest
    else if inComment then if isShown c then skipLayout true rest else c :: rest
    else if c == '#' then skipLayout true rest
    else if isGap c then skipLayout false rest
    else c :: rest

/-- The text behind the rest of a line that holds nothing but blanks and a comment. -/
def lineEnd? (t : Text) : Option Text :=
  let afterComment := match skipGap t with
    | '#' :: rest => rest.dropWhile isShown
    | rest => rest
  match afterComment with
  | [] => some []
  | rest => newline? rest

end Rubric.Toml
