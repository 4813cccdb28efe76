import Rubric.Text.Digit
import Rubric.Toml.Basic

/-! Moments in TOML texts: dates, times of day, and both, with or without an offset from universal
time. A moment is shown in one form: a capital T between date and time, at most nine digits of a
second without closing zeros, and a capital Z for universal time. -/
namespace Rubric.Toml

/-- Reads two digits that stand for a number from `least` to `largest`, and gives the digits. -/
def readPair (least largest : Nat) : Text → Option (Text × Text)
  | a :: b :: rest =>
    let n := Text.number 10 [a, b]
    if a.isDigit && b.isDigit && least ≤ n && n ≤ largest then some ([a, b], rest) else none
  | _ => none

/-- Whether a year has a day more than others. -/
def isLeap (year : Nat) : Bool :=
  year % 4 = 0 && (year % 100 ≠ 0 || year % 400 = 0)

def daysIn (year month : Nat) : Nat :=
  if month = 2 then if isLeap year then 29 else 28
  else if [4, 6, 9, 11].contains month then 30
  else 31

def readDate (t : Text) : Option (Text × Text) :=
  match t with
  | a :: b :: c :: d :: '-' :: rest =>
    if [a, b, c, d].all Char.isDigit then
      match readPair 1 12 rest with
      | some (month, '-' :: rest) => do
        let last := daysIn (Text.number 10 [a, b, c, d]) (Text.number 10 month)
        let (day, rest) ← readPair 1 last rest
        some ([a, b, c, d] ++ '-' :: month ++ '-' :: day, rest)
      | _ => none
    else none
  | _ => none

/-- The shown form of the digits of a second: nine of them at most, and no closing zero. -/
def showFraction (ds : Text) : Text :=
  match ((ds.take 9).reverse.dropWhile (· == '0')).reverse with
  | [] => []
  | kept => '.' :: kept

/-- Reads a time of day. A minute may have a second too many. -/
def readClock (lastHour : Nat) (t : Text) : Option (Text × Text) :=
  match readPair 0 lastHour t with
  | some (hour, ':' :: rest) =>
    match readPair 0 59 rest with
    | some (minute, ':' :: rest) => do
      let (second, rest) ← readPair 0 60 rest
      let shown := hour ++ ':' :: minute ++ ':' :: second
      match rest with
      | '.' :: c :: after =>
        if c.isDigit then
          let ds := c :: after.takeWhile Char.isDigit
          some (shown ++ showFraction ds, after.dropWhile Char.isDigit)
        else some (shown, rest)
      | rest => some (shown, rest)
    | _ => none
  | _ => none

def readOffset (t : Text) : Text × Text :=
  match t with
  | 'Z' :: rest => (['Z'], rest)
  | 'z' :: rest => (['Z'], rest)
  | c :: rest =>
    if c == '+' || c == '-' then
      match readPair 0 23 rest with
      | some (hour, ':' :: after) =>
        match readPair 0 59 after with
        | some (minute, after) =>
          let sign := if hour == ['0', '0'] && minute == ['0', '0'] then '+' else c
          (sign :: hour ++ ':' :: minute, after)
        | none => ([], t)
      | _ => ([], t)
    else ([], t)
  | [] => ([], [])

def twoDigits (n : Nat) : Text :=
  if n < 10 then '0' :: Text.ofNat n else Text.ofNat n

/-- The shown form of what stands behind a date and a time: nothing, or an offset of at most a day,
whose minutes may be more than an hour. -/
def shownOffset? (t : Text) : Option Text :=
  match t with
  | [] => some []
  | ['Z'] => some ['Z']
  | ['z'] => some ['Z']
  | sign :: rest =>
    match readPair 0 99 rest with
    | some (hour, ':' :: after) =>
      match readPair 0 99 after with
      | some (minute, []) =>
        let total := Text.number 10 hour * 60 + Text.number 10 minute
        if (sign == '+' || sign == '-') && total ≤ 24 * 60 then
          some ((if total = 0 then '+' else sign) :: twoDigits (total / 60) ++
            ':' :: twoDigits (total % 60))
        else none
      | _ => none
    | _ => none

/-- The form a moment is shown in that is the whole of a text. Such a text may say that a day has a
twenty-fifth hour. -/
def shownMoment? (t : Text) : Option Text :=
  match readDate t with
  | none =>
    match readClock 24 t with
    | some (clock, []) => some clock
    | _ => none
  | some (date, []) => some date
  | some (date, c :: after) =>
    if c == 'T' || c == 't' || c == ' ' then do
      let (clock, rest) ← readClock 24 after
      some (date ++ 'T' :: clock ++ (← shownOffset? rest))
    else none

/-- Reads a moment, and gives the form it is shown in. -/
def readMoment (t : Text) : Option (Text × Text) :=
  match readDate t with
  | none => readClock 23 t
  | some (date, rest) =>
    match rest with
    | c :: after =>
      if c == 'T' || c == 't' || c == ' ' then
        match readClock 23 after with
        | none => some (date, rest)
        | some (clock, after) =>
          let (offset, after) := readOffset after
          some (date ++ 'T' :: clock ++ offset, after)
      else some (date, rest)
    | [] => some (date, [])

end Rubric.Toml
