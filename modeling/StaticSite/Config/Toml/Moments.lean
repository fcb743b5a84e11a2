/-
  TOML DATES: dates, times of day, and both, with or without an offset.

  A moment is read into the text that it has when it is written out again: a `T` between date and
  time, at most nine places of a second and no zeros at their end, a capital `Z`.  The date has to
  exist; the second 60 may.

  A document may hold a moment as it is, or as a string in a table that stands for a date.  Such a
  string is nothing but the moment, while a moment in a document is followed by other things.
-/
import StaticSite.Calendar
import StaticSite.Decimal
import StaticSite.Text.Split

namespace StaticSite.Config.Toml

/-- So many decimal digits, and the rest. -/
def readPlaces (count : Nat) (s : List Char) : Option (List Char × List Char) :=
  let ds := s.take count
  if ds.length = count && ds.all Char.isDigit then some (ds, s.drop count) else none

/-- Two digits of a value up to a greatest one. -/
def readPair (greatest : Nat) (s : List Char) : Option (List Char × List Char) :=
  (readPlaces 2 s).filter fun p => natOfDigits p.1 ≤ greatest

/-- A date such as `1979-05-27`. -/
def readDate (s : List Char) : Option (List Char × List Char) := do
  let (year, s) ← readPlaces 4 s
  let (month, s) ← readPlaces 2 (← Text.dropStart? ['-'] s)
  let (day, s) ← readPlaces 2 (← Text.dropStart? ['-'] s)
  let date : Date := ⟨natOfDigits year, natOfDigits month, natOfDigits day⟩
  if date.exists then some (year ++ '-' :: month ++ '-' :: day, s) else none

/-- The places of a second behind their point, as they are written. -/
def fractionText (places : List Char) : List Char :=
  let kept := ((places.take 9).reverse.dropWhile (· == '0')).reverse
  if kept.isEmpty then [] else '.' :: kept

/-- The fraction of a second, if there is one. -/
def readSecondFraction : List Char → List Char × List Char
  | '.' :: rest =>
    match rest.span Char.isDigit with
    | ([], _) => ([], '.' :: rest)
    | (places, after) => (fractionText places, after)
  | rest => ([], rest)

/-- A time of day such as `07:32:00.5`. -/
def readClock (s : List Char) : Option (List Char × List Char) := do
  let (hour, s) ← readPair 23 s
  let (minute, s) ← readPair 59 (← Text.dropStart? [':'] s)
  let (second, s) ← readPair 60 (← Text.dropStart? [':'] s)
  let (fraction, s) := readSecondFraction s
  return (hour ++ ':' :: minute ++ ':' :: second ++ fraction, s)

/-- An offset such as `-07:00`; none has a plus sign. -/
def readSignedOffset (sign : Char) (s : List Char) : Option (List Char × List Char) := do
  let (hour, s) ← readPair 23 s
  let (minute, s) ← readPair 59 (← Text.dropStart? [':'] s)
  let none_ := natOfDigits hour = 0 && natOfDigits minute = 0
  return ((if none_ then '+' else sign) :: hour ++ ':' :: minute, s)

/-- An offset, if there is one; nothing if one is begun and not finished. -/
def readOffset : List Char → Option (List Char × List Char)
  | 'Z' :: rest => some (['Z'], rest)
  | 'z' :: rest => some (['Z'], rest)
  | '+' :: rest => readSignedOffset '+' rest
  | '-' :: rest => readSignedOffset '-' rest
  | rest => some ([], rest)

/-- Whether a character may stand between a date and a time. -/
def isTimeMark (c : Char) : Bool := c == 'T' || c == 't' || c == ' '

/-- What may follow a date: a mark, a time and an offset. -/
def readTimeOfDate (s : List Char) : Option (List Char × List Char) :=
  match s with
  | [] => none
  | mark :: rest =>
    if isTimeMark mark then do
      let (clock, rest) ← readClock rest
      let (offset, rest) ← readOffset rest
      return ('T' :: clock ++ offset, rest)
    else none

/-- Reads a moment: its text, and the rest. -/
def readMoment (s : List Char) : Option (String × List Char) :=
  match readDate s with
  | some (date, rest) =>
    match readTimeOfDate rest with
    | some (time, rest) => some (String.ofList (date ++ time), rest)
    | none => some (String.ofList date, rest)
  | none => (readClock s).map fun p => (String.ofList p.1, p.2)

/-- The moment that a string is, all of it. -/
def momentOf? (text : String) : Option String :=
  match readMoment text.toList with
  | some (moment, []) => some moment
  | _ => none

example : momentOf? "1979-05-27 23:00:00.50-00:00" = some "1979-05-27T23:00:00.5+00:00" := by
  decide +kernel

example : momentOf? "24:00:00" = none := by decide +kernel

end StaticSite.Config.Toml
