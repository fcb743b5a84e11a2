/-
  HTTP DATES: the dates in Last-Modified and If-Modified-Since.

  Dates are written in one form, `Sun, 06 Nov 1994 08:49:37 GMT`, and read in four: the mail form
  with its names in any case, numeric zones and comments, and three fixed patterns — the written
  form itself, the older one with the whole name of the day and two digits of the year, and the
  one of the C library's clock.  White space in a date counts as one space wherever it stands.

  Numbered structure:
    §1  the instant at which a file was changed, in whole seconds
    §2  the written form
    §3  readers of single fields
    §4  the mail form
    §5  the fixed patterns
    §6  `parseDate` and `isNotModified`

  A date is accepted only if its week day, when there is one, is that of the date.
-/
import StaticSite.Calendar
import StaticSite.Decimal
import StaticSite.Text.Blank
import StaticSite.Text.Split
import StaticSite.Word

namespace StaticSite

/-! ## §1 Instants of change -/

/-- A point in time: seconds since 1970, rounded down, and the nanoseconds on top. -/
structure Instant where
  seconds : Int
  nanos : Nat
deriving DecidableEq, Repr

/-- The instant in whole seconds, ROUNDED UP: so a file changed within a second is never older
    than the date a client was told.  Instants before 1970 count as its first second. -/
def Instant.modifiedSeconds (t : Instant) : Int :=
  let whole := t.seconds + (t.nanos / 1000000000 : Nat)
  if whole < 0 then 0
  else min (if t.nanos % 1000000000 = 0 then whole else whole + 1) (signedSize - 1)

namespace Http

/-! ## §2 The written form -/

/-- The date of a second, as a header says it; seconds outside the calendar give its first second
    of 1970. -/
def formatDate (seconds : Int) : String :=
  let seconds := if inCalendar seconds then seconds else 0
  let m := Moment.ofSeconds seconds
  String.ofList (shortDayName (weekdayOf m.date.toDays) ++ [',', ' '] ++ padded 2 m.date.day ++ ' ' ::
    shortMonthName m.date.month ++ ' ' :: yearText m.date.year ++ ' ' :: m.clockText
    ++ " GMT".toList)

/-! ## §3 Fields -/

namespace DateReader

/-- What has been read of a date. -/
structure Reading where
  weekday : Option Nat
  year : Int
  month : Nat
  day : Nat
  hour : Nat
  minute : Nat
  second : Nat
  /-- Seconds to subtract for the zone. -/
  zone : Int
deriving Repr

/-- Nothing read yet. -/
def Reading.blank : Reading := ⟨none, 0, 0, 0, 0, 0, 0, 0⟩

/-- The second a reading denotes: the date must exist, the time of day too (a sixtieth second is
    the last one of its minute), the week day must fit, and the calendar must hold the result. -/
def Reading.resolve (r : Reading) : Option Int :=
  let date : Date := ⟨r.year, r.month, r.day⟩
  let local_ := (Moment.mk date r.hour r.minute (min r.second 59)).toSeconds
  if firstYear ≤ r.year ∧ r.year ≤ lastYear ∧ date.exists ∧ r.hour ≤ 23 ∧ r.minute ≤ 59
      ∧ r.second ≤ 60 ∧ r.weekday.all (· == weekdayOf date.toDays) ∧ inCalendar (local_ - r.zone) then
    some (local_ - r.zone)
  else none

/-- Reads between `least` and `most` digits: their value, how many, and the rest. -/
def readNumber (least most : Nat) (s : List Char) : Option (Nat × Nat × List Char) :=
  let ds := (s.take most).takeWhile Char.isDigit
  if ds.length < least ∨ signedSize ≤ natOfDigits ds then none
  else some (natOfDigits ds, ds.length, s.drop ds.length)

/-- Reads a number of any length, at least `least` digits. -/
def readLong (least : Nat) (s : List Char) : Option (Nat × Nat × List Char) :=
  readNumber least s.length s

/-- Drops `name` from the front, in any case. -/
def dropName? (name s : List Char) : Option (List Char) :=
  if (s.take name.length).map Char.toLower == name.map Char.toLower then some (s.drop name.length)
  else none

/-- Reads one of the names: its place in the list and the rest. -/
def readName (names : List (List Char)) (s : List Char) : Option (Nat × List Char) :=
  names.zipIdx.findSome? fun entry => (dropName? entry.1 s).map fun rest => (entry.2, rest)

/-- Reads the short name of a day. -/
def readShortDay (s : List Char) : Option (Nat × List Char) :=
  readName ((List.range 7).map shortDayName) s

/-- Reads the short name of a day, and the rest of its long name if it follows. -/
def readDay (s : List Char) : Option (Nat × List Char) :=
  (readShortDay s).map fun found =>
    (found.1, (dropName? (((dayNames[found.1]?.getD "").toList).drop 3) found.2).getD found.2)

/-- Reads the short name of a month, counted from 1. -/
def readMonth (s : List Char) : Option (Nat × List Char) :=
  (readName (monthNames.map String.toList) s).map fun found => (found.1 + 1, found.2)

/-- Drops blanks, at least one. -/
def someBlanks (s : List Char) : Option (List Char) :=
  match s with
  | c :: rest => if Text.isBlank c then some (Text.trimStart rest) else none
  | [] => none

/-- Drops a colon that may have blanks in front. -/
def colon (s : List Char) : Option (List Char) := Text.dropStart? [':'] (Text.trimStart s)

/-! ## §4 The mail form -/

/-- Hours east of Greenwich of the zones that have a name. -/
def namedZones : List (String × Int) :=
  [("gmt", 0), ("ut", 0), ("z", 0), ("edt", -4), ("est", -5), ("cdt", -5), ("cst", -6),
   ("mdt", -6), ("mst", -7), ("pdt", -7), ("pst", -8)]

/-- The seconds of a zone name; a single letter but `j` stands for no offset. -/
def zoneOfName (name : List Char) : Option Int :=
  let low := name.map Char.toLower
  match namedZones.find? fun z => z.1.toList == low with
  | some z => some (z.2 * 3600)
  | none =>
    match low with
    | [c] => if c != 'j' then some 0 else none
    | _ => none

/-- The seconds of a zone `+hhmm` or `-hhmm` below a day. -/
def zoneOfDigits : List Char → Option (Int × List Char)
  | sign :: a :: b :: c :: d :: rest =>
    if (sign == '+' || sign == '-') && [a, b, c, d].all Char.isDigit then
      let hours := natOfDigits [a, b]
      let minutes := natOfDigits [c, d]
      if minutes < 60 ∧ hours < 24 then
        let east : Int := (hours * 3600 + minutes * 60 : Nat)
        some (if sign == '-' then -east else east, rest)
      else none
    else none
  | _ => none

/-- Reads a zone. -/
def readZone (s : List Char) : Option (Int × List Char) :=
  match s.span Char.isAlpha with
  | ([], _) => zoneOfDigits s
  | (name, rest) => (zoneOfName name).map fun east => (east, rest)

/-- Drops a comment up to its closing parenthesis; `depth` parentheses are open around it. -/
def closeComment (depth : Nat) : List Char → Option (List Char)
  | [] => none
  | ')' :: rest => if depth = 0 then some rest else closeComment (depth - 1) rest
  | '(' :: rest => closeComment (depth + 1) rest
  | '\\' :: _ :: rest => closeComment depth rest
  | _ :: rest => closeComment depth rest

/-- Whether a text is a row of comments with blanks in front of each; `fuel` bounds their number. -/
def onlyComments : Nat → List Char → Bool
  | 0, s => s.isEmpty
  | fuel + 1, s =>
    match Text.trimStart s with
    | '(' :: rest =>
      match closeComment 0 rest with
      | some rest => onlyComments fuel rest
      | none => s.isEmpty
    | _ => s.isEmpty

/-- The year that digits of a mail date mean: two of them lie in 1950–2049, three count from 1900. -/
def mailYear (value count : Nat) : Int :=
  if count = 2 then (if value < 50 then value + 2000 else value + 1900)
  else if count = 3 then value + 1900
  else value

/-- Reads a date in the mail form. -/
def readMail (s : List Char) : Option Int := do
  let s := Text.trimStart s
  let (weekday, s) ←
    match readShortDay s with
    | some (weekday, ',' :: rest) => some (some weekday, rest)
    | some _ => none
    | none => some (none, s)
  let (day, _, s) ← readNumber 1 2 (Text.trimStart s)
  let (month, s) ← readMonth (← someBlanks s)
  let (value, count, s) ← readLong 2 (← someBlanks s)
  let (hour, _, s) ← readNumber 2 2 (← someBlanks s)
  let (minute, _, s) ← readNumber 2 2 (Text.trimStart (← colon s))
  let (second, s) ←
    match colon s with
    | some rest => (readNumber 2 2 rest).map fun found => (found.1, found.2.2)
    | none => some (0, s)
  let (zone, s) ← readZone (← someBlanks s)
  if onlyComments s.length s then
    Reading.resolve ⟨weekday, mailYear value count, month, day, hour, minute, second, zone⟩
  else none

/-! ## §5 The fixed patterns -/

/-- An element of a pattern. -/
inductive Field
  /-- This very text. -/
  | literal (text : String)
  /-- Blanks, possibly none. -/
  | blanks
  /-- The first three letters of a day. -/
  | shortDay
  /-- A day, short or long. -/
  | day
  | shortMonth
  | dayOfMonth
  /-- Up to four digits, or a sign and any number of them. -/
  | year
  /-- Up to two digits of a year from 1970 to 2069. -/
  | yearOfCentury
  | hour
  | minute
  | second

/-- Reads a number of one or two digits with blanks in front. -/
def readShort (s : List Char) : Option (Nat × List Char) :=
  (readNumber 1 2 (Text.trimStart s)).map fun found => (found.1, found.2.2)

/-- Reads a year that may have a sign. -/
def readYear (s : List Char) : Option (Int × List Char) :=
  match Text.trimStart s with
  | '-' :: rest => (readLong 1 rest).map fun found => (-(found.1 : Int), found.2.2)
  | '+' :: rest => (readLong 1 rest).map fun found => ((found.1 : Int), found.2.2)
  | s => (readNumber 1 4 s).map fun found => ((found.1 : Int), found.2.2)

/-- Reads one element of a pattern. -/
def Field.read (r : Reading) (s : List Char) : Field → Option (Reading × List Char)
  | .literal text => (Text.dropStart? text.toList s).map fun rest => (r, rest)
  | .blanks => some (r, Text.trimStart s)
  | .shortDay => (readShortDay s).map fun f => ({ r with weekday := some f.1 }, f.2)
  | .day => (readDay s).map fun f => ({ r with weekday := some f.1 }, f.2)
  | .shortMonth => (readMonth s).map fun f => ({ r with month := f.1 }, f.2)
  | .dayOfMonth => (readShort s).map fun f => ({ r with day := f.1 }, f.2)
  | .year => (readYear s).map fun f => ({ r with year := f.1 }, f.2)
  | .yearOfCentury => (readShort s).map fun f =>
      ({ r with year := if f.1 < 70 then f.1 + 2000 else f.1 + 1900 }, f.2)
  | .hour => (readShort s).map fun f => ({ r with hour := f.1 }, f.2)
  | .minute => (readShort s).map fun f => ({ r with minute := f.1 }, f.2)
  | .second => (readShort s).map fun f => ({ r with second := f.1 }, f.2)

/-- Reads a date by a pattern; nothing may follow. -/
def readPattern (r : Reading) (s : List Char) : List Field → Option Int
  | [] => if s.isEmpty then r.resolve else none
  | field :: fields =>
    match field.read r s with
    | some (r, rest) => readPattern r rest fields
    | none => none

/-- A time of day. -/
def clock : List Field := [.hour, .literal ":", .minute, .literal ":", .second]

/-- `Sun, 06 Nov 1994 08:49:37 GMT`. -/
def fixedForm : List Field :=
  [.shortDay, .literal ",", .blanks, .dayOfMonth, .blanks, .shortMonth, .blanks, .year, .blanks]
    ++ clock ++ [.blanks, .literal "GMT"]

/-- `Sunday, 06-Nov-94 08:49:37 GMT`. -/
def longDayForm : List Field :=
  [.day, .literal ",", .blanks, .dayOfMonth, .literal "-", .shortMonth, .literal "-",
   .yearOfCentury, .blanks] ++ clock ++ [.blanks, .literal "GMT"]

/-- `Sun Nov  6 08:49:37 1994`. -/
def clockForm : List Field :=
  [.shortDay, .blanks, .shortMonth, .blanks, .dayOfMonth, .blanks] ++ clock ++ [.blanks, .year]

end DateReader

/-! ## §6 Dates in headers -/

/-- The second that a date denotes, in the first form that fits. -/
def parseDate (value : String) : Option Int :=
  let s := Text.singleSpaced value.toList
  match DateReader.readMail s with
  | some seconds => some seconds
  | none =>
    [DateReader.fixedForm, DateReader.longDayForm, DateReader.clockForm].findSome?
      (DateReader.readPattern .blank s)

/-- Whether a client that last saw the resource at the date in its header has the current one; a
    date that cannot be read never does. -/
def isNotModified (ifModifiedSince : Option String) (modified : Int) : Bool :=
  match ifModifiedSince.bind parseDate with
  | some since => modified ≤ since
  | none => false

end Http

end StaticSite
