/-
  THE CALENDAR: days and dates of the proleptic Gregorian calendar.

  A day is numbered from 1 January 1970.  The calendar repeats every 400 years, which have 146097
  days; inside such an era a year is taken to begin on 1 March, so that the leap day is its last
  day and the months before it have the fixed lengths 31, 30, 31, 30, 31, 31, 30, 31, 30, 31, 31.
  With that shift both directions, `Date.toDays` and `Date.ofDays`, are closed formulas.

  Numbered structure:
    §1  dates, month lengths, the two directions
    §2  week days
    §3  moments: a date and a time of day, as seconds since 1970
    §4  names
-/

namespace StaticSite

/-! ## §1 Dates and day numbers -/

/-- A day of the calendar; years before 1 are counted 0, -1, -2, … -/
structure Date where
  year : Int
  month : Nat
  day : Nat
deriving DecidableEq, Repr

/-- Whether 29 February exists in a year. -/
def isLeapYear (year : Int) : Bool := year % 4 == 0 && (year % 100 != 0 || year % 400 == 0)

/-- The number of days of a month; 0 if there is no such month. -/
def monthLength (year : Int) : Nat → Nat
  | 2 => if isLeapYear year then 29 else 28
  | 4 | 6 | 9 | 11 => 30
  | 1 | 3 | 5 | 7 | 8 | 10 | 12 => 31
  | _ => 0

/-- Whether the date exists. -/
def Date.exists (d : Date) : Bool := 1 ≤ d.day && d.day ≤ monthLength d.year d.month

/-- The number of the day, 1 January 1970 being day 0. -/
def Date.toDays (d : Date) : Int :=
  let year : Int := if d.month ≤ 2 then d.year - 1 else d.year
  let era := year / 400
  let yearOfEra := year % 400
  let month : Int := if d.month ≤ 2 then d.month + 9 else d.month - 3
  let dayOfYear := (153 * month + 2) / 5 + d.day - 1
  let dayOfEra := yearOfEra * 365 + yearOfEra / 4 - yearOfEra / 100 + dayOfYear
  era * 146097 + dayOfEra - 719468

/-- The date of a day number. -/
def Date.ofDays (days : Int) : Date :=
  let shifted := days + 719468
  let era := shifted / 146097
  let dayOfEra := shifted % 146097
  let yearOfEra := (dayOfEra - dayOfEra / 1460 + dayOfEra / 36524 - dayOfEra / 146096) / 365
  let dayOfYear := dayOfEra - (365 * yearOfEra + yearOfEra / 4 - yearOfEra / 100)
  let month := (5 * dayOfYear + 2) / 153
  let day := dayOfYear - (153 * month + 2) / 5 + 1
  let year := yearOfEra + era * 400
  if month < 10 then ⟨year, (month + 3).toNat, day.toNat⟩
  else ⟨year + 1, (month - 9).toNat, day.toNat⟩

/-! ## §2 Week days -/

/-- The day of the week, Sunday being 0; day 0 was a Thursday. -/
def weekdayOf (days : Int) : Nat := ((days + 4) % 7).toNat

/-! ## §3 Moments -/

/-- A date and a time of day. -/
structure Moment where
  date : Date
  hour : Nat
  minute : Nat
  second : Nat
deriving DecidableEq, Repr

/-- Seconds since the beginning of 1970. -/
def Moment.toSeconds (m : Moment) : Int :=
  m.date.toDays * 86400 + (m.hour * 3600 + m.minute * 60 + m.second : Nat)

/-- The moment that is so many seconds after the beginning of 1970. -/
def Moment.ofSeconds (seconds : Int) : Moment :=
  let ofDay := (seconds % 86400).toNat
  ⟨Date.ofDays (seconds / 86400), ofDay / 3600, ofDay / 60 % 60, ofDay % 60⟩

/-- The first year of the calendar in use here. -/
def firstYear : Int := -262143

/-- The last year of the calendar in use here. -/
def lastYear : Int := 262142

/-- The first second of the first year. -/
def firstSecond : Int := -8334601228800

/-- The last second of the last year. -/
def lastSecond : Int := 8210266876799

/-- Whether a second lies in the years of the calendar. -/
def inCalendar (seconds : Int) : Bool := firstSecond ≤ seconds && seconds ≤ lastSecond

example : firstSecond = (Moment.mk ⟨firstYear, 1, 1⟩ 0 0 0).toSeconds := by decide
example : lastSecond = (Moment.mk ⟨lastYear, 12, 31⟩ 23 59 59).toSeconds := by decide

/-! ## §4 Names -/

/-- The names of the days, Sunday first. -/
def dayNames : List String :=
  ["Sunday", "Monday", "Tuesday", "Wednesday", "Thursday", "Friday", "Saturday"]

/-- The names of the months, as they are shortened. -/
def monthNames : List String :=
  ["Jan", "Feb", "Mar", "Apr", "May", "Jun", "Jul", "Aug", "Sep", "Oct", "Nov", "Dec"]

/-- The short name of a week day: its first three letters. -/
def shortDayName (weekday : Nat) : List Char := ((dayNames[weekday]?.getD "").toList).take 3

/-- The short name of a month, counted from 1. -/
def shortMonthName (month : Nat) : List Char := (monthNames[month - 1]?.getD "").toList

/-- A number with at least `width` digits, zeros in front. -/
def padded (width n : Nat) : List Char :=
  let ds := Nat.toDigits 10 n
  List.replicate (width - ds.length) '0' ++ ds

/-- A year: four digits at least, with a sign outside 0–9999. -/
def yearText (year : Int) : List Char :=
  if year < 0 then '-' :: padded 4 (-year).toNat
  else if year ≤ 9999 then padded 4 year.toNat
  else '+' :: Nat.toDigits 10 year.toNat

/-- A time of day as `HH:MM:SS`. -/
def Moment.clockText (m : Moment) : List Char :=
  padded 2 m.hour ++ ':' :: padded 2 m.minute ++ ':' :: padded 2 m.second

end StaticSite
