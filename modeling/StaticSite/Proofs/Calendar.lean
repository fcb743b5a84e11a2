/-
  THE CALENDAR: days and dates are two names of one thing.

  `Date.ofDays` takes a day apart into an era of 400 years, a year of that era and a day of that
  year, the year beginning in March (`Position`); what it makes of the three is a date that exists
  (`Position.exists_date`), and `Date.toDays` puts the three together again
  (`Position.toDays_date`).

  1. The year of an era is found by a quotient that takes the leap days out of the days of the era.
     The crux is `start_of_yearOfEra`: the day found lies in the year found, and is the last of 366
     only if that year ends with a leap day.
  2. The month of such a year is found by another quotient; its twelve values are checked one by one.
  3. Both directions together: `toDays_ofDays`, and `Moment.toSeconds_ofSeconds` for times of day.
     Years follow each other (`toDays_lt_of_year_lt`), so what is known of a day gives bounds on its
     year (`year_ofDays`).  The calendar of this program ends at a year on each side, and a second inside
     it has its date inside too (`year_of_inCalendar`).
-/
import StaticSite.Calendar

namespace StaticSite

/-! ## Years of an era -/

/-- The year of an era in which a day of it lies, the first being year 0. -/
def yearOfEra (dayOfEra : Int) : Int :=
  (dayOfEra - dayOfEra / 1460 + dayOfEra / 36524 - dayOfEra / 146096) / 365

/-- The day of an era on which a year of it begins. -/
def yearStart (year : Int) : Int := 365 * year + year / 4 - year / 100

/-- A day of an era lies in the year that is found for it; a 366th day is there only at the end of a
    year before whose end the leap day stands. -/
theorem start_of_yearOfEra {day : Int} (lower : 0 ≤ day) (upper : day < 146097) :
    0 ≤ yearOfEra day ∧ yearOfEra day ≤ 399 ∧
    yearStart (yearOfEra day) ≤ day ∧ day ≤ yearStart (yearOfEra day) + 365 ∧
    (day = yearStart (yearOfEra day) + 365 → isLeapYear (yearOfEra day + 1) = true) := by
  unfold yearStart yearOfEra isLeapYear
  generalize hfours : day / 1460 = fours
  generalize hcenturies : day / 36524 = centuries
  generalize hlast : day / 146096 = last
  generalize hyear : (day - fours + centuries - last) / 365 = year
  generalize hleaps : year / 4 = leaps
  -- each quotient has few values once those before it are known
  have : centuries = 0 ∨ centuries = 1 ∨ centuries = 2 ∨ centuries = 3 ∨ centuries = 4 := by omega
  have : last = 0 ∨ last = 1 := by omega
  have : fours = leaps ∨ fours = leaps + 1 := by omega
  have : year = 4 * leaps ∨ year = 4 * leaps + 1 ∨ year = 4 * leaps + 2 ∨ year = 4 * leaps + 3 := by
    omega
  have : year / 100 = 0 ∨ year / 100 = 1 ∨ year / 100 = 2 ∨ year / 100 = 3 := by omega
  refine ⟨by omega, by omega, by omega, by omega, ?_⟩
  intro leapDay
  simp only [Bool.and_eq_true, Bool.or_eq_true, beq_iff_eq, bne_iff_ne]
  constructor
  · omega
  · omega

/-- Eras have the same leap years. -/
theorem isLeapYear_add (year era : Int) : isLeapYear (year + era * 400) = isLeapYear year := by
  have fourth : (year + era * 400) % 4 = year % 4 := by omega
  have hundredth : (year + era * 400) % 100 = year % 100 := by omega
  have whole : (year + era * 400) % 400 = year % 400 := by omega
  unfold isLeapYear
  rw [fourth, hundredth, whole]

/-! ## Positions -/

/-- Where a day lies: the era, the year of the era, and the day of that year, which begins in March. -/
structure Position where
  era : Int
  year : Int
  day : Int

/-- The position is one of the calendar. -/
structure Position.Valid (p : Position) : Prop where
  year : 0 ≤ p.year ∧ p.year ≤ 399
  day : 0 ≤ p.day ∧ p.day ≤ 365
  leap : p.day = 365 → isLeapYear (p.year + 1) = true

/-- The number of the day at a position. -/
def Position.toDays (p : Position) : Int := p.era * 146097 + yearStart p.year + p.day - 719468

/-- The position of a day. -/
def Position.ofDays (days : Int) : Position :=
  let day := (days + 719468) % 146097
  ⟨(days + 719468) / 146097, yearOfEra day, day - yearStart (yearOfEra day)⟩

/-- The date at a position; January and February belong to the next year. -/
def Position.date (p : Position) : Date :=
  let month := (5 * p.day + 2) / 153
  let day := p.day - (153 * month + 2) / 5 + 1
  let year := p.year + p.era * 400
  if month < 10 then ⟨year, (month + 3).toNat, day.toNat⟩
  else ⟨year + 1, (month - 9).toNat, day.toNat⟩

theorem date_ofDays (days : Int) : (Position.ofDays days).date = Date.ofDays days := rfl

theorem Position.valid_ofDays (days : Int) : (Position.ofDays days).Valid := by
  have lower : 0 ≤ (days + 719468) % 146097 := by omega
  have upper : (days + 719468) % 146097 < 146097 := by omega
  obtain ⟨first, last, start, stop, leap⟩ := start_of_yearOfEra lower upper
  constructor
  · exact ⟨first, last⟩
  · dsimp only [Position.ofDays]
    omega
  · dsimp only [Position.ofDays]
    intro leapDay
    apply leap
    omega

theorem Position.toDays_ofDays (days : Int) : (Position.ofDays days).toDays = days := by
  dsimp only [Position.ofDays, Position.toDays]
  omega

/-- The date at a position is the one of its day. -/
theorem Position.toDays_date {p : Position} (h : p.Valid) : p.date.toDays = p.toDays := by
  obtain ⟨era, year, day⟩ := p
  obtain ⟨⟨first, last⟩, ⟨start, stop⟩, -⟩ := h
  dsimp only at first last start stop
  unfold Position.toDays Position.date yearStart
  dsimp only
  generalize hmonth : (5 * day + 2) / 153 = month
  split
  · -- March to December
    unfold Date.toDays
    dsimp only
    rw [if_neg (by omega), if_neg (by omega)]
    omega
  · -- January and February
    unfold Date.toDays
    dsimp only
    rw [if_pos (by omega), if_pos (by omega)]
    omega

/-- The date at a position exists. -/
theorem Position.exists_date {p : Position} (h : p.Valid) : p.date.exists = true := by
  obtain ⟨era, year, day⟩ := p
  obtain ⟨-, ⟨start, stop⟩, leap⟩ := h
  dsimp only at start stop leap
  have leaps := isLeapYear_add (year + 1) era
  rw [Int.add_right_comm] at leaps
  unfold Position.date Date.exists
  generalize hmonth : (5 * day + 2) / 153 = month
  have months : month = 0 ∨ month = 1 ∨ month = 2 ∨ month = 3 ∨ month = 4 ∨ month = 5 ∨ month = 6 ∨
    month = 7 ∨ month = 8 ∨ month = 9 ∨ month = 10 ∨ month = 11 := by omega
  rw [Bool.and_eq_true, decide_eq_true_iff, decide_eq_true_iff]
  rcases months with rfl | rfl | rfl | rfl | rfl | rfl | rfl | rfl | rfl | rfl | rfl | rfl
  case inr.inr.inr.inr.inr.inr.inr.inr.inr.inr.inr =>
    -- February: a 29th day only in a leap year
    show 1 ≤ (day - 337 + 1).toNat ∧
      (day - 337 + 1).toNat ≤ if isLeapYear (year + era * 400 + 1) then 29 else 28
    rw [leaps]
    split
    next => omega
    next common =>
      have : day ≠ 365 := fun last => common (leap last)
      omega
  all_goals
    simp [monthLength]
    omega

/-! ## Dates and moments -/

theorem toDays_ofDays (days : Int) : (Date.ofDays days).toDays = days := by
  rw [← date_ofDays, Position.toDays_date (Position.valid_ofDays days), Position.toDays_ofDays]

theorem exists_ofDays (days : Int) : (Date.ofDays days).exists = true := by
  rw [← date_ofDays]
  exact Position.exists_date (Position.valid_ofDays days)

/-- The month is one of twelve and the day one of thirty-one. -/
theorem bounds_of_exists {d : Date} (h : d.exists = true) :
    1 ≤ d.month ∧ d.month ≤ 12 ∧ 1 ≤ d.day ∧ d.day ≤ 31 := by
  obtain ⟨year, month, day⟩ := d
  rw [Date.exists, Bool.and_eq_true, decide_eq_true_iff, decide_eq_true_iff] at h
  dsimp only at h ⊢
  unfold monthLength at h
  split at h
  · split at h <;> omega
  all_goals omega

theorem Moment.toSeconds_ofSeconds (seconds : Int) :
    (Moment.ofSeconds seconds).toSeconds = seconds := by
  unfold Moment.ofSeconds Moment.toSeconds
  dsimp only
  rw [toDays_ofDays]
  omega

/-- The time of day of a second. -/
theorem Moment.time_ofSeconds (seconds : Int) :
    (Moment.ofSeconds seconds).hour ≤ 23 ∧ (Moment.ofSeconds seconds).minute ≤ 59 ∧
    (Moment.ofSeconds seconds).second ≤ 59 := by
  unfold Moment.ofSeconds
  dsimp only
  omega

/-- A day of an earlier year comes before the days of a later one. -/
theorem toDays_lt_of_year_lt {d e : Date} (hd : d.exists = true) (he : e.exists = true)
    (earlier : d.year < e.year) : d.toDays < e.toDays := by
  obtain ⟨firstMonth, lastMonth, firstDay, lastDay⟩ := bounds_of_exists hd
  obtain ⟨firstMonth', lastMonth', firstDay', lastDay'⟩ := bounds_of_exists he
  unfold Date.toDays
  dsimp only
  -- January and February are counted with the year before
  split
  · split
    · omega
    · omega
  · split
    · omega
    · omega

/-- From the first day of one year to the last of another, the years are these and those between. -/
theorem year_ofDays {days first last : Int} (lower : (Date.mk first 1 1).toDays ≤ days)
    (upper : days ≤ (Date.mk last 12 31).toDays) :
    first ≤ (Date.ofDays days).year ∧ (Date.ofDays days).year ≤ last := by
  have day := toDays_ofDays days
  have found := exists_ofDays days
  constructor
  · apply Int.not_lt.1
    intro earlier
    have := toDays_lt_of_year_lt found (e := ⟨first, 1, 1⟩) rfl earlier
    omega
  · apply Int.not_lt.1
    intro later
    have := toDays_lt_of_year_lt (d := ⟨last, 12, 31⟩) rfl found later
    omega

/-- A second inside the calendar lies in one of its years. -/
theorem year_of_inCalendar {seconds : Int} (h : inCalendar seconds = true) :
    firstYear ≤ (Moment.ofSeconds seconds).date.year ∧
    (Moment.ofSeconds seconds).date.year ≤ lastYear := by
  rw [inCalendar, Bool.and_eq_true, decide_eq_true_iff, decide_eq_true_iff] at h
  have first : (Date.mk firstYear 1 1).toDays * 86400 = firstSecond := by decide
  have last : ((Date.mk lastYear 12 31).toDays + 1) * 86400 = lastSecond + 1 := by decide
  exact year_ofDays (by omega) (by omega)

end StaticSite
