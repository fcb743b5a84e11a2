/-
  OLDER DATES: the forms in which other programs write a date, and dates with other white space.

  A date may come with the whole name of its day and two digits of its year (`longDayDate`), or as a
  clock writes it, without a comma and with a blank in place of a leading zero (`clockDate`).  Either
  is read as the second it was written for, if the year is one of 1970–2069.

  1. A text with runs of blanks in place of its spaces has the same words (`words_of_spread`), and only
     the words of a date are read (`parseDate_of_spread`).
  2. Neither form is taken for one that is tried before it: those want a comma behind the short name of
     the day (`readMail_of_open`, `readPattern_of_open`).
  3. What a form leaves to its own pattern is read field by field, and the fields denote the second
     (`readPattern_longDayForm`, `readPattern_clockForm`).
-/
import StaticSite.Proofs.Http.Dates

namespace StaticSite

/-! ## White space -/

namespace Text

/-- A text, and the text with a run of blanks in place of each of its spaces. -/
inductive Spread : List Char → List Char → Prop
  | nil : Spread [] []
  | space {run text spread : List Char} (some : run ≠ []) (blank : ∀ c ∈ run, isBlank c = true)
      (rest : Spread text spread) : Spread (' ' :: text) (run ++ spread)
  | other {c : Char} {text spread : List Char} (solid : c ≠ ' ') (rest : Spread text spread) :
      Spread (c :: text) (c :: spread)

/-- The words are the same.  By induction along the text, the current word being any. -/
theorem wordsFrom_of_spread {text spread : List Char} (h : Spread text spread) (word : List Char) :
    wordsFrom word spread = wordsFrom word text := by
  induction h generalizing word with
  | nil => rfl
  | @space run text spread some blank _ ih =>
    obtain ⟨c, others, rfl⟩ := List.exists_cons_of_ne_nil some
    obtain ⟨hc, hothers⟩ := List.forall_mem_cons.1 blank
    have atRun := wordsFrom_append_cons hc word [] (others ++ spread)
    have atSpace := wordsFrom_append_cons (by decide : isBlank ' ' = true) word [] text
    rw [words, wordsFrom_blanks hothers, ih] at atRun
    exact atRun.trans atSpace.symm
  | other _ _ ih => rw [wordsFrom, wordsFrom, ih, ih]

theorem words_of_spread {text spread : List Char} (h : Spread text spread) :
    words spread = words text :=
  wordsFrom_of_spread h []

end Text

namespace Http

open Text (Spread IsWord)

/-- Only the words of a date are read. -/
theorem parseDate_of_spread {date value : String} (h : Spread date.toList value.toList) :
    parseDate value = parseDate date := by
  unfold parseDate
  rw [Text.singleSpaced, Text.words_of_spread h]
  rfl

/-! ## The forms -/

/-- The whole name of a week day. -/
def longDayName (weekday : Nat) : List Char := (dayNames[weekday]?.getD "").toList

/-- The text of a date with the whole name of its day and two digits of the year. -/
def longDayText (weekday day month yearOfCentury hour minute second : Nat) : List Char :=
  longDayName weekday ++ ',' :: ' ' :: (padded 2 day ++ '-' :: (shortMonthName month ++ '-' ::
    (padded 2 yearOfCentury ++ ' ' :: (padded 2 hour ++ ':' :: (padded 2 minute ++ ':' ::
      (padded 2 second ++ ' ' :: "GMT".toList))))))

/-- The text of a date as a clock writes it, with `blanks` in front of the day. -/
def clockText (weekday month : Nat) (blanks : List Char) (day hour minute second year : Nat) :
    List Char :=
  shortDayName weekday ++ ' ' :: (shortMonthName month ++ ' ' :: (blanks ++ (Nat.toDigits 10 day ++
    ' ' :: ((padded 2 hour ++ ':' :: (padded 2 minute ++ ':' :: padded 2 second)) ++
      ' ' :: padded 4 year))))

/-- The date of a second, as `Sunday, 06-Nov-94 08:49:37 GMT`. -/
def longDayDate (seconds : Int) : String :=
  let m := Moment.ofSeconds seconds
  String.ofList (longDayText (weekdayOf m.date.toDays) m.date.day m.date.month
    (m.date.year % 100).toNat m.hour m.minute m.second)

/-- The date of a second, as `Sun Nov  6 08:49:37 1994`. -/
def clockDate (seconds : Int) : String :=
  let m := Moment.ofSeconds seconds
  String.ofList (clockText (weekdayOf m.date.toDays) m.date.month
    (if m.date.day < 10 then [' '] else []) m.date.day m.hour m.minute m.second m.date.year.toNat)

example : longDayDate 784111777 = "Sunday, 06-Nov-94 08:49:37 GMT" := by decide +kernel
example : clockDate 784111777 = "Sun Nov  6 08:49:37 1994" := by decide +kernel

namespace DateReader

/-! ## Forms that are tried before -/

/-- The mail form wants a comma behind a day. -/
theorem readMail_of_open {s rest : List Char} {weekday : Nat} {c : Char} (start : Text.trimStart s = s)
    (day : readShortDay s = some (weekday, c :: rest)) (noComma : c ≠ ',') : readMail s = none := by
  unfold readMail
  rw [start]
  dsimp only [Option.bind_eq_bind]
  rw [day]
  split
  next h =>
    cases h
    exact absurd rfl noComma
  next => rfl
  next h => cases h

/-- So do the patterns that begin with a day and a comma. -/
theorem readPattern_of_open {r read : Reading} {s rest : List Char} {c : Char} {field : Field}
    (day : field.read r s = some (read, c :: rest)) (noComma : c ≠ ',') (fields : List Field) :
    readPattern r s (field :: .literal "," :: fields) = none := by
  have comma : Text.dropStart? ",".toList (c :: rest) = none :=
    if_neg (by rw [beq_iff_eq]; exact noComma.symm)
  rw [readPattern, day]
  dsimp only
  rw [readPattern, Field.read, comma]
  rfl

theorem readFixed_of_open {s rest : List Char} {weekday : Nat} {c : Char}
    (day : readShortDay s = some (weekday, c :: rest)) (noComma : c ≠ ',') :
    readPattern .blank s fixedForm = none := by
  have first : Field.read .blank s .shortDay
      = some ({ Reading.blank with weekday := some weekday }, c :: rest) := by
    rw [Field.read, day]
    rfl
  exact readPattern_of_open first noComma _

/-! ## Fields -/

variable {weekday day month hour minute second : Nat}

/-- The whole name of a day goes on behind the short one. -/
theorem exists_drop_longDayName (h : weekday < 7) :
    ∃ c more, (longDayName weekday).drop 3 = c :: more ∧ c ≠ ',' ∧ c.toLower ≠ ' ' := by
  have each : ∀ w ∈ List.range 7, (((longDayName w).drop 3).head?.any fun c =>
      c != ',' && c.toLower != ' ') = true := by decide +kernel
  have here := each weekday (List.mem_range.2 h)
  cases tail : (longDayName weekday).drop 3 with
  | nil =>
    rw [tail] at here
    cases here
  | cons c more =>
    rw [tail, List.head?_cons, Option.any_some, Bool.and_eq_true, bne_iff_ne, bne_iff_ne] at here
    exact ⟨c, more, rfl, here⟩

theorem longDayName_eq (weekday : Nat) :
    longDayName weekday = shortDayName weekday ++ (longDayName weekday).drop 3 :=
  (List.take_append_drop 3 (longDayName weekday)).symm

theorem isWord_longDayName (h : weekday < 7) : IsWord (longDayName weekday) := by
  have each : ∀ w ∈ List.range 7, IsWord (longDayName w) := by decide +kernel
  exact each weekday (List.mem_range.2 h)

/-- Its beginning is read as the short name, and then there is no comma. -/
theorem readShortDay_longDayName (h : weekday < 7) (rest : List Char) : ∃ c more,
    readShortDay (longDayName weekday ++ rest) = some (weekday, c :: more) ∧ c ≠ ',' := by
  obtain ⟨c, more, tail, noComma, -⟩ := exists_drop_longDayName h
  refine ⟨c, more ++ rest, ?_, noComma⟩
  rw [longDayName_eq, List.append_assoc, readShortDay_append h, tail]
  rfl

theorem readDay_longDayName (h : weekday < 7) (rest : List Char) :
    readDay (longDayName weekday ++ rest) = some (weekday, rest) := by
  have tail := dropName?_append ((longDayName weekday).drop 3) rest
  rw [longDayName_eq, List.append_assoc, readDay, readShortDay_append h]
  show some (weekday, (dropName? ((longDayName weekday).drop 3) _).getD _) = _
  rw [tail]
  rfl

/-- Before a blank a short name is all there is. -/
theorem readDay_shortDayName (h : weekday < 7) (rest : List Char) :
    readDay (shortDayName weekday ++ ' ' :: rest) = some (weekday, ' ' :: rest) := by
  obtain ⟨c, more, tail, -, solid⟩ := exists_drop_longDayName h
  have nothing : dropName? (c :: more) (' ' :: rest) = none := by
    rw [dropName?, List.length_cons, List.take_succ_cons, List.map_cons, List.map_cons, if_neg]
    intro same
    exact solid (List.cons.inj (eq_of_beq same)).1.symm
  rw [readDay, readShortDay_append h]
  show some (weekday, (dropName? ((longDayName weekday).drop 3) _).getD _) = _
  rw [tail, nothing]
  rfl

/-- A day of the month without a zero in front. -/
theorem readShort_toDigits (h : day < 100) (rest : List Char) :
    readShort (Nat.toDigits 10 day ++ ' ' :: rest) = some (day, ' ' :: rest) := by
  have word := isWord_of_digits (Nat.toDigits_ne_nil (n := day) (b := 10)) isDigit_of_mem_toDigits
  have few : (Nat.toDigits 10 day).length ≤ 2 :=
    (Nat.length_toDigits_le_iff (by decide) (by decide)).2 h
  have value := natOfDigits_toDigits day
  have small : day < signedSize := Nat.lt_trans h (by decide)
  have stop : ∀ c, (' ' :: rest).head? = some c → c.isDigit = false := by
    rintro c ⟨⟩
    decide
  rw [readShort, Text.trimStart_of_isWord word, readNumber_append isDigit_of_mem_toDigits
    (List.length_pos_iff.2 word.1) few (.inr stop) (by omega), value]
  rfl

/-- A year of four digits at the end. -/
theorem readYear_padded {year : Nat} (h : year < 10000) :
    readYear (padded 4 year) = some ((year : Int), []) := by
  have word := isWord_padded 4 year
  have whole : readNumber 1 4 (padded 4 year ++ []) = some (year, 4, []) :=
    readNumber_padded (by decide) h (by decide) (Nat.lt_trans h (by decide)) []
  have start := Text.trimStart_of_isWord word []
  rw [List.append_nil] at whole start
  obtain ⟨c, rest, hyear⟩ := List.exists_cons_of_ne_nil word.1
  have digit : c.isDigit = true := isDigit_of_mem_padded c (hyear ▸ List.mem_cons_self)
  rw [readYear, start]
  rw [hyear] at whole ⊢
  split
  next h =>
    cases h
    cases digit
  next h =>
    cases h
    cases digit
  next =>
    rw [whole]
    rfl

/-- The year that two digits mean, from 1970 to 2069. -/
theorem year_of_century {year : Int} (first : 1970 ≤ year) (last : year ≤ 2069) :
    (if (year % 100).toNat < 70 then ((year % 100).toNat : Int) + 2000
      else ((year % 100).toNat : Int) + 1900) = year := by
  split
  · omega
  · omega

/-! ## The patterns -/

theorem readPattern_longDayForm (h : InBounds weekday day month hour minute second)
    {yearOfCentury : Nat} (two : yearOfCentury < 100) :
    readPattern .blank (longDayText weekday day month yearOfCentury hour minute second) longDayForm
      = Reading.resolve ⟨some weekday,
          if yearOfCentury < 70 then (yearOfCentury : Int) + 2000 else (yearOfCentury : Int) + 1900,
          month, day, hour, minute, second, 0⟩ := by
  have comma (rest : List Char) : Text.dropStart? ",".toList (',' :: rest) = some rest := rfl
  have mark (rest : List Char) : Text.dropStart? ":".toList (':' :: rest) = some rest := rfl
  have dash (rest : List Char) : Text.dropStart? "-".toList ('-' :: rest) = some rest := rfl
  have space : Text.trimStart (' ' :: "GMT".toList) = "GMT".toList := by decide +kernel
  have greenwich : Text.dropStart? "GMT".toList "GMT".toList = some [] := by decide +kernel
  unfold longDayText longDayForm clock
  simp only [List.cons_append, List.nil_append, readPattern, Field.read,
    readDay_longDayName h.weekday, Option.map_some, comma,
    trimStart_cons_space (isWord_padded 2 day), readShort_append h.day, dash,
    readMonth_append h.firstMonth h.lastMonth, readShort_append two,
    trimStart_cons_space (isWord_padded 2 hour), readShort_append h.hour, mark,
    readShort_append h.minute, readShort_append h.second, space, greenwich]
  rfl

theorem readPattern_clockForm (h : InBounds weekday day month hour minute second) {year : Nat}
    (four : year < 10000) :
    readPattern .blank (clockText weekday month [] day hour minute second year) clockForm
      = Reading.resolve ⟨some weekday, year, month, day, hour, minute, second, 0⟩ := by
  have mark (rest : List Char) : Text.dropStart? ":".toList (':' :: rest) = some rest := rfl
  have word := isWord_of_digits (Nat.toDigits_ne_nil (n := day) (b := 10)) isDigit_of_mem_toDigits
  have last := Text.trimStart_of_isWord (isWord_padded 4 year) []
  rw [List.append_nil] at last
  have space : Text.trimStart (' ' :: padded 4 year) = padded 4 year := last
  unfold clockText clockForm clock
  simp only [List.append_assoc, List.cons_append, List.nil_append, readPattern, Field.read,
    readShortDay_append h.weekday, Option.map_some,
    trimStart_cons_space (isWord_shortMonthName h.lastMonth),
    readMonth_append h.firstMonth h.lastMonth, trimStart_cons_space word, readShort_toDigits h.day,
    trimStart_cons_space (isWord_padded 2 hour), readShort_append h.hour, mark,
    readShort_append h.minute, readShort_append h.second, space, readYear_padded four]
  rfl

/-! ## The forms are not mistaken -/

/-- What stands behind the short name is the rest of the long one. -/
theorem longDayText_not_before (h : InBounds weekday day month hour minute second)
    (yearOfCentury : Nat) :
    readMail (longDayText weekday day month yearOfCentury hour minute second) = none ∧
    readPattern .blank (longDayText weekday day month yearOfCentury hour minute second) fixedForm
      = none := by
  unfold longDayText
  generalize ',' :: ' ' :: _ = rest
  obtain ⟨c, more, name, noComma⟩ := readShortDay_longDayName h.weekday rest
  have start := Text.trimStart_of_isWord (isWord_longDayName h.weekday) rest
  exact ⟨readMail_of_open start name noComma, readFixed_of_open name noComma⟩

/-- What stands behind the short name is a blank. -/
theorem clockText_not_before (h : InBounds weekday day month hour minute second)
    (blanks : List Char) (year : Nat) :
    readMail (clockText weekday month blanks day hour minute second year) = none ∧
    readPattern .blank (clockText weekday month blanks day hour minute second year) fixedForm = none ∧
    readPattern .blank (clockText weekday month blanks day hour minute second year) longDayForm
      = none := by
  unfold clockText
  generalize shortMonthName month ++ ' ' :: _ = rest
  have noComma : ' ' ≠ ',' := by decide
  have start := Text.trimStart_of_isWord (isWord_shortDayName h.weekday) (' ' :: rest)
  have name := readShortDay_append h.weekday (' ' :: rest)
  have whole : Field.read .blank (shortDayName weekday ++ ' ' :: rest) .day
      = some ({ Reading.blank with weekday := some weekday }, ' ' :: rest) := by
    rw [Field.read, readDay_shortDayName h.weekday]
    rfl
  exact ⟨readMail_of_open start name noComma, readFixed_of_open name noComma,
    readPattern_of_open whole noComma _⟩

/-! ## The words of a form -/

theorem singleSpaced_longDayText (h : InBounds weekday day month hour minute second)
    (yearOfCentury : Nat) :
    Text.singleSpaced (longDayText weekday day month yearOfCentury hour minute second)
      = longDayText weekday day month yearOfCentury hour minute second := by
  have joined : longDayText weekday day month yearOfCentury hour minute second
      = [' '].intercalate [longDayName weekday ++ [','],
          padded 2 day ++ '-' :: (shortMonthName month ++ '-' :: padded 2 yearOfCentury),
          padded 2 hour ++ ':' :: (padded 2 minute ++ ':' :: padded 2 second), "GMT".toList] := by
    unfold longDayText
    simp only [List.intercalate_cons_cons, List.intercalate_singleton, List.append_assoc,
      List.cons_append, List.nil_append]
  have comma : IsWord [','] := by decide
  have dash : IsWord ['-'] := by decide
  have greenwich : IsWord "GMT".toList := by decide
  have date := (isWord_padded 2 day).append
    (dash.append ((isWord_shortMonthName h.lastMonth).append (dash.append (isWord_padded 2 yearOfCentury))))
  rw [joined]
  apply Text.singleSpaced_intercalate
  simp only [List.forall_mem_cons]
  exact ⟨(isWord_longDayName h.weekday).append comma, date, isWord_clock hour minute second, greenwich, List.forall_mem_nil _⟩

/-- Blanks in front of the day are not read. -/
theorem singleSpaced_clockText (h : InBounds weekday day month hour minute second)
    {blanks : List Char} (blank : ∀ c ∈ blanks, Text.isBlank c = true) (year : Nat) :
    Text.singleSpaced (clockText weekday month blanks day hour minute second year)
      = clockText weekday month [] day hour minute second year := by
  have space : Text.isBlank ' ' = true := by decide
  have digits := isWord_of_digits (Nat.toDigits_ne_nil (n := day) (b := 10)) isDigit_of_mem_toDigits
  have words : Text.words (clockText weekday month blanks day hour minute second year)
      = [shortDayName weekday, shortMonthName month, Nat.toDigits 10 day,
          padded 2 hour ++ ':' :: (padded 2 minute ++ ':' :: padded 2 second), padded 4 year] := by
    unfold clockText
    rw [Text.words_append_cons space, Text.words_append_cons space,
      Text.words_of_isWord (isWord_shortDayName h.weekday),
      Text.words_of_isWord (isWord_shortMonthName h.lastMonth), Text.words,
      Text.wordsFrom_blanks blank, ← Text.words, Text.words_append_cons space,
      Text.words_append_cons space, Text.words_of_isWord digits,
      Text.words_of_isWord (isWord_clock hour minute second),
      Text.words_of_isWord (isWord_padded 4 year)]
    rfl
  rw [Text.singleSpaced, words]
  unfold clockText
  simp only [List.intercalate_cons_cons, List.intercalate_singleton, List.append_assoc,
    List.cons_append, List.nil_append]

end DateReader

/-! ## Reading the forms -/

open DateReader

/-- The seconds of 1970–2069 have one of these years. -/
theorem year_of_seconds {seconds : Int} (first : (Moment.mk ⟨1970, 1, 1⟩ 0 0 0).toSeconds ≤ seconds)
    (last : seconds ≤ (Moment.mk ⟨2069, 12, 31⟩ 23 59 59).toSeconds) :
    inCalendar seconds = true ∧ 1970 ≤ (Moment.ofSeconds seconds).date.year ∧
      (Moment.ofSeconds seconds).date.year ≤ 2069 := by
  have start : (Moment.mk ⟨1970, 1, 1⟩ 0 0 0).toSeconds = 0 := by decide
  have stop : (Moment.mk ⟨2069, 12, 31⟩ 23 59 59).toSeconds = 3155759999 := by decide
  have day : (Date.mk 1970 1 1).toDays = 0 := by decide
  have day' : (Date.mk 2069 12 31).toDays = 36524 := by decide
  rw [start] at first
  rw [stop] at last
  refine ⟨?_, year_ofDays (by omega) (by omega)⟩
  rw [inCalendar, Bool.and_eq_true, decide_eq_true_iff, decide_eq_true_iff]
  unfold firstSecond lastSecond
  omega

/-- A date with the whole name of its day is read. -/
theorem parseDate_longDayDate {seconds : Int}
    (first : (Moment.mk ⟨1970, 1, 1⟩ 0 0 0).toSeconds ≤ seconds)
    (last : seconds ≤ (Moment.mk ⟨2069, 12, 31⟩ 23 59 59).toSeconds) :
    parseDate (longDayDate seconds) = some seconds := by
  obtain ⟨inside, firstYear, lastYear⟩ := year_of_seconds first last
  have bounds := inBounds_ofSeconds seconds
  have resolved := resolve_ofSeconds inside
  have year := year_of_century firstYear lastYear
  unfold longDayDate parseDate
  generalize Moment.ofSeconds seconds = m at bounds resolved year
  dsimp only at bounds resolved ⊢
  obtain ⟨mail, fixed⟩ := longDayText_not_before bounds (m.date.year % 100).toNat
  have two : (m.date.year % 100).toNat < 100 := by omega
  have own := readPattern_longDayForm bounds two
  rw [year, resolved] at own
  rw [String.toList_ofList, singleSpaced_longDayText bounds]
  simp only [mail, List.findSome?_cons, fixed, own]

/-- A date as a clock writes it is read. -/
theorem parseDate_clockDate {seconds : Int}
    (first : (Moment.mk ⟨1970, 1, 1⟩ 0 0 0).toSeconds ≤ seconds)
    (last : seconds ≤ (Moment.mk ⟨2069, 12, 31⟩ 23 59 59).toSeconds) :
    parseDate (clockDate seconds) = some seconds := by
  obtain ⟨inside, firstYear, lastYear⟩ := year_of_seconds first last
  have bounds := inBounds_ofSeconds seconds
  have resolved := resolve_ofSeconds inside
  unfold clockDate parseDate
  generalize Moment.ofSeconds seconds = m at bounds resolved firstYear lastYear
  dsimp only at bounds resolved firstYear lastYear ⊢
  have blank : ∀ c ∈ (if m.date.day < 10 then [' '] else []), Text.isBlank c = true := by
    split
    · exact List.forall_mem_singleton.2 (by decide)
    · exact List.forall_mem_nil _
  have year : (m.date.year.toNat : Int) = m.date.year := by omega
  obtain ⟨mail, fixed, longDay⟩ := clockText_not_before bounds [] m.date.year.toNat
  have four : m.date.year.toNat < 10000 := by omega
  have own := readPattern_clockForm bounds four
  rw [year, resolved] at own
  rw [String.toList_ofList, singleSpaced_clockText bounds blank]
  simp only [mail, List.findSome?_cons, fixed, longDay, own]

/-- A date is read as the second it was written for: in the form of this program for every second of
    the calendar, in the two older forms for those of 1970–2069; and any run of white space may stand
    for a space. -/
theorem parseDate_reads_forms :
    (∀ seconds, inCalendar seconds = true → parseDate (formatDate seconds) = some seconds ∧
      ∀ value : String, Spread (formatDate seconds).toList value.toList →
        parseDate value = some seconds) ∧
    ∀ seconds, (Moment.mk ⟨1970, 1, 1⟩ 0 0 0).toSeconds ≤ seconds →
      seconds ≤ (Moment.mk ⟨2069, 12, 31⟩ 23 59 59).toSeconds →
      ∀ date ∈ [longDayDate seconds, clockDate seconds], parseDate date = some seconds ∧
        ∀ value : String, Spread date.toList value.toList → parseDate value = some seconds := by
  constructor
  · intro seconds inside
    have read := parseDate_formatDate inside
    exact ⟨read, fun value spread => (parseDate_of_spread spread).trans read⟩
  · intro seconds first last date form
    have read : parseDate date = some seconds := by
      rw [List.mem_cons, List.mem_singleton] at form
      rcases form with rfl | rfl
      · exact parseDate_longDayDate first last
      · exact parseDate_clockDate first last
    exact ⟨read, fun value spread => (parseDate_of_spread spread).trans read⟩

example : parseDate "Sun\u00a0Nov \t 6  08:49:37\n1994" = some 784111777 := by decide +kernel

end Http

end StaticSite
