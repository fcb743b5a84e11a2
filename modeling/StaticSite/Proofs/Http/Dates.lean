/-
  DATES READ BACK: the second that a written date means is the one it was written for.

  A date is six words with a space between any two of them, so joining runs of white space leaves it
  as it is.  Its fields are read one after the other, and each reader takes exactly what was written
  for it and leaves the rest (`readShortDay_append`, `readMonth_append`, `readNumber_padded`).

  1. A year of four digits is read in the mail form, the first that is tried (`readMail_writtenText`).
  2. Any other year has a sign, on which the mail form gives up (`readMail_of_signed`); the fixed form
     takes the sign and any number of digits (`readPattern_of_signed`).
  3. The fields that are read exist as a date and a time of day, have their own week day, and denote the
     second they were made of (`resolve_ofSeconds`).

  Put together: `parseDate_formatDate`.  A written date is plain text besides, so it may stand in a
  header (`isPlain_formatDate`).
-/
import StaticSite.Http.Date
import StaticSite.Proofs.Calendar
import StaticSite.Proofs.Text.Bytes
import StaticSite.Proofs.Text.Lexemes

namespace StaticSite.Http

namespace DateReader

open Text (IsWord isBlank)

/-! ## Names -/

theorem dropName?_append (name rest : List Char) : dropName? name (name ++ rest) = some rest := by
  rw [dropName?, List.take_left, if_pos (beq_self_eq_true _), List.drop_left]

/-- A name of the same length is not dropped in place of another. -/
theorem dropName?_of_ne {name other : List Char} (length : name.length = other.length)
    (differ : name.map Char.toLower ≠ other.map Char.toLower) (rest : List Char) :
    dropName? name (other ++ rest) = none := by
  rw [dropName?, length, List.take_left, if_neg]
  intro same
  exact differ (eq_of_beq same).symm

/-- Of names of one length that differ in more than their case, the one that stands there is read.
    By induction on the names, the place of the first being any. -/
theorem findSome?_dropName {names : List (List Char)} {size : Nat}
    (sizes : ∀ n ∈ names, n.length = size) (distinct : (names.map (List.map Char.toLower)).Nodup)
    {place : Nat} {name : List Char} (h : names[place]? = some name) (rest : List Char)
    (start : Nat) :
    (names.zipIdx start).findSome? (fun entry =>
      (dropName? entry.1 (name ++ rest)).map fun rest => (entry.2, rest))
      = some (start + place, rest) := by
  induction names generalizing place start with
  | nil => cases h
  | cons first others ih =>
    obtain ⟨hfirst, hothers⟩ := List.forall_mem_cons.1 sizes
    obtain ⟨absent, distinct⟩ := List.nodup_cons.1 distinct
    rw [List.zipIdx_cons, List.findSome?_cons]
    cases place with
    | zero =>
      cases h
      rw [dropName?_append]
      rfl
    | succ place =>
      have mem : name ∈ others := List.mem_of_getElem? h
      have differ : first.map Char.toLower ≠ name.map Char.toLower := by
        intro same
        apply absent
        rw [same]
        exact List.mem_map_of_mem mem
      have later := ih hothers distinct h (start + 1)
      rw [Nat.add_assoc, Nat.add_comm 1] at later
      rw [dropName?_of_ne (hfirst.trans (hothers name mem).symm) differ]
      exact later

theorem readName_append {names : List (List Char)} {size : Nat}
    (sizes : ∀ n ∈ names, n.length = size) (distinct : (names.map (List.map Char.toLower)).Nodup)
    {place : Nat} {name : List Char} (h : names[place]? = some name) (rest : List Char) :
    readName names (name ++ rest) = some (place, rest) := by
  have found := findSome?_dropName sizes distinct h rest 0
  rw [Nat.zero_add] at found
  exact found

theorem readShortDay_append {weekday : Nat} (h : weekday < 7) (rest : List Char) :
    readShortDay (shortDayName weekday ++ rest) = some (weekday, rest) := by
  have name : ((List.range 7).map shortDayName)[weekday]? = some (shortDayName weekday) := by
    rw [List.getElem?_map, List.getElem?_range h]
    rfl
  have sizes : ∀ n ∈ (List.range 7).map shortDayName, n.length = 3 := by decide +kernel
  exact readName_append sizes (by decide +kernel) name rest

theorem readMonth_append {month : Nat} (first : 1 ≤ month) (last : month ≤ 12) (rest : List Char) :
    readMonth (shortMonthName month ++ rest) = some (month, rest) := by
  have inside : month - 1 < monthNames.length := by
    show month - 1 < 12
    omega
  have name : (monthNames.map String.toList)[month - 1]? = some (shortMonthName month) := by
    rw [List.getElem?_map, shortMonthName, List.getElem?_eq_getElem inside]
    rfl
  have sizes : ∀ n ∈ monthNames.map String.toList, n.length = 3 := by decide +kernel
  rw [readMonth, readName_append sizes (by decide +kernel) name]
  show some (month - 1 + 1, rest) = some (month, rest)
  rw [Nat.sub_add_cancel first]

theorem isWord_shortDayName {weekday : Nat} (h : weekday < 7) : IsWord (shortDayName weekday) := by
  have each : ∀ w ∈ List.range 7, IsWord (shortDayName w) := by decide +kernel
  exact each weekday (List.mem_range.2 h)

theorem isWord_shortMonthName {month : Nat} (last : month ≤ 12) : IsWord (shortMonthName month) := by
  have each : ∀ m ∈ List.range 13, IsWord (shortMonthName m) := by decide +kernel
  exact each month (List.mem_range.2 (Nat.lt_succ_of_le last))

/-! ## Numbers -/

/-- Digits are read if there are not too few, and the text goes on with something else where more of
    them would be taken. -/
theorem readNumber_append {least most : Nat} {ds rest : List Char}
    (digits : ∀ c ∈ ds, c.isDigit = true) (enough : least ≤ ds.length) (few : ds.length ≤ most)
    (stop : ds.length = most ∨ ∀ c, rest.head? = some c → c.isDigit = false)
    (small : natOfDigits ds < signedSize) :
    readNumber least most (ds ++ rest) = some (natOfDigits ds, ds.length, rest) := by
  have front : ((ds ++ rest).take most).takeWhile Char.isDigit = ds := by
    rw [List.take_append, List.take_of_length_le few]
    apply takeWhile_digits digits
    intro c hc
    rcases stop with full | stop
    · rw [full, Nat.sub_self, List.take_zero] at hc
      cases hc
    · apply stop
      rw [List.head?_take] at hc
      split at hc
      · cases hc
      · exact hc
  rw [readNumber, front, if_neg (by omega), List.drop_left]

theorem readNumber_padded {least width n : Nat} (some : 0 < width) (fits : n < 10 ^ width)
    (enough : least ≤ width) (small : n < signedSize) (rest : List Char) :
    readNumber least width (padded width n ++ rest) = .some (n, width, rest) := by
  have length := length_padded some fits
  have value := natOfDigits_padded width n
  rw [readNumber_append isDigit_of_mem_padded (by omega) (by omega) (.inl length) (by omega), length,
    value]

/-- A number of two digits. -/
theorem readNumber_two {least n : Nat} (fits : n < 100) (enough : least ≤ 2) (rest : List Char) :
    readNumber least 2 (padded 2 n ++ rest) = some (n, 2, rest) :=
  readNumber_padded (by decide) fits enough (Nat.lt_trans fits (by decide)) rest

/-- A number of any length before a blank. -/
theorem readLong_append {least : Nat} {ds rest : List Char} (digits : ∀ c ∈ ds, c.isDigit = true)
    (enough : least ≤ ds.length) (small : natOfDigits ds < signedSize) :
    readLong least (ds ++ ' ' :: rest) = some (natOfDigits ds, ds.length, ' ' :: rest) := by
  apply readNumber_append digits enough
  · rw [List.length_append]
    omega
  · right
    rintro c ⟨⟩
    decide
  · exact small

theorem isWord_padded (width n : Nat) : IsWord (padded width n) :=
  isWord_of_digits (padded_ne_nil width n) isDigit_of_mem_padded

/-- A time of day is one word. -/
theorem isWord_clock (hour minute second : Nat) :
    IsWord (padded 2 hour ++ ':' :: (padded 2 minute ++ ':' :: padded 2 second)) := by
  have mark : IsWord [':'] := by decide
  exact (isWord_padded 2 hour).append
    (mark.append ((isWord_padded 2 minute).append (mark.append (isWord_padded 2 second))))

theorem readShort_append {n : Nat} (fits : n < 100) (rest : List Char) :
    readShort (padded 2 n ++ rest) = some (n, rest) := by
  rw [readShort, Text.trimStart_of_isWord (isWord_padded 2 n), readNumber_two fits (by decide)]
  rfl

/-! ## Blanks and colons -/

theorem trimStart_cons_space {w : List Char} (word : IsWord w) (rest : List Char) :
    Text.trimStart (' ' :: (w ++ rest)) = w ++ rest :=
  Text.trimStart_of_isWord word rest

theorem someBlanks_cons_space {w : List Char} (word : IsWord w) (rest : List Char) :
    someBlanks (' ' :: (w ++ rest)) = some (w ++ rest) :=
  congrArg some (Text.trimStart_of_isWord word rest)

theorem colon_cons (rest : List Char) : colon (':' :: rest) = some rest := rfl

/-! ## The written date -/

/-- The text of a date with these fields. -/
def writtenText (weekday day month : Nat) (year : List Char) (hour minute second : Nat) :
    List Char :=
  shortDayName weekday ++ ',' :: ' ' :: (padded 2 day ++ ' ' :: (shortMonthName month ++ ' ' ::
    (year ++ ' ' :: (padded 2 hour ++ ':' :: (padded 2 minute ++ ':' :: (padded 2 second ++
      ' ' :: "GMT".toList))))))

/-- Fields that a date and a time of day can have. -/
structure InBounds (weekday day month hour minute second : Nat) : Prop where
  weekday : weekday < 7
  day : day < 100
  firstMonth : 1 ≤ month
  lastMonth : month ≤ 12
  hour : hour < 100
  minute : minute < 100
  second : second < 100

variable {weekday day month hour minute second : Nat}

/-- The mail form reads all fields if the year has four digits. -/
theorem readMail_writtenText (h : InBounds weekday day month hour minute second) (year : Nat)
    (four : year < 10000) :
    readMail (writtenText weekday day month (padded 4 year) hour minute second)
      = Reading.resolve ⟨some weekday, year, month, day, hour, minute, second, 0⟩ := by
  have value := natOfDigits_padded 4 year
  have length : (padded 4 year).length = 4 := length_padded (by decide) four
  have small : year < signedSize := Nat.lt_trans four (by decide)
  have hyear (rest : List Char) :
      readLong 2 (padded 4 year ++ ' ' :: rest) = some (year, 4, ' ' :: rest) := by
    rw [readLong_append isDigit_of_mem_padded (by omega) (by omega), value, length]
  have zone : someBlanks (' ' :: "GMT".toList) = some "GMT".toList := by decide +kernel
  have greenwich : readZone "GMT".toList = some (0, []) := by decide +kernel
  -- field by field: what a reader finds is put in before the next one is looked at
  unfold readMail writtenText
  rw [Text.trimStart_of_isWord (isWord_shortDayName h.weekday)]
  dsimp only [Option.bind_eq_bind]
  rw [readShortDay_append h.weekday]
  show Option.bind (readNumber 1 2 (Text.trimStart _)) _ = _
  rw [trimStart_cons_space (isWord_padded 2 day), readNumber_two h.day (by decide : 1 ≤ 2)]
  dsimp only [Option.bind_some]
  rw [someBlanks_cons_space (isWord_shortMonthName h.lastMonth), Option.bind_some,
    readMonth_append h.firstMonth h.lastMonth]
  dsimp only [Option.bind_some]
  rw [someBlanks_cons_space (isWord_padded 4 year), Option.bind_some, hyear]
  dsimp only [Option.bind_some]
  rw [someBlanks_cons_space (isWord_padded 2 hour), Option.bind_some,
    readNumber_two h.hour (Nat.le_refl 2)]
  dsimp only [Option.bind_some]
  rw [colon_cons, Option.bind_some, Text.trimStart_of_isWord (isWord_padded 2 minute),
    readNumber_two h.minute (Nat.le_refl 2)]
  dsimp only [Option.bind_some]
  rw [colon_cons]
  dsimp only
  rw [readNumber_two h.second (Nat.le_refl 2)]
  dsimp only [Option.map_some, Option.bind_some]
  rw [zone, Option.bind_some, greenwich]
  rfl

/-- A sign in front of a word makes a word. -/
theorem isWord_signed {sign : Char} (signed : sign = '-' ∨ sign = '+') {w : List Char}
    (word : IsWord w) : IsWord (sign :: w) := by
  have solid : isBlank sign = false := by
    rcases signed with rfl | rfl
    · decide
    · decide
  exact ⟨List.cons_ne_nil _ _, List.forall_mem_cons.2 ⟨solid, word.2⟩⟩

/-- A year with a sign is none of the mail form. -/
theorem readMail_of_signed (h : InBounds weekday day month hour minute second) {sign : Char}
    (signed : sign = '-' ∨ sign = '+') (digits : List Char) :
    readMail (writtenText weekday day month (sign :: digits) hour minute second) = none := by
  have nothing (rest : List Char) : readLong 2 (sign :: rest) = none := by
    have notDigit : ¬sign.isDigit = true := by
      rcases signed with rfl | rfl
      · decide
      · decide
    rw [readLong, readNumber, List.length_cons, List.take_succ_cons,
      List.takeWhile_cons_of_neg notDigit]
    rfl
  have blanks (rest : List Char) : someBlanks (' ' :: sign :: rest) = some (sign :: rest) := by
    have word : IsWord [sign] := by
      rcases signed with rfl | rfl
      · decide
      · decide
    exact someBlanks_cons_space word rest
  unfold readMail writtenText
  rw [Text.trimStart_of_isWord (isWord_shortDayName h.weekday)]
  dsimp only [Option.bind_eq_bind]
  rw [readShortDay_append h.weekday]
  show Option.bind (readNumber 1 2 (Text.trimStart _)) _ = _
  rw [trimStart_cons_space (isWord_padded 2 day), readNumber_two h.day (by decide : 1 ≤ 2)]
  dsimp only [Option.bind_some]
  rw [someBlanks_cons_space (isWord_shortMonthName h.lastMonth), Option.bind_some,
    readMonth_append h.firstMonth h.lastMonth]
  dsimp only [Option.bind_some]
  rw [List.cons_append, blanks, Option.bind_some, nothing]
  rfl

/-- The fixed form reads all fields if its year reader reads the year. -/
theorem readPattern_fixedForm (h : InBounds weekday day month hour minute second)
    {year : List Char} (word : IsWord year) {value : Int}
    (hyear : ∀ rest, readYear (year ++ ' ' :: rest) = some (value, ' ' :: rest)) :
    readPattern .blank (writtenText weekday day month year hour minute second) fixedForm
      = Reading.resolve ⟨some weekday, value, month, day, hour, minute, second, 0⟩ := by
  have comma (rest : List Char) : Text.dropStart? ",".toList (',' :: rest) = some rest := rfl
  have mark (rest : List Char) : Text.dropStart? ":".toList (':' :: rest) = some rest := rfl
  have space : Text.trimStart (' ' :: "GMT".toList) = "GMT".toList := by decide +kernel
  have greenwich : Text.dropStart? "GMT".toList "GMT".toList = some [] := by decide +kernel
  unfold writtenText fixedForm clock
  simp only [List.cons_append, List.nil_append, readPattern, Field.read,
    readShortDay_append h.weekday, Option.map_some, comma,
    trimStart_cons_space (isWord_padded 2 day), readShort_append h.day,
    trimStart_cons_space (isWord_shortMonthName h.lastMonth),
    readMonth_append h.firstMonth h.lastMonth, trimStart_cons_space word, hyear,
    trimStart_cons_space (isWord_padded 2 hour), readShort_append h.hour, mark,
    readShort_append h.minute, readShort_append h.second, space, greenwich]
  rfl

/-- A year with a sign is read in the fixed form. -/
theorem readYear_of_signed {n : Nat} {ds : List Char} (digits : ∀ c ∈ ds, c.isDigit = true)
    (some : ds ≠ []) (value : natOfDigits ds = n) (small : n < signedSize) (rest : List Char) :
    readYear ('-' :: ds ++ ' ' :: rest) = .some (-(n : Int), ' ' :: rest) ∧
    readYear ('+' :: ds ++ ' ' :: rest) = .some ((n : Int), ' ' :: rest) := by
  have read : readLong 1 (ds ++ ' ' :: rest) = .some (n, ds.length, ' ' :: rest) := by
    rw [readLong_append digits (List.length_pos_iff.2 some) (by omega), value]
  constructor
  · show (readLong 1 (ds ++ ' ' :: rest)).map _ = _
    rw [read]
    rfl
  · show (readLong 1 (ds ++ ' ' :: rest)).map _ = _
    rw [read]
    rfl

/-! ## The second that is read -/

/-- The fields of a second denote it. -/
theorem resolve_ofSeconds {seconds : Int} (h : inCalendar seconds = true) :
    let m := Moment.ofSeconds seconds
    Reading.resolve ⟨some (weekdayOf m.date.toDays), m.date.year, m.date.month, m.date.day, m.hour,
      m.minute, m.second, 0⟩ = some seconds := by
  intro m
  obtain ⟨hour, minute, second⟩ := Moment.time_ofSeconds seconds
  obtain ⟨firstYear, lastYear⟩ := year_of_inCalendar h
  have dateExists : m.date.exists = true := exists_ofDays (seconds / 86400)
  have whole : (Moment.mk m.date m.hour m.minute (min m.second 59)).toSeconds = seconds := by
    rw [Nat.min_eq_left second]
    exact Moment.toSeconds_ofSeconds seconds
  have weekday : (some (weekdayOf m.date.toDays)).all (· == weekdayOf m.date.toDays) = true :=
    beq_self_eq_true _
  unfold Reading.resolve
  dsimp only
  have last : m.second ≤ 60 := Nat.le_trans second (by decide)
  rw [whole, Int.sub_zero, if_pos ⟨firstYear, lastYear, dateExists, hour, minute, last, weekday, h⟩]

end DateReader

/-! ## Writing and reading -/

open DateReader

/-- A date as it is written. -/
theorem toList_formatDate {seconds : Int} (h : inCalendar seconds = true) :
    let m := Moment.ofSeconds seconds
    (formatDate seconds).toList = writtenText (weekdayOf m.date.toDays) m.date.day m.date.month
      (yearText m.date.year) m.hour m.minute m.second := by
  intro m
  have gmt : " GMT".toList = ' ' :: "GMT".toList := by decide
  unfold formatDate
  rw [if_pos h, String.toList_ofList, gmt]
  unfold writtenText Moment.clockText
  simp only [List.append_assoc, List.cons_append, List.nil_append]
  rfl

/-- A written date is words with a space between any two of them. -/
theorem singleSpaced_writtenText {weekday day month hour minute second : Nat}
    (h : InBounds weekday day month hour minute second) {year : List Char} (word : Text.IsWord year) :
    Text.singleSpaced (writtenText weekday day month year hour minute second)
      = writtenText weekday day month year hour minute second := by
  have joined : writtenText weekday day month year hour minute second
      = [' '].intercalate [shortDayName weekday ++ [','], padded 2 day, shortMonthName month, year,
          padded 2 hour ++ ':' :: (padded 2 minute ++ ':' :: padded 2 second), "GMT".toList] := by
    unfold writtenText
    simp only [List.intercalate_cons_cons, List.intercalate_singleton, List.append_assoc,
      List.cons_append, List.nil_append]
  have comma : Text.IsWord [','] := by decide
  have greenwich : Text.IsWord "GMT".toList := by decide
  rw [joined]
  apply Text.singleSpaced_intercalate
  simp only [List.forall_mem_cons]
  exact ⟨(isWord_shortDayName h.weekday).append comma, isWord_padded 2 day,
    isWord_shortMonthName h.lastMonth, word, isWord_clock hour minute second, greenwich,
    List.forall_mem_nil _⟩

theorem inBounds_ofSeconds (seconds : Int) :
    let m := Moment.ofSeconds seconds
    InBounds (weekdayOf m.date.toDays) m.date.day m.date.month m.hour m.minute m.second := by
  intro m
  obtain ⟨hour, minute, second⟩ := Moment.time_ofSeconds seconds
  obtain ⟨firstMonth, lastMonth, -, lastDay⟩ := bounds_of_exists (exists_ofDays (seconds / 86400))
  have weekday : weekdayOf m.date.toDays < 7 := by
    unfold weekdayOf
    omega
  have day : m.date.day < 100 := Nat.lt_of_le_of_lt lastDay (by decide)
  exact ⟨weekday, day, firstMonth, lastMonth, Nat.lt_of_le_of_lt hour (by decide),
    Nat.lt_of_le_of_lt minute (by decide), Nat.lt_of_le_of_lt second (by decide)⟩

/-- The mail form goes first. -/
theorem parseDate_of_mail {value : String} {text : List Char} {seconds : Int}
    (chars : value.toList = text) (spaced : Text.singleSpaced text = text)
    (read : readMail text = some seconds) : parseDate value = some seconds := by
  unfold parseDate
  dsimp only
  rw [chars, spaced, read]

/-- The fixed form is the next. -/
theorem parseDate_of_fixed {value : String} {text : List Char} {seconds : Int}
    (chars : value.toList = text) (spaced : Text.singleSpaced text = text)
    (mail : readMail text = none) (read : readPattern .blank text fixedForm = some seconds) :
    parseDate value = some seconds := by
  unfold parseDate
  dsimp only
  rw [chars, spaced, mail, List.findSome?_cons, read]

/-- A date that was written is read as the second it was written for. -/
theorem parseDate_formatDate {seconds : Int} (h : inCalendar seconds = true) :
    parseDate (formatDate seconds) = some seconds := by
  have bounds := inBounds_ofSeconds seconds
  have resolved := resolve_ofSeconds h
  have text := toList_formatDate h
  obtain ⟨first, last⟩ := year_of_inCalendar h
  unfold firstYear at first
  unfold lastYear at last
  generalize Moment.ofSeconds seconds = m at bounds resolved text first last
  dsimp only at bounds resolved text
  generalize m.date.year = year at resolved text first last
  have signs : year < 0 ∨ (0 ≤ year ∧ year ≤ 9999) ∨ 9999 < year := by omega
  rcases signs with negative | ⟨positive, four⟩ | large
  · have hyear : yearText year = '-' :: padded 4 (-year).toNat := if_pos negative
    have word := isWord_signed (.inl rfl : '-' = '-' ∨ '-' = '+') (isWord_padded 4 (-year).toNat)
    have read (rest : List Char) := (readYear_of_signed isDigit_of_mem_padded (padded_ne_nil _ _)
      (natOfDigits_padded 4 (-year).toNat) (by unfold signedSize; omega) rest).1
    have value : -((-year).toNat : Int) = year := by omega
    have fixed := readPattern_fixedForm bounds word read
    rw [value, resolved] at fixed
    rw [hyear] at text
    exact parseDate_of_fixed text (singleSpaced_writtenText bounds word)
      (readMail_of_signed bounds (.inl rfl) _) fixed
  · have hyear : yearText year = padded 4 year.toNat := by
      rw [yearText, if_neg (by omega), if_pos four]
    have value : (year.toNat : Int) = year := by omega
    have mail := readMail_writtenText bounds year.toNat (by omega)
    rw [value, resolved] at mail
    rw [hyear] at text
    exact parseDate_of_mail text (singleSpaced_writtenText bounds (isWord_padded 4 _)) mail
  · have hyear : yearText year = '+' :: Nat.toDigits 10 year.toNat := by
      rw [yearText, if_neg (by omega), if_neg (by omega)]
    have digits := isWord_of_digits (Nat.toDigits_ne_nil (n := year.toNat) (b := 10)) isDigit_of_mem_toDigits
    have word := isWord_signed (.inr rfl : '+' = '-' ∨ '+' = '+') digits
    have read (rest : List Char) := (readYear_of_signed isDigit_of_mem_toDigits digits.1
      (natOfDigits_toDigits year.toNat) (by unfold signedSize; omega) rest).2
    have value : (year.toNat : Int) = year := by omega
    have fixed := readPattern_fixedForm bounds word read
    rw [value, resolved] at fixed
    rw [hyear] at text
    exact parseDate_of_fixed text (singleSpaced_writtenText bounds word)
      (readMail_of_signed bounds (.inr rfl) _) fixed

example : parseDate "Sun, 06 Nov 1994 08:49:37 GMT" = some 784111777 := by decide +kernel

/-! ## Plain text -/

theorem plain_of_digits {ds : List Char} (digits : ∀ c ∈ ds, c.isDigit = true) :
    ∀ c ∈ ds, Text.isPlainChar c = true :=
  fun c hc => Text.isPlainChar_of_isDigit (digits c hc)

theorem plain_yearText (year : Int) : ∀ c ∈ yearText year, Text.isPlainChar c = true := by
  unfold yearText
  split
  · exact List.forall_mem_cons.2 ⟨by decide, plain_of_digits isDigit_of_mem_padded⟩
  · split
    · exact plain_of_digits isDigit_of_mem_padded
    · exact List.forall_mem_cons.2 ⟨by decide, plain_of_digits isDigit_of_mem_toDigits⟩

/-- A date is printable ASCII. -/
theorem isPlain_formatDate (seconds : Int) : Text.isPlain (formatDate seconds) = true := by
  let inside : Int := if inCalendar seconds then seconds else 0
  have hinside : inCalendar inside = true := by
    unfold inside
    split
    · assumption
    · decide
  have same : formatDate seconds = formatDate inside := by
    show formatDate seconds = _
    unfold formatDate
    rw [if_pos hinside]
  have bounds := inBounds_ofSeconds inside
  have days : ∀ w ∈ List.range 7, (shortDayName w).all Text.isPlainChar = true := by decide +kernel
  have months : ∀ m ∈ List.range 13, (shortMonthName m).all Text.isPlainChar = true := by
    decide +kernel
  have digits (n : Nat) : ∀ c ∈ padded 2 n, Text.isPlainChar c = true :=
    plain_of_digits isDigit_of_mem_padded
  have greenwich : ∀ c ∈ "GMT".toList, Text.isPlainChar c = true :=
    List.all_eq_true.1 (by decide)
  have mark : Text.isPlainChar ',' = true ∧ Text.isPlainChar ' ' = true ∧
    Text.isPlainChar ':' = true := by decide
  rw [same, Text.isPlain, List.all_eq_true, toList_formatDate hinside]
  unfold writtenText
  simp only [List.forall_mem_append, List.forall_mem_cons]
  have day := List.all_eq_true.1 (days _ (List.mem_range.2 bounds.weekday))
  have month := List.all_eq_true.1 (months _ (List.mem_range.2 (Nat.lt_succ_of_le bounds.lastMonth)))
  exact ⟨day, mark.1, mark.2.1, digits _, mark.2.1, month, mark.2.1, plain_yearText _,
    mark.2.1, digits _, mark.2.2, digits _, mark.2.2, digits _, mark.2.1, greenwich⟩

end StaticSite.Http
