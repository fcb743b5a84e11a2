/-
  RON NUMBERS: whole numbers of 64 bits, and doubles.

  A whole number may have a mark of its base, 16, 8 or 2, and underscores behind its first digit.
  One that has no 64 bits (with its sign, if there is one) is read as a double instead, and so is
  a run of characters that is no whole number.  A double has no underscores.

  Which of the two a text is to be is told by two runs of characters behind its sign: one of all
  that stands in doubles, one of all that stands in whole numbers.  The longer run decides.
-/
import StaticSite.Config.NumberText
import StaticSite.Config.Ron.Lexemes
import StaticSite.Word

namespace StaticSite.Config.Ron

/-- The characters that stand in whole numbers. -/
def isWholePart (c : Char) : Bool := Text.isDigit 16 c || c == '_'

/-- The characters that stand in doubles. -/
def isDoublePart (c : Char) : Bool :=
  c.isDigit || c == 'e' || c == 'E' || c == '.' || c == '+' || c == '-' || c == '_'

/-- The base that a number is written to, and what follows the mark of it. -/
def readBase : List Char → Nat × List Char
  | '0' :: 'x' :: rest => (16, rest)
  | '0' :: 'o' :: rest => (8, rest)
  | '0' :: 'b' :: rest => (2, rest)
  | rest => (10, rest)

/-- Reads digits and underscores, which do not begin with an underscore. -/
def readDigits (s : List Char) : Option (Nat × List Char) :=
  let (base, s) := readBase s
  let (run, rest) := s.span isWholePart
  let ds := run.filter (· != '_')
  if run.head?.all (· == '_') || !ds.all (Text.isDigit base) then none
  else some (Text.valueOf base ds, rest)

/-- A whole number, if it has 64 bits; one that has no room for its sign is a double. -/
def wholeValue? (hasSign negative : Bool) (n : Nat) : Option Value :=
  let value : Int := if negative then -(n : Int) else n
  if isSigned64 value then some (.int value)
  else if !hasSign && n < UInt64.size then some (.float (floatOfDecimal n 0))
  else none

/-- Reads a double: a name of infinity or of what is no number, or a decimal number. -/
def readDouble (s : List Char) : Option (Value × List Char) :=
  let (negative, rest) := cutSign s
  match dropWord? "inf".toList rest, dropWord? "NaN".toList rest with
  | some rest, _ => some (.float (if negative then -(1.0 / 0.0) else 1.0 / 0.0), rest)
  | _, some rest => some (.float (0.0 / 0.0), rest)
  | none, none =>
    let (run, rest) := s.span isDoublePart
    if run.contains '_' then none
    else (floatOfText? (String.ofList run)).map fun x => (.float x, rest)

/-- Reads a number. -/
def readNumber (s : List Char) : Option (Value × List Char) :=
  let (negative, behind) := cutSign s
  let hasSign := behind.length < s.length
  let wholeRun := behind.takeWhile isWholePart
  let doubleRun := behind.takeWhile isDoublePart
  if wholeRun.length < doubleRun.length then readDouble s
  else
    let whole := do
      let (n, rest) ← readDigits behind
      return ((← wholeValue? hasSign negative n), rest)
    match whole with
    | some found => some found
    | none => readDouble s

end StaticSite.Config.Ron
