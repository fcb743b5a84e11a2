/-
  JSON5 NUMBERS: whole numbers of 64 bits with a sign, doubles, infinity and what is no number.

  A number with a point or an exponent is a double, any other decimal number is whole.  A number
  to base 16 has 32 bits and no sign.  Numbers beyond their range are refused, and the names of
  infinity and of what is no number take a minus sign only.
-/
import StaticSite.Config.Json.Numbers
import StaticSite.Text.Split

namespace StaticSite.Config.Json5

/-- The sign in front of a number. -/
inductive Sign
  | none
  | plus
  | minus
deriving DecidableEq, Repr

/-- A sign in front, if there is one, and the rest. -/
def readSign : List Char → Sign × List Char
  | '+' :: rest => (.plus, rest)
  | '-' :: rest => (.minus, rest)
  | rest => (.none, rest)

/-- The value of a whole decimal number, if it has 64 bits with its sign. -/
def wholeValue? (sign : Sign) (digits : List Char) : Option Value :=
  let n : Int := natOfDigits digits
  let n := if sign = .minus then -n else n
  if isSigned64 n then some (.int n) else none

/-- The value of a decimal number with a point or an exponent, if there is such a double. -/
def doubleValue? (sign : Sign) (digits : List Char) (power : Int) : Option Value :=
  let x := floatOfDecimal (natOfDigits digits) power
  if x.isInf then none else some (.float (if sign = .minus then -x else x))

/-- A decimal number behind its sign; digits may be missing on one side of its point. -/
def readDecimal (sign : Sign) (s : List Char) : Option (Value × List Char) :=
  let (whole, rest) := match s with
    | '0' :: rest => (['0'], rest)
    | s => Json.digitRun s
  let (places, rest) := match rest with
    | '.' :: rest =>
      let (ds, rest) := Json.digitRun rest
      (some ds, rest)
    | rest => (none, rest)
  let digits := whole ++ places.getD []
  if digits.isEmpty then none
  else match places, Json.readExponent rest with
    | _, none => none
    | none, some (none, rest) => (wholeValue? sign digits).map fun v => (v, rest)
    | places, some (power, rest) =>
      (doubleValue? sign digits (power.getD 0 - (places.getD []).length)).map fun v => (v, rest)

/-- A number to base 16 behind its mark. -/
def readHex (sign : Sign) (s : List Char) : Option (Value × List Char) :=
  match s.span (Text.isDigit 16) with
  | ([], _) => none
  | (ds, rest) =>
    let n := Text.valueOf 16 ds
    if sign = .none ∧ n < UInt32.size then some (.int n, rest) else none

/-- The double that a name in front of a text stands for, behind a sign. -/
def readNamed (sign : Sign) (s : List Char) : Option (Value × List Char) :=
  if sign = .plus then none
  else match Text.dropStart? "Infinity".toList s with
    | some rest => some (.float (if sign = .minus then -(1.0 / 0.0) else 1.0 / 0.0), rest)
    | none => (Text.dropStart? "NaN".toList s).map fun rest => (.float (0.0 / 0.0), rest)

/-- Reads a number. -/
def readNumber (s : List Char) : Option (Value × List Char) :=
  match readSign s with
  | (sign, '0' :: 'x' :: rest) => readHex sign rest
  | (sign, '0' :: 'X' :: rest) => readHex sign rest
  | (sign, rest) =>
    match rest with
    | c :: _ => if c == '.' || c.isDigit then readDecimal sign rest else readNamed sign rest
    | [] => none

end StaticSite.Config.Json5
