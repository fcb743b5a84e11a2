/-
  TOML NUMBERS: whole numbers, numbers with a fraction or an exponent, infinities.

  Digits may be grouped by single underscores between them.  A whole number has 64 bits with a
  sign; without a sign it may also be written to base 16, 8 or 2.  Decimal numbers have no zeros
  in front, but their fractions and exponents may.
-/
import StaticSite.Config.Value
import StaticSite.Decimal
import StaticSite.Text.Digit
import StaticSite.Text.Split
import StaticSite.Word

namespace StaticSite.Config.Toml

/-- The digits that follow a digit, and the rest; nothing if an underscore is not followed by one. -/
def moreDigits (base : Nat) : List Char → Option (List Char × List Char)
  | '_' :: c :: rest =>
    if Text.isDigit base c then (moreDigits base rest).map fun p => (c :: p.1, p.2) else none
  | ['_'] => none
  | c :: rest =>
    if Text.isDigit base c then (moreDigits base rest).map fun p => (c :: p.1, p.2)
    else some ([], c :: rest)
  | [] => some ([], [])

/-- One digit or more, and the rest. -/
def readDigits (base : Nat) : List Char → Option (List Char × List Char)
  | c :: rest =>
    if Text.isDigit base c then (moreDigits base rest).map fun p => (c :: p.1, p.2) else none
  | [] => none

/-- The digits of a decimal whole number: a zero alone, or digits that do not begin with one. -/
def readWhole : List Char → Option (List Char × List Char)
  | '0' :: rest => some (['0'], rest)
  | s => readDigits 10 s

/-- A sign in front, if there is one: whether it is a minus, and the rest. -/
def readSign : List Char → Bool × List Char
  | '-' :: rest => (true, rest)
  | '+' :: rest => (false, rest)
  | rest => (false, rest)

/-- A fraction behind its point, if there is one; nothing if its digits are missing. -/
def readFraction : List Char → Option (Option (List Char) × List Char)
  | '.' :: rest => (readDigits 10 rest).map fun p => (some p.1, p.2)
  | rest => some (none, rest)

/-- An exponent, if there is one; nothing if its digits are missing. -/
def readExponent : List Char → Option (Option Int × List Char)
  | c :: rest =>
    if c == 'e' || c == 'E' then
      let (negative, rest) := readSign rest
      (readDigits 10 rest).map fun p =>
        let n : Int := natOfDigits p.1
        (some (if negative then -n else n), p.2)
    else some (none, c :: rest)
  | [] => some (none, [])

/-- A whole number, if it has 64 bits with its sign. -/
def wholeValue? (negative : Bool) (n : Nat) : Option Value :=
  let value : Int := if negative then -(n : Int) else n
  if isSigned64 value then some (.int value) else none

/-- A double; one too great for its range is refused, one too small is minus infinity. -/
def floatValue? (negative : Bool) (digits : Nat) (exponent : Int) : Option Value :=
  let x := floatOfDecimal digits exponent
  if negative then some (.float (-x)) else if x.isInf then none else some (.float x)

/-- A decimal number behind its sign. -/
def readDecimal (negative : Bool) (s : List Char) : Option (Value × List Char) :=
  match readWhole s with
  | none => none
  | some (whole, rest) =>
    match readFraction rest with
    | none => none
    | some (fraction, rest) =>
      match readExponent rest with
      | none => none
      | some (none, rest) =>
        match fraction with
        | none => (wholeValue? negative (natOfDigits whole)).map fun v => (v, rest)
        | some places =>
          (floatValue? negative (natOfDigits (whole ++ places)) (-places.length)).map fun v =>
            (v, rest)
      | some (some power, rest) =>
        let places := fraction.getD []
        (floatValue? negative (natOfDigits (whole ++ places)) (power - places.length)).map fun v =>
          (v, rest)

/-- The names of infinity and of what is no number, behind a sign. -/
def readNamedFloat? (negative : Bool) : List Char → Option (Value × List Char)
  | 'i' :: 'n' :: 'f' :: rest => some (.float (if negative then -(1.0 / 0.0) else 1.0 / 0.0), rest)
  | 'n' :: 'a' :: 'n' :: rest => some (.float (0.0 / 0.0), rest)
  | _ => none

/-- A whole number to a base, behind the mark of the base. -/
def readBased (base : Nat) (s : List Char) : Option (Value × List Char) :=
  match readDigits base s with
  | some (ds, rest) => (wholeValue? false (Text.valueOf base ds)).map fun v => (v, rest)
  | none => none

/-- Reads a number. -/
def readNumber : List Char → Option (Value × List Char)
  | '0' :: 'x' :: rest => readBased 16 rest
  | '0' :: 'o' :: rest => readBased 8 rest
  | '0' :: 'b' :: rest => readBased 2 rest
  | s =>
    let (negative, rest) := readSign s
    match readNamedFloat? negative rest with
    | some found => some found
    | none => readDecimal negative rest

end StaticSite.Config.Toml
