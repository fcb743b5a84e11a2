/-
  NUMBERS IN TEXT: texts that denote a number as a whole.

  Variables of the environment, and formats in which a value stands without quotes, decide by the
  text itself whether it is a number.  A whole number is a run of digits with a sign or without; a
  double may have a point, an exponent, or a name.

  Numbered structure:
    §1  whole numbers
    §2  doubles
-/
import StaticSite.Decimal

namespace StaticSite.Config

/-- A sign in front, if there is one: whether it is a minus, and the rest. -/
def cutSign : List Char → Bool × List Char
  | '-' :: rest => (true, rest)
  | '+' :: rest => (false, rest)
  | rest => (false, rest)

/-! ## §1 Whole numbers -/

/-- A run of digits with a sign in front. -/
def wholeNumber? (s : String) : Option Int :=
  let (negative, ds) := cutSign s.toList
  if ds.isEmpty || !ds.all Char.isDigit then none
  else some (if negative then -(natOfDigits ds : Int) else natOfDigits ds)

/-! ## §2 Doubles -/

/-- The digits of a decimal number, `places` of them behind the point, and the rest. -/
def readMantissa (s : List Char) : Option (Nat × Nat × List Char) :=
  let (whole, rest) := s.span Char.isDigit
  let (places, rest) := match rest with
    | '.' :: rest => rest.span Char.isDigit
    | rest => ([], rest)
  if whole.isEmpty && places.isEmpty then none
  else some (natOfDigits (whole ++ places), places.length, rest)

/-- The double that a text denotes: a decimal number with or without a point and an exponent, or
    a name of infinity or of what is no number. -/
def floatOfText? (text : String) : Option Float :=
  let (negative, s) := cutSign text.toList
  let signed (x : Float) : Float := if negative then -x else x
  match (s.map Char.toLower) with
  | ['i', 'n', 'f'] | ['i', 'n', 'f', 'i', 'n', 'i', 't', 'y'] => some (signed (1.0 / 0.0))
  | ['n', 'a', 'n'] => some (0.0 / 0.0)
  | s =>
    match readMantissa s with
    | none => none
    | some (n, places, []) => some (signed (floatOfDecimal n (-places)))
    | some (n, places, 'e' :: power) =>
      (wholeNumber? (String.ofList power)).map fun power =>
        signed (floatOfDecimal n (power - places))
    | some _ => none

example : wholeNumber? "-007" = some (-7) ∧ wholeNumber? "+" = none := by decide +kernel

end StaticSite.Config
