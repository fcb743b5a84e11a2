/-
  JSON NUMBERS: whole numbers of 64 bits, and doubles for all others.

  A number without fraction and exponent stays whole if it fits 64 bits.  Of any other number the
  first digits are kept, as many of them as fit 64 bits together, and the power of ten that they
  are to be multiplied by; further digits count for their places only.  Then

      double = round (round (digits) × 10^power)     or     round (round (digits) ÷ 10^-power)

  so the double is the nearest one to the number only if nothing was rounded before the last step:
  for digits below 2^53 and powers from 10^-22 to 10^22.  A number beyond the doubles is refused.
-/
import StaticSite.Config.Value
import StaticSite.Decimal
import StaticSite.Text.Digit
import StaticSite.Word

namespace StaticSite.Config.Json

/-! ## Parts of a number -/

/-- Splits the decimal digits off the front. -/
def digitRun (s : List Char) : List Char × List Char := s.span Char.isDigit

/-- Whether a run of digits is a whole part: not empty, and without a needless zero in front. -/
def isWhole : List Char → Bool
  | [] => false
  | ['0'] => true
  | '0' :: _ => false
  | _ => true

/-- Reads an exponent if there is one: the power of ten, or a refusal if digits are missing. -/
def readExponent : List Char → Option (Option Int × List Char)
  | c :: rest =>
    if c == 'e' || c == 'E' then
      let (negative, rest) := match rest with
        | '-' :: r => (true, r)
        | '+' :: r => (false, r)
        | r => (false, r)
      match digitRun rest with
      | ([], _) => none
      | (ds, after) =>
        let n : Int := natOfDigits ds
        some (some (if negative then -n else n), after)
    else some (none, c :: rest)
  | [] => some (none, [])

/-- Reads a fraction if there is one: its digits, or a refusal if they are missing. -/
def readFraction : List Char → Option (Option (List Char) × List Char)
  | '.' :: rest =>
    match digitRun rest with
    | ([], _) => none
    | (ds, after) => some (some ds, after)
  | rest => some (none, rest)

/-! ## Doubles -/

/-- Appends digits to a number as long as it stays below 2^64: the number, and the digits that are
    left over. -/
def keepDigits (kept : UInt64) : List Char → UInt64 × List Char
  | [] => (kept, [])
  | c :: rest =>
    let n := kept.toNat * 10 + (Text.digit? 10 c).getD 0
    if n < UInt64.size then keepDigits (UInt64.ofNat n) rest else (kept, c :: rest)

example : keepDigits 0 ['1', '8', '4', '4', '6', '7', '4', '4', '0', '7', '3', '7', '0', '9', '5',
    '5', '1', '6', '1', '6'] = (1844674407370955161, ['6']) := by decide +kernel

/-- The greatest power of ten that is a double. -/
def greatestPower : Nat := 308

/-- A power of ten, as a double. -/
def powerOfTen (n : Nat) : Float := Float.ofScientific 1 false n

/-- A double divided by a power of ten.  A power that is no double itself is taken in two steps;
    after two of the greatest nothing is left of 64 bits. -/
def overPowerOfTen (x : Float) (n : Nat) : Float :=
  if n ≤ greatestPower then x / powerOfTen n
  else if n ≤ 2 * greatestPower then x / powerOfTen greatestPower / powerOfTen (n - greatestPower)
  else 0

/-- The double for digits and a power of ten, if there is one. -/
def doubleOf? (digits : UInt64) (power : Int) : Option Float :=
  if power < 0 then some (overPowerOfTen digits.toFloat power.natAbs)
  else if digits = 0 then some 0
  else if greatestPower < power.natAbs then none
  else
    let x := digits.toFloat * powerOfTen power.natAbs
    if x.isInf then none else some x

/-- The double for the parts of a number. -/
def doubleOfParts? (whole places : List Char) (power : Int) : Option Float :=
  let (kept, dropped) := keepDigits 0 whole
  let (kept, ignored) := keepDigits kept places
  doubleOf? kept (dropped.length - (places.length - ignored.length : Nat) + power)

/-- The value of a number with its parts. -/
def numberValue? (negative : Bool) (whole : List Char) (fraction : Option (List Char))
    (power : Option Int) : Option Value :=
  let asDouble := (doubleOfParts? whole (fraction.getD []) (power.getD 0)).map fun x =>
    .float (if negative then -x else x)
  let n := natOfDigits whole
  match fraction, power with
  | none, none =>
    if negative then if 0 < n ∧ n ≤ signedSize then some (.int (-(n : Int))) else asDouble
    else if n < UInt64.size then some (.int n)
    else asDouble
  | _, _ => asDouble

/-- Reads a number. -/
def readNumber (s : List Char) : Option (Value × List Char) :=
  let (negative, s) := match s with
    | '-' :: r => (true, r)
    | r => (false, r)
  let (whole, rest) := digitRun s
  if !isWhole whole then none
  else match readFraction rest with
    | none => none
    | some (fraction, rest) =>
      match readExponent rest with
      | none => none
      | some (power, rest) => (numberValue? negative whole fraction power).map fun v => (v, rest)

end StaticSite.Config.Json
