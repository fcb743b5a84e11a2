/-
  DECIMALS: binary floating-point numbers as decimal text, and back.

  A configuration may hold numbers with a fraction.  They are double-precision numbers; the text
  of one is made of the FEWEST DIGITS THAT READ BACK as the same number, the nearest such digits
  if there are several.

  The derivation: a finite double is `m · 2^q`, and the reals that round to it form an interval
  around it.  On the grid of decimals with `n` digits only the two neighbours of the number can be
  the nearest points in the interval; so `n = 1, 2, …, 17` are tried in turn, in exact integer
  arithmetic, and the first grid with a point in the interval gives the digits.

  Numbered structure:
    §1  `Dyadic`: the number and its rounding interval as integers
    §2  `shortestDigits`
    §3  the two written forms: `positional` and `scientific`
    §4  reading digits and an exponent
-/

namespace StaticSite

/-! ## §1 The number as `m · 2^q` -/

/-- A positive double: its value is `mantissa · 2^exponent`; `lowerNear` says that the next double
    below is only half as far away as the one above. -/
structure Dyadic where
  mantissa : Nat
  exponent : Int
  lowerNear : Bool

/-- The number of fractions that the last 52 bits of a double can hold. -/
def fractionSize : Nat := 0x10000000000000

/-- The magnitude of a finite double, from its bits. -/
def Dyadic.ofBits (bits : UInt64) : Dyadic :=
  let fraction : Nat := bits.toNat % fractionSize
  let biased : Nat := bits.toNat / fractionSize % 2048
  if biased = 0 then ⟨fraction, -1074, false⟩
  else ⟨fraction + fractionSize, Int.ofNat biased - 1075, fraction = 0 && biased ≠ 1⟩

/-- A positive rational number. -/
structure Fraction where
  num : Nat
  den : Nat

/-- `n · 2^e` as a fraction. -/
def Fraction.scaled (n : Nat) (base : Nat) (e : Int) : Fraction :=
  if 0 ≤ e then ⟨n * Nat.pow base e.toNat, 1⟩ else ⟨n, Nat.pow base (-e).toNat⟩

def Fraction.le (a b : Fraction) : Bool := a.num * b.den ≤ b.num * a.den

def Fraction.lt (a b : Fraction) : Bool := a.num * b.den < b.num * a.den

/-- The value of the double. -/
def Dyadic.value (d : Dyadic) : Fraction := .scaled (4 * d.mantissa) 2 (d.exponent - 2)

/-- Whether a real number rounds to the double: it lies between the midpoints to both neighbours,
    the midpoints themselves counting when the mantissa is even. -/
def Dyadic.admits (d : Dyadic) (x : Fraction) : Bool :=
  let low := Fraction.scaled (4 * d.mantissa - (if d.lowerNear then 1 else 2)) 2 (d.exponent - 2)
  let high := Fraction.scaled (4 * d.mantissa + 2) 2 (d.exponent - 2)
  if d.mantissa % 2 = 0 then low.le x && x.le high else low.lt x && x.lt high

/-! ## §2 The fewest digits -/

/-- The number of decimal digits of `n`. -/
def digitCount (n : Nat) : Nat := (Nat.toDigits 10 n).length

/-- The power of ten of the leading digit of `x`. -/
def Fraction.magnitude (x : Fraction) : Int :=
  let guess : Int := (digitCount x.num : Int) - digitCount x.den
  if (Fraction.scaled 1 10 guess).le x then guess else guess - 1

/-- Digits and the power of ten of the last of them. -/
structure Digits where
  digits : Nat
  exponent : Int

/-- The value of the digits. -/
def Digits.value (d : Digits) : Fraction := .scaled d.digits 10 d.exponent

/-- The point with `n` digits nearest to the double, if one of its neighbours there rounds to it. -/
def nearestWithDigits? (d : Dyadic) (n : Nat) : Option Digits :=
  let v := d.value
  let e := v.magnitude - (n - 1 : Nat)
  let unit := Fraction.scaled 1 10 e
  let below := v.num * unit.den / (v.den * unit.num)
  let low : Digits := ⟨below, e⟩
  let high : Digits := ⟨below + 1, e⟩
  match d.admits low.value, d.admits high.value with
  | true, false => some low
  | false, true => some high
  | false, false => none
  | true, true =>
    -- twice the value, in units of the grid, against the midpoint `2 · below + 1`
    let twice := 2 * v.num * unit.den
    let middle := (2 * below + 1) * (v.den * unit.num)
    if twice < middle then some low
    else if middle < twice then some high
    else if below % 2 = 0 then some low else some high

/-- Digits without zeros at the end; `fuel` bounds their number. -/
def Digits.trimmed : Nat → Digits → Digits
  | 0, d => d
  | fuel + 1, d =>
    if d.digits ≠ 0 ∧ d.digits % 10 = 0 then Digits.trimmed fuel ⟨d.digits / 10, d.exponent + 1⟩ else d

/-- The fewest digits that read back as the double; seventeen always do. -/
def shortestDigits (d : Dyadic) : Digits :=
  match (List.range 17).findSome? fun n => nearestWithDigits? d (n + 1) with
  | some found => Digits.trimmed 20 found
  | none => ⟨0, 0⟩

/-! ## §3 Written forms -/

/-- The sign of a double as it is written. -/
def signText (x : Float) : String := if x.toBits ≥ 0x8000000000000000 then "-" else ""

/-- Digits with a point `places` before their end, or zeros after it; no exponent. -/
def Digits.plain (d : Digits) : List Char :=
  let ds := Nat.toDigits 10 d.digits
  if 0 ≤ d.exponent then ds ++ List.replicate d.exponent.toNat '0'
  else
    let places := (-d.exponent).toNat
    if places < ds.length then ds.take (ds.length - places) ++ '.' :: ds.drop (ds.length - places)
    else '0' :: '.' :: List.replicate (places - ds.length) '0' ++ ds

/-- A double without an exponent, and without a point if it is whole. -/
def positional (x : Float) : String :=
  if x.isNaN then "NaN"
  else if x.isInf then signText x ++ "inf"
  else signText x ++ String.ofList
    (if x == 0 then ['0'] else (shortestDigits (Dyadic.ofBits x.toBits)).plain)

/-- A finite double with a point or an exponent: plain for leading digits from 10⁻⁵ to 10¹⁵, with
    `e` and the power of ten of the leading digit, always with its sign, outside. -/
def scientific (x : Float) : String :=
  if x == 0 then signText x ++ "0.0"
  else
    let d := shortestDigits (Dyadic.ofBits x.toBits)
    let ds := Nat.toDigits 10 d.digits
    let lead := d.exponent + ds.length - 1
    signText x ++ String.ofList
      (if -5 ≤ lead ∧ lead ≤ 15 then
        if 0 ≤ d.exponent then d.plain ++ ['.', '0'] else d.plain
      else
        let tail := ds.drop 1
        ds.take 1 ++ (if tail.isEmpty then [] else '.' :: tail)
          ++ 'e' :: (if lead < 0 then '-' else '+') :: Nat.toDigits 10 lead.natAbs)

/-! ## §4 Reading -/

/-- The value of a list of decimal digits. -/
def natOfDigits (ds : List Char) : Nat := ds.foldl (fun n c => n * 10 + (c.toNat - 48)) 0

/-- The double nearest to `digits · 10^exponent`; powers far out of range are cut off before they
    are computed. -/
def floatOfDecimal (digits : Nat) (exponent : Int) : Float :=
  if digits = 0 then 0
  else
    let lead := exponent + digitCount digits
    if lead > 400 then 1.0 / 0.0
    else if lead < -400 then 0
    else if 0 ≤ exponent then Float.ofScientific digits false exponent.toNat
    else Float.ofScientific digits true (-exponent).toNat

end StaticSite
