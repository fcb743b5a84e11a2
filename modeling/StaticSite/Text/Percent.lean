/-
  PERCENT ESCAPES: bytes of a URI written as `%` and two hexadecimal digits.

  `percentDecode` undoes the escapes of a byte string; a `%` without two digits after it stands
  for itself.  `percentEncode` writes all but a set of characters that need no escape.
-/
import StaticSite.Text.Utf8

namespace StaticSite.Text

/-- The value of a hexadecimal digit, in either case. -/
def hexValue? (b : UInt8) : Option UInt8 :=
  if 0x30 ≤ b && b ≤ 0x39 then some (b - 0x30)
  else if 0x41 ≤ b && b ≤ 0x46 then some (b - 0x41 + 10)
  else if 0x61 ≤ b && b ≤ 0x66 then some (b - 0x61 + 10)
  else none

/-- The byte `%`. -/
def percentSign : UInt8 := 0x25

/-- Undoes the percent escapes; a malformed one is left as it is. -/
def percentDecode : Bytes → Bytes
  | b :: x :: y :: rest =>
    if b == percentSign then
      match hexValue? x, hexValue? y with
      | some hi, some lo => (hi * 16 + lo) :: percentDecode rest
      | _, _ => b :: percentDecode (x :: y :: rest)
    else b :: percentDecode (x :: y :: rest)
  | b :: rest => b :: percentDecode rest
  | [] => []

/-- A hexadecimal digit in upper case, for `n < 16`. -/
def upperHexDigit (n : Nat) : Char := if n < 10 then Char.ofNat (48 + n) else Char.ofNat (55 + n)

/-- A byte as `%` and two digits. -/
def escapedByte (b : UInt8) : List Char :=
  ['%', upperHexDigit (b.toNat / 16), upperHexDigit (b.toNat % 16)]

/-- Writes the characters that satisfy `plain` as they are and the bytes of all others as escapes. -/
def percentEncode (plain : Char → Bool) (s : List Char) : List Char :=
  s.flatMap fun c => if plain c then [c] else (String.utf8EncodeChar c).flatMap escapedByte

end StaticSite.Text
