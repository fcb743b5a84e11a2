/-
  DIGITS: characters as digits to some base.

  Letters go on from ten, in both cases, so bases up to thirty-six have digits.
-/

namespace StaticSite.Text

/-- The value of a character as a digit to a base. -/
def digit? (base : Nat) (c : Char) : Option Nat :=
  let n :=
    if '0' ≤ c ∧ c ≤ '9' then some (c.toNat - 48)
    else if 'a' ≤ c ∧ c ≤ 'z' then some (c.toNat - 87)
    else if 'A' ≤ c ∧ c ≤ 'Z' then some (c.toNat - 55)
    else none
  n.filter (· < base)

/-- Whether a character is a digit to a base. -/
def isDigit (base : Nat) (c : Char) : Bool := (digit? base c).isSome

/-- The value of a run of digits; what is no digit counts as zero. -/
def valueOf (base : Nat) (ds : List Char) : Nat :=
  ds.foldl (fun n c => n * base + (digit? base c).getD 0) 0

example : valueOf 16 ['f', 'F'] = 255 := by decide
example : digit? 8 '8' = none := by decide

end StaticSite.Text
