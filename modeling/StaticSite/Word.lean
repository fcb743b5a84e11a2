/-
  WORDS: the ranges of whole numbers of 64 bits.

  Without a sign they lie below `UInt64.size`; with a sign they lie from `-signedSize` on and below
  `signedSize`.

  A sum or a difference that is worked out and is no word is an `Overflow`: there is no answer then,
  and whatever needed the number comes to its end.
-/

namespace StaticSite

/-- The number of whole numbers of 64 bits that are not negative, when one bit is the sign. -/
def signedSize : Nat := 0x8000000000000000

/-- Whether a number is one of 64 bits with a sign. -/
def isSigned64 (n : Int) : Bool := -(signedSize : Int) ≤ n && n < signedSize

example : isSigned64 (-9223372036854775808) && !isSigned64 9223372036854775808 := by decide

/-- A number that was worked out and is no word. -/
structure Overflow
deriving DecidableEq, Repr

namespace Word

/-- A number as a word. -/
def ofNat (n : Nat) : Except Overflow UInt64 :=
  if n < UInt64.size then .ok (UInt64.ofNat n) else .error ⟨⟩

/-- The sum of two words. -/
def sum (a b : UInt64) : Except Overflow UInt64 := ofNat (a.toNat + b.toNat)

/-- The difference of two words. -/
def difference (a b : UInt64) : Except Overflow UInt64 := if b ≤ a then .ok (a - b) else .error ⟨⟩

/-- A number is that of a word exactly if it is not too great. -/
theorem ofNat_eq_ok_iff {n : Nat} {w : UInt64} : ofNat n = .ok w ↔ n = w.toNat := by
  unfold ofNat
  split
  next small => rw [Except.ok.injEq, ← UInt64.toNat_inj, UInt64.toNat_ofNat_of_lt' small]
  next large =>
    have := w.toNat_lt_size
    constructor
    · intro h
      cases h
    · intro h
      omega

theorem ofNat_toNat (w : UInt64) : ofNat w.toNat = .ok w := ofNat_eq_ok_iff.2 rfl

theorem sum_eq_ok_iff {a b c : UInt64} : sum a b = .ok c ↔ a.toNat + b.toNat = c.toNat :=
  ofNat_eq_ok_iff

theorem difference_eq_ok_iff {a b c : UInt64} : difference a b = .ok c ↔ a.toNat = b.toNat + c.toNat := by
  unfold difference
  split
  next le =>
    have small := UInt64.le_iff_toNat_le.1 le
    rw [Except.ok.injEq, ← UInt64.toNat_inj, UInt64.toNat_sub_of_le a b le]
    omega
  next crossed =>
    have := UInt64.lt_iff_toNat_lt.1 (UInt64.not_le.1 crossed)
    constructor
    · intro h
      cases h
    · intro h
      omega

end Word

end StaticSite
