/-
  UNESCAPING: what percent escapes stand for, said without working it out.

  An escape is a percent sign and two hexadecimal digits, in small letters or capitals (`IsEscape`).
  Undoing the escapes of a byte string puts the byte in place of each escape, from the front on, and
  leaves everything else (`Unescapes`); that is what `percentDecode` does, and all it does
  (`percentDecode_eq_iff`).

  A byte string can be escaped in many ways: the percent sign must be, and any other byte may be.  Where
  the slash is escaped as well (`Escapes`), no slash is left (`Escapes.not_mem`), and every way is undone
  to the same bytes (`Escapes.unescapes`).

  Numbered structure:
    §1  digits
    §2  undoing escapes
    §3  escaping
-/
import StaticSite.Proofs.Text.RoundTrip

namespace StaticSite.Text

/-! ## §1 Digits -/

/-- The byte is the hexadecimal digit of a number below 16, in small letters or capitals. -/
def IsHexDigit (n : Nat) (digit : UInt8) : Prop :=
  (utf8 "0123456789abcdef")[n]? = some digit ∨ (utf8 "0123456789ABCDEF")[n]? = some digit

instance (n : Nat) (digit : UInt8) : Decidable (IsHexDigit n digit) :=
  inferInstanceAs (Decidable (_ ∨ _))

theorem lt_of_isHexDigit {n : Nat} {digit : UInt8} (h : IsHexDigit n digit) : n < 16 := by
  rcases h with small | capital
  · exact (List.getElem?_eq_some_iff.1 small).1
  · exact (List.getElem?_eq_some_iff.1 capital).1

/-- The value of a digit is the number it is the digit of. -/
theorem hexValue?_eq_some_iff {digit value : UInt8} :
    hexValue? digit = some value ↔ IsHexDigit value.toNat digit := by
  constructor
  · intro h
    have each : ∀ m < 256, ∀ v ∈ hexValue? (UInt8.ofNat m), IsHexDigit v.toNat (UInt8.ofNat m) := by
      decide +kernel
    have here := each digit.toNat digit.toNat_lt value
    rw [UInt8.ofNat_toNat] at here
    exact here h
  · intro h
    have small : ∀ n < 16, ∀ d ∈ (utf8 "0123456789abcdef")[n]?, hexValue? d = some (UInt8.ofNat n) := by
      decide +kernel
    have capital : ∀ n < 16, ∀ d ∈ (utf8 "0123456789ABCDEF")[n]?, hexValue? d = some (UInt8.ofNat n) := by
      decide +kernel
    have below := lt_of_isHexDigit h
    rw [← UInt8.ofNat_toNat (x := value)]
    rcases h with h | h
    · exact small value.toNat below digit h
    · exact capital value.toNat below digit h

/-- Two digits that stand for a byte. -/
def IsEscape (b high low : UInt8) : Prop :=
  IsHexDigit (b.toNat / 16) high ∧ IsHexDigit (b.toNat % 16) low

/-- Two digits have the values of the byte's halves. -/
theorem isEscape_iff {b high low : UInt8} : IsEscape b high low ↔
    ∃ m n, hexValue? high = some m ∧ hexValue? low = some n ∧ m * 16 + n = b := by
  have bound := b.toNat_lt
  constructor
  · rintro ⟨hhigh, hlow⟩
    refine ⟨UInt8.ofNat (b.toNat / 16), UInt8.ofNat (b.toNat % 16), ?_, ?_, ?_⟩
    · rw [hexValue?_eq_some_iff, toNat_byte (by omega)]
      exact hhigh
    · rw [hexValue?_eq_some_iff, toNat_byte (by omega)]
      exact hlow
    · apply UInt8.toNat_inj.1
      rw [UInt8.toNat_add, UInt8.toNat_mul, toNat_byte (by omega), toNat_byte (by omega)]
      show (b.toNat / 16 * 16 % 256 + b.toNat % 16) % 256 = b.toNat
      omega
  · rintro ⟨m, n, hhigh, hlow, rfl⟩
    rw [hexValue?_eq_some_iff] at hhigh hlow
    have := lt_of_isHexDigit hhigh
    have := lt_of_isHexDigit hlow
    have value : (m * 16 + n).toNat = m.toNat * 16 + n.toNat := by
      rw [UInt8.toNat_add, UInt8.toNat_mul]
      show (m.toNat * 16 % 256 + n.toNat) % 256 = _
      omega
    have quotient : (m.toNat * 16 + n.toNat) / 16 = m.toNat := by omega
    have remainder : (m.toNat * 16 + n.toNat) % 16 = n.toNat := by omega
    rw [IsEscape, value, quotient, remainder]
    exact ⟨hhigh, hlow⟩

/-! ## §2 Undoing escapes -/

/-- A byte string, and the byte string with a byte in place of each escape.  What begins no escape stands
    for itself. -/
inductive Unescapes : Bytes → Bytes → Prop
  | nil : Unescapes [] []
  | escape {b high low : UInt8} {raw bytes : Bytes} (digits : IsEscape b high low)
      (rest : Unescapes raw bytes) : Unescapes (percentSign :: high :: low :: raw) (b :: bytes)
  | plain {b : UInt8} {raw bytes : Bytes}
      (alone : ∀ high low more, b :: raw = percentSign :: high :: low :: more →
        ∀ c, ¬IsEscape c high low)
      (rest : Unescapes raw bytes) : Unescapes (b :: raw) (b :: bytes)

theorem percentDecode_of_isEscape {b high low : UInt8} (h : IsEscape b high low) (raw : Bytes) :
    percentDecode (percentSign :: high :: low :: raw) = b :: percentDecode raw := by
  obtain ⟨m, n, hhigh, hlow, rfl⟩ := isEscape_iff.1 h
  rw [percentDecode, if_pos (beq_self_eq_true _), hhigh, hlow]

/-- What begins no escape is left. -/
theorem percentDecode_of_alone {b : UInt8} {raw : Bytes}
    (alone : ∀ high low more, b :: raw = percentSign :: high :: low :: more →
      ∀ c, ¬IsEscape c high low) : percentDecode (b :: raw) = b :: percentDecode raw := by
  by_cases percent : b = percentSign
  · rcases raw with _ | ⟨high, _ | ⟨low, more⟩⟩
    · rfl
    · rfl
    · rw [percentDecode, if_pos (beq_iff_eq.2 percent)]
      split
      next m n hhigh hlow =>
        have digits : IsEscape (m * 16 + n) high low := isEscape_iff.2 ⟨m, n, hhigh, hlow, rfl⟩
        exact absurd digits (alone high low more (by rw [percent]) _)
      next => rfl
  · exact percentDecode_cons_of_ne percent raw

/-- The program undoes the escapes, from the front on. -/
theorem unescapes_percentDecode (raw : Bytes) : Unescapes raw (percentDecode raw) := by
  fun_induction percentDecode raw with
  | case1 b high low rest percent m n hlow hhigh ih =>
    rw [eq_of_beq percent]
    exact .escape (isEscape_iff.2 ⟨m, n, hhigh, hlow, rfl⟩) ih
  | case2 b high low rest percent noDigits ih =>
    -- a percent sign without two digits behind it
    refine .plain ?_ ih
    rintro _ _ _ ⟨⟩ c digits
    obtain ⟨m, n, hhigh, hlow, -⟩ := isEscape_iff.1 digits
    exact noDigits m n hhigh hlow
  | case3 b high low rest differs ih =>
    refine .plain ?_ ih
    rintro _ _ _ ⟨⟩
    exact absurd (beq_self_eq_true _) differs
  | case4 b rest short ih =>
    refine .plain ?_ ih
    intro high low more h
    exact (short high low more (List.cons.inj h).2).elim
  | case5 => exact .nil

theorem percentDecode_eq_iff {raw bytes : Bytes} : percentDecode raw = bytes ↔ Unescapes raw bytes := by
  constructor
  · rintro rfl
    exact unescapes_percentDecode raw
  · intro h
    induction h with
    | nil => rfl
    | escape digits _ ih => rw [percentDecode_of_isEscape digits, ih]
    | plain alone _ ih => rw [percentDecode_of_alone alone, ih]

/-! ## §3 Escaping -/

/-- The byte of a slash. -/
def slashByte : UInt8 := 0x2F

/-- A byte string, and one way to escape it: the slash and the percent sign are escaped, and any other
    byte may be. -/
inductive Escapes : Bytes → Bytes → Prop
  | nil : Escapes [] []
  | escape {b high low : UInt8} {bytes raw : Bytes} (digits : IsEscape b high low)
      (rest : Escapes bytes raw) : Escapes (b :: bytes) (percentSign :: high :: low :: raw)
  | plain {b : UInt8} {bytes raw : Bytes} (slash : b ≠ slashByte) (percent : b ≠ percentSign)
      (rest : Escapes bytes raw) : Escapes (b :: bytes) (b :: raw)

/-- Every way is undone to the same bytes. -/
theorem Escapes.unescapes {bytes raw : Bytes} (h : Escapes bytes raw) : Unescapes raw bytes := by
  induction h with
  | nil => exact .nil
  | escape digits _ ih => exact .escape digits ih
  | plain _ percent _ ih =>
    refine .plain ?_ ih
    rintro _ _ _ ⟨⟩
    exact absurd rfl percent

theorem ne_slash_of_isHexDigit {n : Nat} {digit : UInt8} (h : IsHexDigit n digit) :
    digit ≠ slashByte := by
  have small : ∀ d ∈ utf8 "0123456789abcdef", d ≠ slashByte := by decide +kernel
  have capital : ∀ d ∈ utf8 "0123456789ABCDEF", d ≠ slashByte := by decide +kernel
  rcases h with h | h
  · exact small digit (List.mem_of_getElem? h)
  · exact capital digit (List.mem_of_getElem? h)

/-- No slash is left. -/
theorem Escapes.not_mem {bytes raw : Bytes} (h : Escapes bytes raw) : slashByte ∉ raw := by
  induction h with
  | nil => exact List.not_mem_nil
  | escape digits _ ih =>
    have high := (ne_slash_of_isHexDigit digits.1).symm
    have low := (ne_slash_of_isHexDigit digits.2).symm
    simp only [List.mem_cons, not_or]
    exact ⟨by decide, high, low, ih⟩
  | plain slash _ _ ih =>
    rw [List.mem_cons, not_or]
    exact ⟨slash.symm, ih⟩

end StaticSite.Text
