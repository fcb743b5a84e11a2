/-
  ONE LINE: texts that stay in the line they are written to.

  A log is read line by line, and what is written to it comes from many hands: methods and targets
  of requests, names of files, what a file holds.  A text stays in its line if it is made of
  characters that do not end one (`IsLine`).  Put together, such texts stay in their line.  A quoted
  text always does (`isLine_quoted`), and numbers are even SOLID, without so much as a blank
  (`IsSolid`).

  Numbered structure:
    §1  texts made of some characters
    §2  lines and solid texts
    §3  numbers
    §4  quoted text and decoded names
-/
import StaticSite.Proofs.Text.Decoding
import StaticSite.Text.Quoted

namespace StaticSite.Text

/-! ## §1 Texts made of some characters -/

/-- A text with no other characters than some. -/
def MadeOf (p : Char → Bool) (s : String) : Prop := ∀ c ∈ s.toList, p c = true

instance (p : Char → Bool) (s : String) : Decidable (MadeOf p s) :=
  decidable_of_iff (s.toList.all p = true) List.all_eq_true

variable {p q : Char → Bool}

theorem madeOf_ofList {cs : List Char} (h : ∀ c ∈ cs, p c = true) : MadeOf p (String.ofList cs) := by
  rwa [MadeOf, String.toList_ofList]

theorem madeOf_append {s t : String} : MadeOf p (s ++ t) ↔ MadeOf p s ∧ MadeOf p t := by
  rw [MadeOf, String.toList_append]
  exact List.forall_mem_append

theorem MadeOf.append {s t : String} (hs : MadeOf p s) (ht : MadeOf p t) : MadeOf p (s ++ t) :=
  madeOf_append.2 ⟨hs, ht⟩

theorem MadeOf.mono (weaker : ∀ c, p c = true → q c = true) {s : String} (h : MadeOf p s) :
    MadeOf q s := fun c hc => weaker c (h c hc)

theorem madeOf_intercalate {sep : String} (hsep : MadeOf p sep) {parts : List String}
    (h : ∀ part ∈ parts, MadeOf p part) : MadeOf p (sep.intercalate parts) := by
  induction parts with
  | nil => exact nofun
  | cons first rest ih =>
    obtain ⟨hfirst, hrest⟩ := List.forall_mem_cons.1 h
    cases rest with
    | nil => rwa [String.intercalate_singleton]
    | cons second others =>
      rw [String.intercalate_cons_cons]
      exact (hfirst.append hsep).append (ih hrest)

/-- No character of a kind is below a bound if none of those there is of that kind. -/
theorem le_toNat_of_kind {bound : Nat} (low : ∀ n < bound, p (Char.ofNat n) = false) {c : Char}
    (h : p c = true) : bound ≤ c.toNat := by
  refine Nat.le_of_not_lt fun small => ?_
  have none := low c.toNat small
  rw [Char.ofNat_toNat, h] at none
  cases none

/-! ## §2 Lines and solid texts -/

/-- A character that does not end a line. -/
def isLineChar (c : Char) : Bool := c != '\n' && c != '\r'

/-- A text that does not end its line. -/
abbrev IsLine (s : String) : Prop := MadeOf isLineChar s

/-- A character that is neither a blank nor a control character below it. -/
def isSolidChar (c : Char) : Bool := 0x21 ≤ c.toNat

/-- A text without blanks. -/
abbrev IsSolid (s : String) : Prop := MadeOf isSolidChar s

/-- The blank and all characters above it stay in their line. -/
theorem isLineChar_of_le {c : Char} (h : 0x20 ≤ c.toNat) : isLineChar c = true := by
  rw [isLineChar, Bool.and_eq_true, bne_iff_ne, bne_iff_ne]
  constructor
  · rintro rfl
    exact absurd h (by decide)
  · rintro rfl
    exact absurd h (by decide)

theorem IsSolid.isLine {s : String} (h : IsSolid s) : IsLine s :=
  h.mono fun _ hc => isLineChar_of_le (Nat.le_of_succ_le (of_decide_eq_true hc))

theorem IsSolid.not_mem {s : String} (h : IsSolid s) {c : Char} (blank : isSolidChar c = false) :
    c ∉ s.toList := by
  intro hc
  have solid := h c hc
  rw [blank] at solid
  cases solid

/-! ## §3 Numbers -/

/-- A number is written in digits. -/
theorem exists_digit_of_mem {base : Nat} (positional : 1 < base) {n : Nat} {c : Char}
    (h : c ∈ Nat.toDigits base n) : ∃ digit : Nat, c = digit.digitChar := by
  induction n using Nat.strongRecOn with
  | ind n ih =>
    rw [Nat.toDigits_eq_if positional] at h
    split at h
    next => exact ⟨n, List.mem_singleton.1 h⟩
    next large =>
      rcases List.mem_append.1 h with front | last
      · exact ih (n / base) (Nat.div_lt_self (by omega) positional) front
      · exact ⟨n % base, List.mem_singleton.1 last⟩

theorem isSolidChar_digitChar (digit : Nat) : isSolidChar digit.digitChar = true := by
  have each : ∀ d < 16, isSolidChar (Nat.digitChar d) = true := by decide
  rcases Nat.lt_or_ge digit 16 with small | large
  · exact each digit small
  · rw [Nat.digitChar_eq_star.2 large]
    rfl

theorem isSolid_digits {base : Nat} (positional : 1 < base) (n : Nat) :
    IsSolid (String.ofList (Nat.toDigits base n)) := by
  refine madeOf_ofList fun c hc => ?_
  obtain ⟨digit, rfl⟩ := exists_digit_of_mem positional hc
  exact isSolidChar_digitChar digit

theorem isSolid_toString (n : Nat) : IsSolid (toString n) := isSolid_digits (by decide) n

/-! ## §4 Quoted text and decoded names -/

/-- The characters that have letters of their own inside quotes, both ends of a line among them. -/
def lettered : List Char := ['"', '\\', '\x00', '\t', '\n', '\r']

theorem quotedChar_of_not_lettered {c : Char} (h : c ∉ lettered) :
    quotedChar c = [c] ∨ quotedChar c = numbered c := by
  simp only [lettered, List.mem_cons, List.not_mem_nil, or_false, not_or] at h
  obtain ⟨quote, backslash, nul, tab, feed, ret⟩ := h
  unfold quotedChar
  rw [if_neg (mt eq_of_beq quote), if_neg (mt eq_of_beq backslash), if_neg (mt eq_of_beq nul),
    if_neg (mt eq_of_beq tab), if_neg (mt eq_of_beq feed), if_neg (mt eq_of_beq ret)]
  split
  · exact .inl rfl
  · split
    · exact .inr rfl
    · exact .inl rfl

theorem isLine_numbered (c : Char) : ∀ d ∈ numbered c, isLineChar d = true := by
  have digits := (isSolid_digits (by decide : 1 < 16) c.toNat).isLine
  unfold IsLine MadeOf at digits
  rw [String.toList_ofList] at digits
  exact List.forall_mem_append.2 ⟨List.forall_mem_append.2
    ⟨List.all_eq_true.1 (by decide), digits⟩, List.all_eq_true.1 (by decide)⟩

/-- Inside quotes no character ends the line. -/
theorem isLineChar_of_mem_quotedChar {c d : Char} (h : d ∈ quotedChar c) : isLineChar d = true := by
  by_cases special : c ∈ lettered
  · have each : ∀ c ∈ lettered, (quotedChar c).all isLineChar = true :=
      List.all_eq_true.1 (by decide)
    exact List.all_eq_true.1 (each c special) d h
  · rcases quotedChar_of_not_lettered special with plain | shown
    · rw [plain, List.mem_singleton] at h
      subst h
      have feed : '\n' ∈ lettered := by decide
      have ret : '\r' ∈ lettered := by decide
      rw [isLineChar, Bool.and_eq_true, bne_iff_ne, bne_iff_ne]
      exact ⟨fun same => special (same ▸ feed), fun same => special (same ▸ ret)⟩
    · exact isLine_numbered c d (shown ▸ h)

/-- A quoted text stays in its line, whatever it is. -/
theorem isLine_quoted (s : String) : IsLine (quoted s) := by
  have quote : isLineChar '"' = true := by decide
  refine madeOf_ofList fun d hd => ?_
  rcases List.mem_append.1 hd with front | last
  · rcases List.mem_cons.1 front with rfl | inner
    · exact quote
    · obtain ⟨c, -, inner⟩ := List.mem_flatMap.1 inner
      exact isLineChar_of_mem_quotedChar inner
  · exact List.mem_singleton.1 last ▸ quote

/-- Bytes without a line feed and without a carriage return are shown in one line. -/
theorem isLine_decodeLossy {bytes : Bytes} (feed : 10 ∉ bytes) (ret : 13 ∉ bytes) :
    IsLine (String.ofList (decodeLossy bytes)) := by
  refine madeOf_ofList fun c hc => ?_
  have differs {d : Char} {b : UInt8} (ascii : d.toNat < 0x80) (number : b.toNat = d.toNat)
      (free : b ∉ bytes) : c ≠ d := by
    rintro rfl
    obtain ⟨b', hb', same⟩ := byte_of_mem_decodeLossy ascii hc
    exact free (UInt8.toNat_inj.1 (same.trans number.symm) ▸ hb')
  rw [isLineChar, Bool.and_eq_true, bne_iff_ne, bne_iff_ne]
  exact ⟨differs (by decide) (by decide) feed, differs (by decide) (by decide) ret⟩

end StaticSite.Text
