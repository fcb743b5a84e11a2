/-
  DECODING: which bytes a character comes from.

  A piece that is read as a character is made of the bytes of that character
  (`utf8EncodeChar_of_readPiece`): overlong forms are refused, so there is no other spelling.  A
  character below 0x80 is thus read from its own byte and from nothing else (`scalar_of_readPiece`),
  and U+FFFD, which stands for what spells nothing, is far above.  So an ASCII character in a decoded
  text is a byte of the input (`byte_of_mem_decodeLossy`), and a text that is all ASCII has no other
  bytes (`eq_of_ascii_decodeLossy`).
-/
import StaticSite.Text.Utf8

namespace StaticSite.Text

/-! ## Bytes as numbers -/

/-- Between which bytes a byte lies. -/
theorem between_iff (low high b : UInt8) :
    (decide (low ≤ b) && decide (b ≤ high)) = true ↔ low.toNat ≤ b.toNat ∧ b.toNat ≤ high.toNat := by
  rw [Bool.and_eq_true, decide_eq_true_iff, decide_eq_true_iff, UInt8.le_iff_toNat_le,
    UInt8.le_iff_toNat_le]

/-- A second byte continues a character; four first bytes leave it less room. -/
theorem secondAllowed_iff {first second : UInt8} : secondAllowed first second = true ↔
    0x80 ≤ second.toNat ∧ second.toNat ≤ 0xBF ∧ (first.toNat = 0xE0 → 0xA0 ≤ second.toNat) ∧
    (first.toNat = 0xED → second.toNat ≤ 0x9F) ∧ (first.toNat = 0xF0 → 0x90 ≤ second.toNat) ∧
    (first.toNat = 0xF4 → second.toNat ≤ 0x8F) := by
  simp only [secondAllowed, isContinuation, beq_iff_eq, ← UInt8.toNat_inj, Bool.ite_eq_true_distrib,
    between_iff, UInt8.reduceToNat]
  split
  next => omega
  next =>
    split
    next => omega
    next =>
      split
      next => omega
      next =>
        split
        · omega
        · omega

/-- The number of a character that was made from it. -/
theorem toNat_ofNat_of_valid {n : Nat} (h : n.isValidChar) : (Char.ofNat n).toNat = n := by
  rw [Char.ofNat, dif_pos h]
  rfl

theorem toNat_byte {n : Nat} (small : n < 256) : (UInt8.ofNat n).toNat = n := by
  rw [UInt8.toNat_ofNat']
  exact Nat.mod_eq_of_lt small

/-- A byte with the number that is asked for. -/
theorem ofNat_of_toNat {b : UInt8} {n : Nat} (h : n = b.toNat) : UInt8.ofNat n = b := by
  rw [h, UInt8.ofNat_toNat]

theorem toNat_of_continues {b : UInt8} (h : isContinuation b = true) :
    0x80 ≤ b.toNat ∧ b.toNat ≤ 0xBF :=
  (between_iff 0x80 0xBF b).1 h

/-! ## Pieces -/

/-- The byte of an ASCII character. -/
theorem utf8EncodeChar_of_ascii {c : Char} (ascii : c.toNat < 0x80) :
    String.utf8EncodeChar c = [UInt8.ofNat c.toNat] := by
  unfold String.utf8EncodeChar
  exact if_pos (Nat.le_of_lt_succ ascii)

theorem utf8EncodeChar_of_two {a b : UInt8} (ha : 0xC2 ≤ a.toNat ∧ a.toNat ≤ 0xDF)
    (hb : 0x80 ≤ b.toNat ∧ b.toNat ≤ 0xBF) :
    String.utf8EncodeChar (Char.ofNat (a.toNat % 32 * 64 + payload b)) = [a, b] := by
  have small : a.toNat % 32 * 64 + b.toNat % 64 < 0xD800 := by omega
  have number : (Char.ofNat (a.toNat % 32 * 64 + payload b)).val.toNat
      = a.toNat % 32 * 64 + b.toNat % 64 :=
    toNat_ofNat_of_valid (.inl small)
  unfold String.utf8EncodeChar
  rw [number, if_neg (by omega), if_pos (by omega), ofNat_of_toNat (b := a) (by omega),
    ofNat_of_toNat (b := b) (by omega)]

theorem utf8EncodeChar_of_three {a b c : UInt8} (ha : 0xE0 ≤ a.toNat ∧ a.toNat ≤ 0xEF)
    (hb : 0x80 ≤ b.toNat ∧ b.toNat ≤ 0xBF) (overlong : a.toNat = 0xE0 → 0xA0 ≤ b.toNat)
    (surrogate : a.toNat = 0xED → b.toNat ≤ 0x9F) (hc : 0x80 ≤ c.toNat ∧ c.toNat ≤ 0xBF) :
    String.utf8EncodeChar (Char.ofNat ((a.toNat % 16 * 64 + payload b) * 64 + payload c))
      = [a, b, c] := by
  have valid : ((a.toNat % 16 * 64 + b.toNat % 64) * 64 + c.toNat % 64).isValidChar := by
    unfold Nat.isValidChar
    omega
  have number : (Char.ofNat ((a.toNat % 16 * 64 + payload b) * 64 + payload c)).val.toNat
      = (a.toNat % 16 * 64 + b.toNat % 64) * 64 + c.toNat % 64 :=
    toNat_ofNat_of_valid valid
  unfold String.utf8EncodeChar
  rw [number, if_neg (by omega), if_neg (by omega), if_pos (by omega),
    ofNat_of_toNat (b := a) (by omega), ofNat_of_toNat (b := b) (by omega),
    ofNat_of_toNat (b := c) (by omega)]

theorem utf8EncodeChar_of_four {a b c d : UInt8} (ha : 0xF0 ≤ a.toNat ∧ a.toNat ≤ 0xF4)
    (hb : 0x80 ≤ b.toNat ∧ b.toNat ≤ 0xBF) (overlong : a.toNat = 0xF0 → 0x90 ≤ b.toNat)
    (large : a.toNat = 0xF4 → b.toNat ≤ 0x8F) (hc : 0x80 ≤ c.toNat ∧ c.toNat ≤ 0xBF)
    (hd : 0x80 ≤ d.toNat ∧ d.toNat ≤ 0xBF) :
    String.utf8EncodeChar
      (Char.ofNat (((a.toNat % 8 * 64 + payload b) * 64 + payload c) * 64 + payload d))
      = [a, b, c, d] := by
  have valid : (((a.toNat % 8 * 64 + b.toNat % 64) * 64 + c.toNat % 64) * 64
      + d.toNat % 64).isValidChar := by
    unfold Nat.isValidChar
    omega
  have number : (Char.ofNat
      (((a.toNat % 8 * 64 + payload b) * 64 + payload c) * 64 + payload d)).val.toNat
      = ((a.toNat % 8 * 64 + b.toNat % 64) * 64 + c.toNat % 64) * 64 + d.toNat % 64 :=
    toNat_ofNat_of_valid valid
  unfold String.utf8EncodeChar
  rw [number, if_neg (by omega), if_neg (by omega), if_neg (by omega),
    ofNat_of_toNat (b := a) (by omega), ofNat_of_toNat (b := b) (by omega),
    ofNat_of_toNat (b := c) (by omega), ofNat_of_toNat (b := d) (by omega)]

/-- What is read as a character are the bytes of that character. -/
theorem utf8EncodeChar_of_readPiece {first : UInt8} {rest : Bytes} {c : Char} {more : Nat}
    (h : readPiece first rest = .scalar c more) :
    String.utf8EncodeChar c ++ rest.drop more = first :: rest := by
  unfold readPiece at h
  split at h
  next small =>
    -- a byte on its own
    have small := UInt8.lt_iff_toNat_lt.1 small
    have number := toNat_ofNat_of_valid (n := first.toNat) (.inl (Nat.lt_trans small (by decide)))
    cases h
    rw [utf8EncodeChar_of_ascii (by rw [number]; exact small), number, UInt8.ofNat_toNat]
    rfl
  next =>
    split at h
    next two =>
      have ha : 0xC2 ≤ first.toNat ∧ first.toNat ≤ 0xDF := by
        simpa [UInt8.le_iff_toNat_le] using two
      split at h
      next => cases h
      next b _ =>
        split at h
        next continues =>
          cases h
          rw [utf8EncodeChar_of_two ha (toNat_of_continues continues)]
          rfl
        next => cases h
    next =>
      split at h
      next three =>
        have ha : 0xE0 ≤ first.toNat ∧ first.toNat ≤ 0xEF := by
          simpa [UInt8.le_iff_toNat_le] using three
        split at h
        next => cases h
        next =>
          split at h
          · cases h
          · cases h
        next b c _ =>
          split at h
          next => cases h
          next allowed =>
            split at h
            next => cases h
            next continues =>
              cases h
              obtain ⟨low, high, overlong, surrogate, -⟩ :=
                secondAllowed_iff.1 (by simpa using allowed)
              rw [utf8EncodeChar_of_three ha ⟨low, high⟩ overlong surrogate
                (toNat_of_continues (by simpa using continues))]
              rfl
      next =>
        split at h
        next four =>
          have ha : 0xF0 ≤ first.toNat ∧ first.toNat ≤ 0xF4 := by
            simpa [UInt8.le_iff_toNat_le] using four
          split at h
          next => cases h
          next =>
            split at h
            · cases h
            · cases h
          next =>
            split at h
            · cases h
            · split at h
              · cases h
              · cases h
          next b c d _ =>
            split at h
            next => cases h
            next allowed =>
              split at h
              next => cases h
              next continues =>
                split at h
                next => cases h
                next continues' =>
                  cases h
                  obtain ⟨low, high, -, -, overlong, large⟩ :=
                    secondAllowed_iff.1 (by simpa using allowed)
                  rw [utf8EncodeChar_of_four ha ⟨low, high⟩ overlong large
                    (toNat_of_continues (by simpa using continues))
                    (toNat_of_continues (by simpa using continues'))]
                  rfl
        next => cases h

/-- A piece is a byte that stands for itself, or a character from 0x80 on. -/
theorem scalar_of_readPiece {first : UInt8} {rest : Bytes} {c : Char} {more : Nat}
    (h : readPiece first rest = .scalar c more) :
    (rest.drop more = rest ∧ c.toNat = first.toNat ∧ c.toNat < 0x80) ∨ 0x80 ≤ c.toNat := by
  rcases Nat.lt_or_ge c.toNat 0x80 with small | large
  · have bytes := utf8EncodeChar_of_readPiece h
    rw [utf8EncodeChar_of_ascii small] at bytes
    obtain ⟨hfirst, hrest⟩ := List.cons.inj bytes
    refine .inl ⟨hrest, ?_, small⟩
    rw [← hfirst, toNat_byte (Nat.lt_trans small (by decide))]
  · exact .inr large

/-! ## Texts -/

/-- The characters read so far stand in front of what is read from the rest. -/
theorem decodeLossyFrom_eq (done : List Char) (bs : Bytes) :
    decodeLossyFrom done bs = done.reverse ++ decodeLossy bs := by
  induction hlength : bs.length using Nat.strongRecOn generalizing done bs with
  | ind length ih =>
    cases bs with
    | nil => simp [decodeLossyFrom, decodeLossy]
    | cons b rest =>
      have shorter (more : Nat) : (rest.drop more).length < length := by
        rw [List.length_drop, ← hlength, List.length_cons]
        omega
      rw [decodeLossy, decodeLossyFrom, decodeLossyFrom]
      cases readPiece b rest with
      | scalar c more =>
        simp only
        rw [ih _ (shorter more) _ _ rfl, ih _ (shorter more) [c] _ rfl]
        simp
      | malformed more =>
        simp only
        rw [ih _ (shorter more) _ _ rfl, ih _ (shorter more) [replacement] _ rfl]
        simp
      | truncated => simp

/-- Reading one piece. -/
theorem decodeLossy_cons (b : UInt8) (rest : Bytes) :
    decodeLossy (b :: rest) = match readPiece b rest with
      | .scalar c more => c :: decodeLossy (rest.drop more)
      | .malformed more => replacement :: decodeLossy (rest.drop more)
      | .truncated => [replacement] := by
  rw [decodeLossy, decodeLossyFrom]
  cases readPiece b rest with
  | scalar c more => exact decodeLossyFrom_eq [c] _
  | malformed more => exact decodeLossyFrom_eq [replacement] _
  | truncated => rfl

/-- An ASCII character in a decoded text is a byte of the input. -/
theorem byte_of_mem_decodeLossy {c : Char} (ascii : c.toNat < 0x80) {bs : Bytes}
    (h : c ∈ decodeLossy bs) : ∃ b ∈ bs, b.toNat = c.toNat := by
  induction hlength : bs.length using Nat.strongRecOn generalizing bs with
  | ind length ih =>
    cases bs with
    | nil => simp [decodeLossy, decodeLossyFrom] at h
    | cons b rest =>
      have later (more : Nat) (h : c ∈ decodeLossy (rest.drop more)) :
          ∃ b' ∈ b :: rest, b'.toNat = c.toNat := by
        have shorter : (rest.drop more).length < length := by
          rw [List.length_drop, ← hlength, List.length_cons]
          omega
        obtain ⟨b', hb', hc⟩ := ih _ shorter h rfl
        exact ⟨b', List.mem_cons_of_mem b (List.mem_of_mem_drop hb'), hc⟩
      have large : c ≠ replacement := by
        rintro rfl
        exact absurd ascii (by decide)
      rw [decodeLossy_cons] at h
      cases hpiece : readPiece b rest with
      | scalar c' more =>
        rw [hpiece] at h
        rcases List.mem_cons.1 h with rfl | h
        · rcases scalar_of_readPiece hpiece with ⟨-, hc, -⟩ | hc
          · exact ⟨b, List.mem_cons_self, hc.symm⟩
          · omega
        · exact later more h
      | malformed more =>
        rw [hpiece] at h
        rcases List.mem_cons.1 h with rfl | h
        · exact absurd rfl large
        · exact later more h
      | truncated =>
        rw [hpiece] at h
        exact absurd (List.mem_singleton.1 h) large

/-- A decoded text that is all ASCII has the numbers of its bytes. -/
theorem eq_of_ascii_decodeLossy {bs : Bytes} (ascii : ∀ c ∈ decodeLossy bs, c.toNat < 0x80) :
    bs.map UInt8.toNat = (decodeLossy bs).map Char.toNat := by
  induction bs with
  | nil => simp [decodeLossy, decodeLossyFrom]
  | cons b rest ih =>
    rw [decodeLossy_cons] at ascii ⊢
    cases hpiece : readPiece b rest with
    | scalar c more =>
      rw [hpiece] at ascii
      obtain ⟨hc, later⟩ := List.forall_mem_cons.1 ascii
      rcases scalar_of_readPiece hpiece with ⟨hrest, heq, -⟩ | hlarge
      · rw [hrest] at later
        show (b :: rest).map UInt8.toNat = (c :: decodeLossy (rest.drop more)).map Char.toNat
        rw [hrest, List.map_cons, List.map_cons, ih later, heq]
      · omega
    | malformed more =>
      rw [hpiece] at ascii
      exact absurd (ascii replacement List.mem_cons_self) (by decide)
    | truncated =>
      rw [hpiece] at ascii
      exact absurd (ascii replacement List.mem_cons_self) (by decide)

end StaticSite.Text
