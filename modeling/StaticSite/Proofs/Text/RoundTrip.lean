/-
  ROUND TRIPS: a text that was written as bytes, or with percent escapes, is read back.

  A character is written as one to four bytes, and its bytes are read as one piece, whatever follows
  them (`readPiece_utf8EncodeChar`).  So the bytes of a text spell that text and no other
  (`decode_encode`), and no other bytes spell it (`encode_of_decode`).

  Percent escapes are undone byte by byte (`percentDecode_escapedByte`).  A text that was escaped,
  but for some ASCII characters other than the percent sign, is read back whatever these are
  (`percentDecode_percentEncode`).

  Numbered structure:
    §1  bytes as numbers
    §2  one character
    §3  texts
    §4  percent escapes
-/
import StaticSite.Proofs.Text.Decoding
import StaticSite.Text.Percent

namespace StaticSite.Text

/-! ## §1 Bytes as numbers -/

theorem continues_of_toNat {b : UInt8} (h : 0x80 ≤ b.toNat ∧ b.toNat ≤ 0xBF) :
    isContinuation b = true :=
  (between_iff 0x80 0xBF b).2 h

theorem not_ascii_of_toNat {b : UInt8} (h : 0x80 ≤ b.toNat) : ¬b < 0x80 := by
  rw [UInt8.lt_iff_toNat_lt]
  exact Nat.not_lt.2 h

/-! ## §2 One character -/

theorem readPiece_of_one {a : UInt8} (ha : a.toNat < 0x80) (rest : Bytes) :
    readPiece a rest = .scalar (Char.ofNat a.toNat) 0 := by
  have small : a < 0x80 := UInt8.lt_iff_toNat_lt.2 ha
  rw [readPiece.eq_def, if_pos small]

theorem readPiece_of_two {a b : UInt8} (ha : 0xC2 ≤ a.toNat ∧ a.toNat ≤ 0xDF)
    (hb : 0x80 ≤ b.toNat ∧ b.toNat ≤ 0xBF) (rest : Bytes) :
    readPiece a (b :: rest) = .scalar (Char.ofNat (a.toNat % 32 * 64 + b.toNat % 64)) 1 := by
  have large : ¬a < 0x80 := not_ascii_of_toNat (by omega)
  have two := (between_iff 0xC2 0xDF a).2 ha
  have continues := continues_of_toNat hb
  rw [readPiece, if_neg large, if_pos two]
  simp only [continues, if_true]
  rfl

theorem readPiece_of_three {a b c : UInt8} (ha : 0xE0 ≤ a.toNat ∧ a.toNat ≤ 0xEF)
    (hb : 0x80 ≤ b.toNat ∧ b.toNat ≤ 0xBF) (overlong : a.toNat = 0xE0 → 0xA0 ≤ b.toNat)
    (surrogate : a.toNat = 0xED → b.toNat ≤ 0x9F) (hc : 0x80 ≤ c.toNat ∧ c.toNat ≤ 0xBF)
    (rest : Bytes) :
    readPiece a (b :: c :: rest)
      = .scalar (Char.ofNat ((a.toNat % 16 * 64 + b.toNat % 64) * 64 + c.toNat % 64)) 2 := by
  have large : ¬a < 0x80 := not_ascii_of_toNat (by omega)
  have notTwo : ¬(decide (0xC2 ≤ a) && decide (a ≤ 0xDF)) = true := by
    rw [between_iff]
    rintro ⟨-, high⟩
    exact absurd (Nat.le_trans ha.1 high) (by decide)
  have three := (between_iff 0xE0 0xEF a).2 ha
  have allowed : secondAllowed a b = true :=
    secondAllowed_iff.2 (by omega)
  have continues := continues_of_toNat hc
  rw [readPiece, if_neg large, if_neg notTwo, if_pos three]
  simp only [allowed, continues, Bool.not_true, Bool.false_eq_true, if_false]
  rfl

theorem readPiece_of_four {a b c d : UInt8} (ha : 0xF0 ≤ a.toNat ∧ a.toNat ≤ 0xF4)
    (hb : 0x80 ≤ b.toNat ∧ b.toNat ≤ 0xBF) (overlong : a.toNat = 0xF0 → 0x90 ≤ b.toNat)
    (beyond : a.toNat = 0xF4 → b.toNat ≤ 0x8F) (hc : 0x80 ≤ c.toNat ∧ c.toNat ≤ 0xBF)
    (hd : 0x80 ≤ d.toNat ∧ d.toNat ≤ 0xBF) (rest : Bytes) :
    readPiece a (b :: c :: d :: rest) = .scalar (Char.ofNat
      (((a.toNat % 8 * 64 + b.toNat % 64) * 64 + c.toNat % 64) * 64 + d.toNat % 64)) 3 := by
  have large : ¬a < 0x80 := not_ascii_of_toNat (by omega)
  have notTwo : ¬(decide (0xC2 ≤ a) && decide (a ≤ 0xDF)) = true := by
    rw [between_iff]
    rintro ⟨-, high⟩
    exact absurd (Nat.le_trans ha.1 high) (by decide)
  have notThree : ¬(decide (0xE0 ≤ a) && decide (a ≤ 0xEF)) = true := by
    rw [between_iff]
    rintro ⟨-, high⟩
    exact absurd (Nat.le_trans ha.1 high) (by decide)
  have four := (between_iff 0xF0 0xF4 a).2 ha
  have allowed : secondAllowed a b = true :=
    secondAllowed_iff.2 (by omega)
  have continues := continues_of_toNat hc
  have continues' := continues_of_toNat hd
  rw [readPiece, if_neg large, if_neg notTwo, if_neg notThree, if_pos four]
  simp only [allowed, continues, continues', Bool.not_true, Bool.false_eq_true, if_false]
  rfl

/-- The bytes of a character are read as that character, whatever follows them. -/
theorem readPiece_utf8EncodeChar (c : Char) (rest : Bytes) :
    ∃ first tail, String.utf8EncodeChar c = first :: tail ∧
      readPiece first (tail ++ rest) = .scalar c tail.length := by
  have valid : c.toNat < 0xD800 ∨ 0xDFFF < c.toNat ∧ c.toNat < 0x110000 := c.valid
  have same {n : Nat} (h : n = c.toNat) : Char.ofNat n = c := by rw [h, Char.ofNat_toNat]
  have number : c.val.toNat = c.toNat := rfl
  unfold String.utf8EncodeChar
  simp only [number]
  split
  next one =>
    refine ⟨_, [], rfl, ?_⟩
    rw [readPiece_of_one (by rw [toNat_byte (by omega)]; omega), toNat_byte (by omega), same rfl]
    rfl
  next =>
    split
    next two =>
      refine ⟨_, [_], rfl, ?_⟩
      have ha := toNat_byte (n := c.toNat / 64 % 32 + 192) (by omega)
      have hb := toNat_byte (n := c.toNat % 64 + 128) (by omega)
      rw [List.singleton_append, readPiece_of_two (by omega) (by omega), ha, hb, same (by omega)]
      rfl
    next =>
      split
      next three =>
        refine ⟨_, [_, _], rfl, ?_⟩
        have ha := toNat_byte (n := c.toNat / 4096 % 16 + 224) (by omega)
        have hb := toNat_byte (n := c.toNat / 64 % 64 + 128) (by omega)
        have hc := toNat_byte (n := c.toNat % 64 + 128) (by omega)
        rw [List.cons_append, List.singleton_append,
          readPiece_of_three (by omega) (by omega) (by omega) (by omega) (by omega), ha, hb, hc,
          same (by omega)]
        rfl
      next =>
        refine ⟨_, [_, _, _], rfl, ?_⟩
        have ha := toNat_byte (n := c.toNat / 262144 % 8 + 240) (by omega)
        have hb := toNat_byte (n := c.toNat / 4096 % 64 + 128) (by omega)
        have hc := toNat_byte (n := c.toNat / 64 % 64 + 128) (by omega)
        have hd := toNat_byte (n := c.toNat % 64 + 128) (by omega)
        rw [List.cons_append, List.cons_append, List.singleton_append,
          readPiece_of_four (by omega) (by omega) (by omega) (by omega) (by omega) (by omega), ha, hb,
          hc, hd, same (by omega)]
        rfl

/-! ## §3 Texts -/

/-- Reading goes on behind the bytes of a character. -/
theorem decodeFrom_utf8EncodeChar (c : Char) (index : Nat) (done : List Char) (rest : Bytes) :
    decodeFrom index done (String.utf8EncodeChar c ++ rest)
      = decodeFrom (index + (String.utf8EncodeChar c).length) (c :: done) rest := by
  obtain ⟨first, tail, hbytes, hpiece⟩ := readPiece_utf8EncodeChar c rest
  rw [hbytes, List.cons_append, decodeFrom, hpiece]
  simp only [List.drop_left, List.length_cons, Nat.add_assoc]

theorem decodeFrom_encode (s : List Char) (index : Nat) (done : List Char) :
    decodeFrom index done (encode s) = .ok (done.reverse ++ s) := by
  induction s generalizing index done with
  | nil => simp [encode, decodeFrom]
  | cons c rest ih =>
    rw [encode, List.flatMap_cons, decodeFrom_utf8EncodeChar]
    show decodeFrom _ _ (encode rest) = _
    rw [ih, List.reverse_cons, List.append_assoc, List.singleton_append]

/-- The bytes of a text spell that text. -/
theorem decode_encode (s : List Char) : decode (encode s) = .ok s :=
  decodeFrom_encode s 0 []

theorem decode?_encode (s : List Char) : decode? (encode s) = some s := by
  rw [decode?, decode_encode]

theorem encode_cons (c : Char) (s : List Char) :
    encode (c :: s) = String.utf8EncodeChar c ++ encode s :=
  List.flatMap_cons

/-- No piece of the bytes of a text is replaced. -/
theorem decodeLossy_encode (s : List Char) : decodeLossy (encode s) = s := by
  induction s with
  | nil => simp [encode, decodeLossy, decodeLossyFrom]
  | cons c rest ih =>
    obtain ⟨first, tail, hbytes, hpiece⟩ := readPiece_utf8EncodeChar c (encode rest)
    rw [encode_cons, hbytes, List.cons_append, decodeLossy_cons, hpiece]
    dsimp only
    rw [List.drop_left, ih]

theorem encode_append (s t : List Char) : encode (s ++ t) = encode s ++ encode t :=
  List.flatMap_append

theorem utf8_append (s t : String) : utf8 (s ++ t) = utf8 s ++ utf8 t := by
  rw [utf8, String.toList_append, encode_append]
  rfl

theorem encode_of_decodeFrom {bs : Bytes} {index : Nat} {done text : List Char}
    (h : decodeFrom index done bs = .ok text) : encode text = encode done.reverse ++ bs := by
  fun_induction decodeFrom index done bs with
  | case1 index done =>
    cases h
    rw [List.append_nil]
  | case2 index done b rest c more piece ih =>
    rw [ih h, List.reverse_cons, encode_append, List.append_assoc,
      ← utf8EncodeChar_of_readPiece piece]
    congr 1
    rw [encode, List.flatMap_singleton]
  | case3 => cases h
  | case4 => cases h

/-- Bytes that spell a text are the bytes of that text. -/
theorem encode_of_decode {bs : Bytes} {text : List Char} (h : decode bs = .ok text) :
    encode text = bs :=
  encode_of_decodeFrom h

/-- The bytes that spell a text are its bytes. -/
theorem decode?_eq_some_iff {bytes : Bytes} {text : List Char} :
    decode? bytes = some text ↔ encode text = bytes := by
  constructor
  · intro h
    unfold decode? at h
    split at h
    next text decoded =>
      cases h
      exact encode_of_decode decoded
    next => cases h
  · rintro rfl
    exact decode?_encode text

/-- Different texts have different bytes. -/
theorem encode_inj {s t : List Char} : encode s = encode t ↔ s = t := by
  constructor
  · intro h
    have same := decode_encode s
    rw [h, decode_encode] at same
    exact (Except.ok.inj same).symm
  · rintro rfl
    rfl

theorem encode_ne_nil {s : List Char} (some : s ≠ []) : encode s ≠ [] := by
  cases s with
  | nil => exact absurd rfl some
  | cons c rest =>
    obtain ⟨first, tail, hbytes, -⟩ := readPiece_utf8EncodeChar c []
    rw [encode, List.flatMap_cons, hbytes]
    exact List.cons_ne_nil _ _

/-! ## §4 Percent escapes -/

/-- Undoing escapes leaves a byte for each byte or escape. -/
theorem percentDecode_ne_nil {bs : Bytes} (some : bs ≠ []) : percentDecode bs ≠ [] := by
  fun_cases percentDecode bs <;> simp_all

/-- A byte other than the percent sign stands for itself. -/
theorem percentDecode_cons_of_ne {b : UInt8} (plain : b ≠ percentSign) (rest : Bytes) :
    percentDecode (b :: rest) = b :: percentDecode rest := by
  have differs : ¬(b == percentSign) = true := by rwa [beq_iff_eq]
  -- an escape takes two more bytes, so only a byte with two behind it could begin one
  rcases rest with _ | ⟨x, _ | ⟨y, more⟩⟩
  · rfl
  · rfl
  · rw [percentDecode, if_neg differs]

/-- A digit that is written is an ASCII character and has its value. -/
theorem hexValue?_upperHexDigit {n : Nat} (small : n < 16) :
    (upperHexDigit n).toNat < 0x80 ∧
    hexValue? (UInt8.ofNat (upperHexDigit n).toNat) = some (UInt8.ofNat n) := by
  have all : ∀ n < 16, (upperHexDigit n).toNat < 0x80 ∧
      hexValue? (UInt8.ofNat (upperHexDigit n).toNat) = some (UInt8.ofNat n) := by decide
  exact all n small

/-- An escape is undone. -/
theorem percentDecode_escapedByte (b : UInt8) (rest : Bytes) :
    percentDecode (encode (escapedByte b) ++ rest) = b :: percentDecode rest := by
  have small := b.toNat_lt
  obtain ⟨hiAscii, hi⟩ := hexValue?_upperHexDigit (n := b.toNat / 16) (by omega)
  obtain ⟨loAscii, lo⟩ := hexValue?_upperHexDigit (n := b.toNat % 16) (by omega)
  have hencode : encode (escapedByte b) = [percentSign,
      UInt8.ofNat (upperHexDigit (b.toNat / 16)).toNat,
      UInt8.ofNat (upperHexDigit (b.toNat % 16)).toNat] := by
    rw [escapedByte, encode, List.flatMap_cons, List.flatMap_cons, List.flatMap_cons,
      utf8EncodeChar_of_ascii hiAscii, utf8EncodeChar_of_ascii loAscii]
    rfl
  have value : UInt8.ofNat (b.toNat / 16) * 16 + UInt8.ofNat (b.toNat % 16) = b := by
    apply UInt8.toNat_inj.1
    rw [UInt8.toNat_add, UInt8.toNat_mul, toNat_byte (by omega), toNat_byte (by omega)]
    show (b.toNat / 16 * 16 % 256 + b.toNat % 16) % 256 = b.toNat
    omega
  rw [hencode]
  show percentDecode (percentSign :: _ :: _ :: rest) = _
  rw [percentDecode, if_pos (beq_self_eq_true _), hi, lo]
  simp only [value]

theorem percentDecode_escapedBytes (bs rest : Bytes) :
    percentDecode (encode (bs.flatMap escapedByte) ++ rest) = bs ++ percentDecode rest := by
  induction bs with
  | nil => rfl
  | cons b others ih =>
    rw [List.flatMap_cons, encode_append, List.append_assoc, percentDecode_escapedByte, ih,
      List.cons_append]

/-- A text that was escaped, but for some plain characters, is read back byte for byte. -/
theorem percentDecode_percentEncode {plain : Char → Bool}
    (harmless : ∀ c, plain c = true → c.toNat < 0x80 ∧ c ≠ '%') (s : List Char) :
    percentDecode (encode (percentEncode plain s)) = encode s := by
  induction s with
  | nil => rfl
  | cons c rest ih =>
    rw [percentEncode, List.flatMap_cons, encode_append, encode_cons]
    show percentDecode (_ ++ encode (percentEncode plain rest)) = _
    split
    next isPlain =>
      -- the character stands for itself
      obtain ⟨ascii, unescaped⟩ := harmless c isPlain
      have differs : UInt8.ofNat c.toNat ≠ percentSign := by
        intro h
        have number : c.toNat = '%'.toNat := by
          rw [← toNat_byte (Nat.lt_trans ascii (by decide)), h]
          rfl
        exact unescaped (by rw [← Char.ofNat_toNat c, number]; rfl)
      rw [encode, List.flatMap_singleton, utf8EncodeChar_of_ascii ascii, List.singleton_append,
        percentDecode_cons_of_ne differs, ih, List.singleton_append]
    next => rw [percentDecode_escapedBytes, ih]

end StaticSite.Text
