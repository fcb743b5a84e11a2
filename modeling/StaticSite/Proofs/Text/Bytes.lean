/-
  BYTES OF A TEXT: how many there are, and what they are where the text is plain.

  The encoding of a text is the encodings of its characters one after the other, and as long as
  `String.utf8ByteSize` says.  A character of printable ASCII is one byte, its own number; a text of
  such characters is PLAIN, and numbers in decimal are.
-/
import StaticSite.Text.Utf8

namespace StaticSite.Text

theorem length_utf8 (s : String) : (utf8 s).length = s.utf8ByteSize := by
  calc (encode s.toList).length = s.toList.utf8Encode.size := by
        rw [encode, List.utf8Encode, List.size_toByteArray]
    _ = s.utf8ByteSize := by rw [String.utf8Encode_toList, String.size_toByteArray]

/-! ## Plain text -/

/-- Printable ASCII, the blank included. -/
def isPlainChar (c : Char) : Bool := 32 ≤ c.toNat && c.toNat < 127

/-- Nothing but printable ASCII. -/
def isPlain (s : String) : Bool := s.toList.all isPlainChar

/-- A plain character is one byte. -/
theorem utf8EncodeChar_of_plain {c : Char} (h : isPlainChar c = true) :
    String.utf8EncodeChar c = [c.val.toUInt8] := by
  rw [isPlainChar, Bool.and_eq_true, decide_eq_true_iff, decide_eq_true_iff] at h
  have hle : c.val ≤ 127 := UInt32.le_iff_toNat_le.2 (Nat.le_of_lt h.2)
  exact String.utf8EncodeChar_eq_singleton (Char.utf8Size_eq_one_iff.2 hle)

/-- The bytes of plain text are the numbers of its characters. -/
theorem utf8_of_plain {s : String} (h : isPlain s = true) :
    utf8 s = s.toList.map fun c => c.val.toUInt8 := by
  have each := List.all_eq_true.1 h
  rw [utf8, encode]
  generalize s.toList = cs at each
  induction cs with
  | nil => rfl
  | cons c rest ih =>
    rw [List.flatMap_cons, utf8EncodeChar_of_plain (each c List.mem_cons_self),
      ih fun d hd => each d (List.mem_cons_of_mem c hd)]
    rfl

theorem isPlain_append {s t : String} (hs : isPlain s = true) (ht : isPlain t = true) :
    isPlain (s ++ t) = true := by
  rw [isPlain, String.toList_append, List.all_append, Bool.and_eq_true]
  exact ⟨hs, ht⟩

theorem isPlainChar_of_isDigit {c : Char} (h : c.isDigit = true) : isPlainChar c = true := by
  rw [Char.isDigit, Bool.and_eq_true, decide_eq_true_iff, decide_eq_true_iff] at h
  have low : 48 ≤ c.toNat := UInt32.le_iff_toNat_le.1 h.1
  have high : c.toNat ≤ 57 := UInt32.le_iff_toNat_le.1 h.2
  rw [isPlainChar, Bool.and_eq_true, decide_eq_true_iff, decide_eq_true_iff]
  omega

/-- A number in decimal is plain. -/
theorem isPlain_toString (n : Nat) : isPlain (toString n) = true := by
  refine List.all_eq_true.2 fun c hc => ?_
  have digit : c ∈ Nat.toDigits 10 n := by simpa using hc
  exact isPlainChar_of_isDigit (Nat.isDigit_of_mem_toDigits (by decide) (by decide) digit)

end StaticSite.Text
