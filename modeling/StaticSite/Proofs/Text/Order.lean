/-
  ORDER: texts stand in the order of their bytes.

  The bytes of a larger character are larger, whatever follows either (`utf8EncodeChar_append_lt`): the
  first byte of a longer sequence is larger, and sequences of one length hold the number of their
  character in the order of its digits.  So a larger text has larger bytes (`encode_lt_encode`), and as
  texts and bytes alike stand in one row, they stand in the same (`utf8_lt_iff`, `utf8_le_iff`).
-/
import StaticSite.Proofs.Text.RoundTrip

namespace StaticSite.Text

/-- The bytes of the smaller character are smaller, whatever follows. -/
theorem utf8EncodeChar_append_lt {c d : Char} (h : c < d) (x y : Bytes) :
    String.utf8EncodeChar c ++ x < String.utf8EncodeChar d ++ y := by
  have less : c.val.toNat < d.val.toNat := UInt32.lt_iff_toNat_lt.1 h
  have bound : d.val.toNat < 0x110000 := by
    have valid : d.toNat < 0xD800 ∨ 0xDFFF < d.toNat ∧ d.toNat < 0x110000 := d.valid
    have number : d.val.toNat = d.toNat := rfl
    omega
  unfold String.utf8EncodeChar
  generalize c.val.toNat = m at less
  generalize d.val.toNat = n at less bound
  dsimp only
  have digits (k : Nat) : m / k < n / k ∨ m / k = n / k :=
    Nat.lt_or_eq_of_le (Nat.div_le_div_right (Nat.le_of_lt less))
  have first := digits 0x40000
  have second := digits 0x1000
  have third := digits 0x40
  -- sequences of different lengths differ in their first bytes, others in some digit
  repeat' split
  all_goals
    simp only [List.cons_append, List.cons_lt_cons_iff, UInt8.lt_iff_toNat_lt, ← UInt8.toNat_inj,
      UInt8.toNat_ofNat']
  all_goals
    rcases first with _ | _ <;> rcases second with _ | _ <;> rcases third with _ | _ <;> omega

theorem encode_lt_encode {s t : List Char} (h : s < t) : encode s < encode t := by
  induction s generalizing t with
  | nil =>
    cases t with
    | nil => exact absurd h (List.not_lt_nil _)
    | cons d t =>
      obtain ⟨b, rest, hbytes⟩ := List.exists_cons_of_ne_nil (encode_ne_nil (List.cons_ne_nil d t))
      rw [hbytes]
      exact List.nil_lt_cons b rest
  | cons c s ih =>
    cases t with
    | nil => exact absurd h (List.not_lt_nil _)
    | cons d t =>
      rw [encode_cons, encode_cons]
      rcases List.cons_lt_cons_iff.1 h with less | ⟨rfl, less⟩
      · exact utf8EncodeChar_append_lt less _ _
      · exact List.append_left_lt (ih less)

theorem utf8_lt_iff {a b : String} : utf8 a < utf8 b ↔ a < b := by
  refine ⟨fun h => ?_, encode_lt_encode⟩
  rcases Std.lt_trichotomy a b with less | rfl | greater
  · exact less
  · exact absurd h (List.lt_irrefl _)
  · exact absurd h (List.lt_asymm (encode_lt_encode greater))

theorem utf8_le_iff {a b : String} : utf8 a ≤ utf8 b ↔ a ≤ b := by
  rw [← List.not_lt, utf8_lt_iff, String.not_lt]

end StaticSite.Text
