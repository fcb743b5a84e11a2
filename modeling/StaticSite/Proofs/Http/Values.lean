/-
  HEADER TEXTS: a plain text may stand in a header, and the header gives it back.

  Lengths, ranges and dates are plain; a media type or a boundary that comes from outside need not
  be, and such a header may be dropped.
-/
import StaticSite.Proofs.Text.Bytes
import StaticSite.Http.Header

namespace StaticSite.Http

open Text (isPlain isPlainChar)

/-- The byte of a plain character is its number. -/
theorem toNat_byte_of_plain {c : Char} (h : isPlainChar c = true) :
    c.val.toUInt8.toNat = c.toNat := by
  rw [isPlainChar, Bool.and_eq_true, decide_eq_true_iff, decide_eq_true_iff] at h
  rw [UInt32.toNat_toUInt8]
  exact Nat.mod_eq_of_lt (Nat.lt_trans h.2 (by decide))

/-- The byte of a plain character may stand in a value, and is one that a text may have. -/
theorem isValueByte_of_plain {c : Char} (h : isPlainChar c = true) :
    isValueByte c.val.toUInt8 = true ∧ c.val.toUInt8 < 127 := by
  have number := toNat_byte_of_plain h
  rw [isPlainChar, Bool.and_eq_true, decide_eq_true_iff, decide_eq_true_iff] at h
  have low : 32 ≤ c.val.toUInt8 := UInt8.le_iff_toNat_le.2 (number ▸ h.1)
  have high : c.val.toUInt8 < 127 := UInt8.lt_iff_toNat_lt.2 (number ▸ h.2)
  refine ⟨?_, high⟩
  rw [isValueByte, Bool.or_eq_true, Bool.and_eq_true]
  exact .inl ⟨decide_eq_true low, bne_iff_ne.2 (UInt8.ne_of_lt high)⟩

/-- A plain text is an allowed value, and is the text of that value. -/
theorem exists_value_of_plain {s : String} (h : isPlain s = true) :
    ∃ v, HeaderValue.ofString? s = some v ∧ v.text? = some s := by
  have each : ∀ c ∈ s.toList, isPlainChar c = true := List.all_eq_true.1 h
  have bytes := Text.utf8_of_plain h
  have allowed : (Text.utf8 s).all isValueByte = true := by
    rw [bytes, List.all_map]
    exact List.all_eq_true.2 fun c hc => (isValueByte_of_plain (each c hc)).1
  have ascii : ((Text.utf8 s).all fun b => b < 127) = true := by
    rw [bytes, List.all_map]
    exact List.all_eq_true.2 fun c hc => decide_eq_true (isValueByte_of_plain (each c hc)).2
  have back : ((Text.utf8 s).map fun b => Char.ofNat b.toNat) = s.toList := by
    rw [bytes, List.map_map]
    calc s.toList.map ((fun b : UInt8 => Char.ofNat b.toNat) ∘ fun c => c.val.toUInt8)
        = s.toList.map id := List.map_congr_left fun c hc => by
          show Char.ofNat c.val.toUInt8.toNat = c
          rw [toNat_byte_of_plain (each c hc), Char.ofNat_toNat]
      _ = s.toList := List.map_id _
  refine ⟨⟨Text.utf8 s, allowed⟩, dif_pos allowed, ?_⟩
  rw [HeaderValue.text?, if_pos ascii, back, String.ofList_toList]

end StaticSite.Http
