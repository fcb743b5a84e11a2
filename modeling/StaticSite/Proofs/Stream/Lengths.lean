/-
  LENGTHS: when a plan announces the length of its body.

  How long a multipart body is follows from its ranges (`bodyLength`).  A plan sums up the bytes of its
  parts in words.  Ranges may overlap, and each of them may be as long as the resource, so that the
  sum need not be a word: then it overflows, and there is no plan.  Two ranges of the greatest file
  there can be are enough (`length_overflows`).

  There is a plan for some ranges exactly if the length of their body is a word, and then that is
  what it announces (`contentLength_of_plan`).

  Numbered structure:
    §1  how long a body can be
    §2  what a plan announces
-/
import StaticSite.Proofs.Stream.Download
import StaticSite.Word

namespace StaticSite.Stream

open Range (Spec Part Plan)

/-! ## §1 How long a body can be -/

/-- A word has at most twenty digits. -/
theorem utf8ByteSize_toString_le {n : Nat} (word : n < UInt64.size) : (toString n).utf8ByteSize ≤ 20 := by
  have digits : (toString n).toList = Nat.toDigits 10 n := String.toList_ofList
  have few : (Nat.toDigits 10 n).length ≤ 20 :=
    (Nat.length_toDigits_le_iff (by decide) (by decide)).2 (Nat.lt_trans word (by decide))
  rw [← Text.length_utf8, Text.utf8_of_plain (Text.isPlain_toString n), List.length_map, digits]
  exact few

/-- The most bytes that stand in front of a slice: what is the same for every part of a body, two
    header lines, and three numbers. -/
def longestAnnouncement (boundary contentType : String) : Nat :=
  109 + boundary.utf8ByteSize + contentType.utf8ByteSize

theorem utf8ByteSize_announcement_le {total : Nat} (word : total < UInt64.size) {ends : Nat × Nat}
    (first : ends.1 ≤ total) (last : ends.2 < total) (boundary contentType : String) :
    (announcement boundary contentType total ends).utf8ByteSize
      ≤ longestAnnouncement boundary contentType := by
  have hfirst : (toString ends.1).utf8ByteSize ≤ 20 := utf8ByteSize_toString_le (by omega)
  have hlast : (toString ends.2).utf8ByteSize ≤ 20 := utf8ByteSize_toString_le (by omega)
  have htotal : (toString total).utf8ByteSize ≤ 20 := utf8ByteSize_toString_le word
  have opening : "\r\n--".utf8ByteSize = 4 := rfl
  have type : "\r\nContent-type: ".utf8ByteSize = 16 := rfl
  have range : "\r\nContent-range: ".utf8ByteSize = 17 := rfl
  have bytes : "bytes ".utf8ByteSize = 6 := rfl
  have hyphen : "-".utf8ByteSize = 1 := rfl
  have slash : "/".utf8ByteSize = 1 := rfl
  have blankLine : "\r\n\r\n".utf8ByteSize = 4 := rfl
  simp only [announcement, rangeText, longestAnnouncement, String.utf8ByteSize_append, opening, type,
    range, bytes, hyphen, slash, blankLine]
  omega

variable {boundary contentType : String} {total : UInt64}

/-- A body is no longer than one that names every range with the longest announcement and holds the
    whole resource for it. -/
theorem bodyLength_le {ranges : List (Nat × Nat)}
    (inside : ∀ ends ∈ ranges, ends.1 ≤ ends.2 + 1 ∧ ends.2 < total.toNat) :
    bodyLength boundary contentType total.toNat ranges
      ≤ ranges.length * (longestAnnouncement boundary contentType + total.toNat)
        + ("\r\n--" ++ boundary ++ "--\r\n").utf8ByteSize := by
  induction ranges with
  | nil => exact Nat.le_add_left _ _
  | cons ends rest ih =>
    obtain ⟨⟨hle, hlt⟩, hrest⟩ := List.forall_mem_cons.1 inside
    have announced := utf8ByteSize_announcement_le total.toNat_lt_size (by omega) hlt boundary contentType
    have behind := ih hrest
    rw [List.length_cons, Nat.succ_mul]
    show (announcement boundary contentType total.toNat ends).utf8ByteSize + (ends.2 + 1 - ends.1)
      + bodyLength boundary contentType total.toNat rest ≤ _
    omega

/-- The ranges of some specs are no more than these, and lie inside the resource. -/
theorem bodyLength_clip_le (boundary contentType : String) {specs : List Spec}
    (uncrossed : ∀ spec ∈ specs, spec.Uncrossed total.toNat) :
    bodyLength boundary contentType total.toNat (specs.filterMap (·.clip total.toNat))
      ≤ specs.length * (longestAnnouncement boundary contentType + total.toNat)
        + ("\r\n--" ++ boundary ++ "--\r\n").utf8ByteSize := by
  have inside : ∀ ends ∈ specs.filterMap (·.clip total.toNat),
      ends.1 ≤ ends.2 + 1 ∧ ends.2 < total.toNat := by
    intro ends hends
    obtain ⟨spec, hspec, hclip⟩ := List.mem_filterMap.1 hends
    exact Range.le_succ_and_lt_of_clip (uncrossed spec hspec) hclip
  have count : (specs.filterMap (·.clip total.toNat)).length ≤ specs.length :=
    List.length_filterMap_le _ specs
  exact Nat.le_trans (bodyLength_le inside)
    (Nat.add_le_add_right (Nat.mul_le_mul_right _ count) _)

/-! ## §2 What a plan announces -/

/-- What is announced for the ranges of a header is the length of their body, to the byte, if that
    length is a word; else the sum overflows and nothing is announced.  It is a word if the ranges
    are not too many for the size of the resource. -/
theorem contentLength_of_plan {header : String} {specs : List Spec}
    (accepted : Range.parseHeader header = .ok specs) (total : UInt64) (contentType boundary : String) :
    let ranges := specs.filterMap (·.clip total.toNat)
    let length := bodyLength boundary contentType total.toNat ranges
    (match Plan.build specs total contentType boundary with
    | .ok none => ranges = []
    | .ok (some plan) =>
      ranges ≠ [] ∧ partsLength plan.parts = length ∧ plan.contentLength.toNat = length ∧
      length < UInt64.size
    | .error _ => ranges ≠ [] ∧ UInt64.size ≤ length) ∧
    (specs.length * (longestAnnouncement boundary contentType + total.toNat)
        + ("\r\n--" ++ boundary ++ "--\r\n").utf8ByteSize < UInt64.size →
      length < UInt64.size) := by
  intro ranges length
  have ordered := (Range.ordered_of_parseHeader accepted).2
  have uncrossed : ∀ spec ∈ specs, spec.Uncrossed total.toNat :=
    fun spec hspec => (ordered spec hspec).uncrossed total.toNat
  constructor
  · have built := built_of_uncrossed contentType boundary uncrossed
    generalize Plan.build specs total contentType boundary = plan at built
    cases built with
    | nothing none => exact none
    | @plan _ word some lays announced =>
      have small : length < UInt64.size := lt_of_eq_of_lt announced.symm word.toNat_lt_size
      exact ⟨some, partsLength_of_lays lays, announced, small⟩
    | overflow some long => exact ⟨some, long⟩
  · intro enough
    exact Nat.lt_of_le_of_lt (bodyLength_clip_le boundary contentType uncrossed) enough

/-- The whole of the greatest file there can be, and once more its last bytes. -/
theorem length_of_greatest_file :
    let specs : List Spec := [⟨some 0, none⟩, ⟨none, some 5⟩]
    ∃ plan, Plan.build specs 9223372036854775807 "text/plain" "b" = .ok (some plan) ∧
      Range.parseHeader "bytes=0-,-5" = .ok specs ∧
      plan.contentLength.toNat = bodyLength "b" "text/plain" 9223372036854775807
        [(0, 9223372036854775806), (9223372036854775802, 9223372036854775806)] := by
  intro specs
  have accepted : Range.parseHeader "bytes=0-,-5" = .ok specs :=
    Range.parseHeader_of_toOption (by decide +kernel)
  have ranges : specs.filterMap (·.clip (9223372036854775807 : UInt64).toNat)
      = [(0, 9223372036854775806), (9223372036854775802, 9223372036854775806)] := by decide
  have small : bodyLength "b" "text/plain" (9223372036854775807 : UInt64).toNat
      (specs.filterMap (·.clip (9223372036854775807 : UInt64).toNat)) < UInt64.size := by
    rw [ranges]
    decide +kernel
  obtain ⟨built, -⟩ := contentLength_of_plan accepted 9223372036854775807 "text/plain" "b"
  split at built
  next => exact absurd (ranges.symm.trans built) (List.cons_ne_nil _ _)
  next plan laid => exact ⟨plan, laid, accepted, ranges ▸ built.2.2.1⟩
  next => exact absurd small (Nat.not_lt.2 built.2)

/-- The whole of that file twice: the body is longer than any word says, and there is no plan. -/
theorem length_overflows :
    let specs : List Spec := [⟨some 0, none⟩, ⟨some 0, none⟩]
    Range.parseHeader "bytes=0-,0-" = .ok specs ∧
    (9223372036854775807 : UInt64).toNat < signedSize ∧
    bodyLength "b" "text/plain" 9223372036854775807
      (specs.filterMap (·.clip 9223372036854775807)) = 18446744073709551821 ∧
    Plan.build specs 9223372036854775807 "text/plain" "b" = .error ⟨⟩ := by
  intro specs
  have accepted : Range.parseHeader "bytes=0-,0-" = .ok specs :=
    Range.parseHeader_of_toOption (by decide +kernel)
  have ranges : specs.filterMap (·.clip (9223372036854775807 : UInt64).toNat)
      = [(0, 9223372036854775806), (0, 9223372036854775806)] := by decide
  have long : bodyLength "b" "text/plain" (9223372036854775807 : UInt64).toNat
      (specs.filterMap (·.clip (9223372036854775807 : UInt64).toNat)) = 18446744073709551821 := by
    rw [ranges]
    decide +kernel
  refine ⟨accepted, by decide, long, ?_⟩
  have uncrossed : ∀ spec ∈ specs, spec.Uncrossed (9223372036854775807 : UInt64).toNat := by
    intro spec hspec
    exact ((Range.ordered_of_parseHeader accepted).2 spec hspec).uncrossed _
  have built := built_of_uncrossed "text/plain" "b" uncrossed
  generalize Plan.build specs 9223372036854775807 "text/plain" "b" = plan at built
  cases built with
  | nothing none => exact absurd (ranges.symm.trans none) (List.cons_ne_nil _ _)
  | @plan _ announced _ _ sum =>
    have := announced.toNat_lt_size
    rw [sum, long] at this
    exact absurd this (by decide)
  | overflow => rfl

end StaticSite.Stream
