/-
  LAYOUTS: which parts stand for some ranges, and how long their body is.

  The bridge from specs to the parts of a multipart body is a relation (`Lays`) between a part and
  the two ends of a range; the parts that are laid out are so related to the ranges that select
  something, one by one and in order (`exists_partsOf`).  How long the body is follows from these
  ranges (`bodyLength`).

  What becomes of a plan is said once (`Built`): there is none if no range selects anything; else it
  has the parts of all that do and announces the length of their body, unless that is no word
  (`built_of_uncrossed`).  The sum is worked out part by part, and a sum on the way is never greater
  than the last one (`lengthFrom_eq_ok_iff`).

  Numbered structure:
    §1  parts
    §2  lengths
    §3  plans
-/
import Mathlib.Data.List.Forall2
import StaticSite.Proofs.Range.Clip
import StaticSite.Proofs.Stream.Progress

namespace StaticSite.Stream

open Range (Spec Part Plan)

/-! ## §1 Parts -/

/-- The Content-Range of the positions from `a` to `b`. -/
def rangeText (a b total : Nat) : String :=
  "bytes " ++ toString a ++ "-" ++ toString b ++ "/" ++ toString total

/-- What stands in front of the slice of a range. -/
def announcement (boundary contentType : String) (total : Nat) (ends : Nat × Nat) : String :=
  "\r\n--" ++ boundary ++ "\r\nContent-type: " ++ contentType ++ "\r\nContent-range: "
    ++ rangeText ends.1 ends.2 total ++ "\r\n\r\n"

variable {boundary contentType : String} {total : UInt64}

/-- The part that stands for the range from `ends.1` to `ends.2`. -/
structure Lays (boundary contentType : String) (total : UInt64) (part : Part) (ends : Nat × Nat) :
    Prop where
  separator : part.separator = announcement boundary contentType total.toNat ends
  offset : part.offset.toNat = ends.1
  size : part.size.toNat = ends.2 + 1 - ends.1
  le : ends.1 ≤ ends.2 + 1
  lt : ends.2 < total.toNat

theorem partOf?_of_clip_none {spec : Spec} (h : spec.clip total.toNat = none) :
    Range.partOf? total contentType boundary spec = .ok none := by
  rw [Range.partOf?, Range.resolve_of_clip_none h]
  rfl

/-- A range that selects something has a part. -/
theorem exists_partOf? {spec : Spec} {ends : Nat × Nat} (uncrossed : spec.Uncrossed total.toNat)
    (h : spec.clip total.toNat = some ends) :
    ∃ part, Range.partOf? total contentType boundary spec = .ok (some part) ∧
      Lays boundary contentType total part ends := by
  obtain ⟨a, b⟩ := ends
  obtain ⟨range, resolved, spans⟩ := Range.exists_spans_of_clip uncrossed h
  obtain ⟨hle, hlt⟩ := Range.le_succ_and_lt_of_clip uncrossed h
  refine ⟨⟨Range.separator boundary contentType (rangeText a b total.toNat), range.offset, range.size⟩,
    ?_, rfl, spans.offset, spans.size, hle, hlt⟩
  rw [Range.partOf?, resolved]
  show (if range.isSatisfiable = true then _ else _ : Except Overflow (Option Part)) = _
  rw [if_pos spans.isSatisfiable, spans.contentRange hlt]
  rfl

/-- The parts are those of the ranges that select something, in order. -/
theorem exists_partsOf (contentType boundary : String) {specs : List Spec}
    (uncrossed : ∀ spec ∈ specs, spec.Uncrossed total.toNat) :
    ∃ parts, Range.partsOf total contentType boundary specs = .ok parts ∧
      List.Forall₂ (Lays boundary contentType total) parts (specs.filterMap (·.clip total.toNat)) := by
  induction specs with
  | nil => exact ⟨[], rfl, .nil⟩
  | cons spec rest ih =>
    obtain ⟨hspec, hrest⟩ := List.forall_mem_cons.1 uncrossed
    obtain ⟨others, hothers, lays⟩ := ih hrest
    cases hclip : spec.clip total.toNat with
    | none =>
      refine ⟨others, ?_, ?_⟩
      · rw [Range.partsOf, partOf?_of_clip_none hclip, hothers]
        rfl
      · simp only [List.filterMap_cons, hclip]
        exact lays
    | some ends =>
      obtain ⟨part, hpart, first⟩ := exists_partOf? hspec hclip
      refine ⟨part :: others, ?_, ?_⟩
      · rw [Range.partsOf, hpart, hothers]
        rfl
      · simp only [List.filterMap_cons, hclip]
        exact .cons first lays

/-- A spec that overflows is not left out. -/
theorem partsOf_of_overflow {spec : Spec} (h : spec.resolve total = .error ⟨⟩) {specs : List Spec}
    (mem : spec ∈ specs) : Range.partsOf total contentType boundary specs = .error ⟨⟩ := by
  induction specs with
  | nil => cases mem
  | cons first rest ih =>
    rw [Range.partsOf]
    rcases List.mem_cons.1 mem with rfl | inRest
    · rw [Range.partOf?, h]
      rfl
    · rw [ih inRest]
      cases Range.partOf? total contentType boundary first <;> rfl

/-- The parts of a multipart body: those of the ranges, and the closing one. -/
def multipartParts (boundary : String) (slices : List Part) : List Part :=
  slices ++ [⟨Range.closing boundary, 0, 0⟩]

/-! ## §2 Lengths -/

/-- The bytes of a multipart body: those of each announcement and of each slice, and those of the
    closing delimiter. -/
def bodyLength (boundary contentType : String) (total : Nat) (ranges : List (Nat × Nat)) : Nat :=
  ranges.foldr (fun ends length =>
      (announcement boundary contentType total ends).utf8ByteSize + (ends.2 + 1 - ends.1) + length)
    ("\r\n--" ++ boundary ++ "--\r\n").utf8ByteSize

/-- The bytes of the parts and of the closing delimiter are those of the ranges. -/
theorem partsLength_of_lays {slices : List Part} {ranges : List (Nat × Nat)}
    (h : List.Forall₂ (Lays boundary contentType total) slices ranges) :
    partsLength (multipartParts boundary slices) = bodyLength boundary contentType total.toNat ranges := by
  induction h with
  | nil => rfl
  | cons first _ ih =>
    rw [multipartParts, List.cons_append, partsLength, partLength, first.separator, first.size]
    exact congrArg (_ + ·) ih

theorem length_eq_ok_iff {part : Part} {w : UInt64} :
    part.length = .ok w ↔ partLength part = w.toNat := Word.ofNat_eq_ok_iff

/-- A number that is not too great is that of a word. -/
theorem exists_word {n : Nat} (small : n < UInt64.size) : ∃ w : UInt64, n = w.toNat :=
  ⟨UInt64.ofNat n, (UInt64.toNat_ofNat_of_lt' small).symm⟩

/-- No sum on the way is too great if the last is not: each is at most the next. -/
theorem lengthFrom_eq_ok_iff {length : UInt64} {parts : List Part} {w : UInt64} :
    Range.lengthFrom length parts = .ok w ↔ length.toNat + partsLength parts = w.toNat := by
  induction parts generalizing length with
  | nil => rw [Range.lengthFrom, Except.ok.injEq, ← UInt64.toNat_inj, partsLength, Nat.add_zero]
  | cons part rest ih =>
    rw [Range.lengthFrom, Range.bind_eq_ok_iff, partsLength]
    constructor
    · rintro ⟨size, hsize, hrest⟩
      obtain ⟨next, hnext, hrest⟩ := Range.bind_eq_ok_iff.1 hrest
      have := length_eq_ok_iff.1 hsize
      have := Word.sum_eq_ok_iff.1 hnext
      have := ih.1 hrest
      omega
    · intro h
      have bound := w.toNat_lt_size
      obtain ⟨size, hsize⟩ := exists_word (n := partLength part) (by omega)
      obtain ⟨next, hnext⟩ := exists_word (n := length.toNat + partLength part) (by omega)
      refine ⟨size, length_eq_ok_iff.2 hsize, Range.bind_eq_ok_iff.2 ⟨next, ?_, ?_⟩⟩
      · exact Word.sum_eq_ok_iff.2 (hsize ▸ hnext)
      · exact ih.2 (by omega)

/-! ## §3 Plans -/

/-- What laying out some ranges comes to. -/
inductive Built (boundary contentType : String) (total : UInt64) (ranges : List (Nat × Nat)) :
    Except Overflow (Option Plan) → Prop
  | nothing (none : ranges = []) : Built boundary contentType total ranges (.ok .none)
  | plan {slices : List Part} {length : UInt64} (some : ranges ≠ [])
      (lays : List.Forall₂ (Lays boundary contentType total) slices ranges)
      (announced : length.toNat = bodyLength boundary contentType total.toNat ranges) :
      Built boundary contentType total ranges
        (.ok (.some ⟨boundary, multipartParts boundary slices, length⟩))
  | overflow (some : ranges ≠ [])
      (long : UInt64.size ≤ bodyLength boundary contentType total.toNat ranges) :
      Built boundary contentType total ranges (.error ⟨⟩)

theorem built_of_uncrossed (contentType boundary : String) {specs : List Spec}
    (uncrossed : ∀ spec ∈ specs, spec.Uncrossed total.toNat) :
    Built boundary contentType total (specs.filterMap (·.clip total.toNat))
      (Plan.build specs total contentType boundary) := by
  obtain ⟨slices, hslices, lays⟩ := exists_partsOf contentType boundary uncrossed
  have whole := partsLength_of_lays lays
  rw [Plan.build, hslices]
  cases slices with
  | nil => exact .nothing (List.forall₂_nil_left_iff.1 lays)
  | cons part rest =>
    have some : specs.filterMap (·.clip total.toNat) ≠ [] := by
      intro none
      rw [none] at lays
      cases lays
    show Built _ _ _ _ (Range.lengthFrom 0 (multipartParts boundary (part :: rest)) >>= _)
    cases hlength : Range.lengthFrom 0 (multipartParts boundary (part :: rest)) with
    | ok length =>
      have sum := lengthFrom_eq_ok_iff.1 hlength
      rw [UInt64.toNat_zero, Nat.zero_add, whole] at sum
      exact .plan some lays sum.symm
    | error overflow =>
      refine .overflow some (Nat.not_lt.1 fun small => ?_)
      obtain ⟨length, hword⟩ := exists_word small
      have sum : Range.lengthFrom 0 (multipartParts boundary (part :: rest)) = .ok length :=
        lengthFrom_eq_ok_iff.2 (by rw [UInt64.toNat_zero, Nat.zero_add, whole, hword])
      rw [hlength] at sum
      cases sum

end StaticSite.Stream
