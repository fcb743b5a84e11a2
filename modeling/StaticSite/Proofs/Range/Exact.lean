/-
  EXACT INTERVALS: a spec that was read from a header is resolved to what it asks for.

  Positions and sizes are words.  What is worked out for such a spec never leaves them: there is an
  interval, and if it selects anything, a last position and a Content-Range value.  The interval has
  the positions that the spec wants and that are there, and no others (`resolve_is_exact`).
-/
import StaticSite.Proofs.Range.Clip

namespace StaticSite.Range

variable {range : Interval} {a b : Nat} {total : UInt64}

/-- The interval is what a spec asks for and is there, in a resource of `total` bytes; the values
    that are worked out from it are words. -/
structure Interval.IsExactly (range : Interval) (spec : Spec) (total : UInt64) : Prop where
  /-- The positions of the interval are those inside the resource that are wanted. -/
  positions : ∀ position,
    (range.offset.toNat ≤ position ∧ position < range.offset.toNat + range.size.toNat)
      ↔ position < total.toNat ∧ spec.Wants total.toNat position
  /-- Of the last so many positions there are as many as the resource has. -/
  suffix : ∀ wanted, spec = ⟨.none, .some wanted⟩ → range.size.toNat = min wanted.toNat total.toNat
  /-- The interval of nothing stands for nothing else. -/
  nothing : range = .none ↔ ∀ position < total.toNat, ¬spec.Wants total.toNat position
  satisfiable : range.isSatisfiable = true
    ↔ ∃ position < total.toNat, spec.Wants total.toNat position
  /-- The last position is inside, the size counts the positions from the first to the last, and the
      Content-Range value names both. -/
  last : range.isSatisfiable = true → ∃ last, range.last = .ok last ∧
    last < total ∧ range.offset ≤ last ∧ last.toNat - range.offset.toNat + 1 = range.size.toNat ∧
    range.contentRange total = .ok ("bytes " ++ toString range.offset.toNat ++ "-"
      ++ toString last.toNat ++ "/" ++ toString total.toNat)

/-- An interval with ends has the positions between them. -/
theorem Interval.Covers.mem_iff (covers : range.Covers a b) (position : Nat) :
    (range.offset.toNat ≤ position ∧ position < range.offset.toNat + range.size.toNat)
      ↔ a ≤ position ∧ position ≤ b := by
  have hoffset := covers.offset
  have hsize := covers.size
  have hle := covers.le
  omega

theorem isExactly_of_covers {spec : Spec} (ordered : spec.Ordered)
    (h : spec.clip total.toNat = some (a, b)) (covers : range.Covers a b) :
    range.IsExactly spec total := by
  have wants := wants_iff_of_clip h
  obtain ⟨hle, inside⟩ := le_and_lt_of_clip ordered h
  have first : a < total.toNat ∧ spec.Wants total.toNat a := (wants a).2 ⟨Nat.le_refl a, hle⟩
  have satisfiable := covers.spans.isSatisfiable
  have hoffset := covers.offset
  have hsize := covers.size
  constructor
  case positions =>
    intro position
    rw [covers.mem_iff, wants]
  case suffix =>
    rintro wanted rfl
    simp only [Spec.clip, Option.ite_none_right_eq_some, Option.some.injEq, Prod.mk.injEq] at h
    omega
  case nothing =>
    constructor
    · intro none
      rw [none] at satisfiable
      exact absurd satisfiable (by decide)
    · intro unwanted
      exact absurd first.2 (unwanted a first.1)
  case satisfiable =>
    constructor
    · intro _
      exact ⟨a, first⟩
    · intro _
      exact satisfiable
  case last =>
    intro _
    have hlast := UInt64.toNat_ofNat_of_lt' (Nat.lt_trans inside total.toNat_lt_size)
    refine ⟨UInt64.ofNat b, covers.spans.last inside, ?_, ?_, ?_, ?_⟩
    · rw [UInt64.lt_iff_toNat_lt, hlast]
      exact inside
    · rw [UInt64.le_iff_toNat_le, hlast]
      omega
    · omega
    · rw [covers.spans.contentRange inside, hoffset, hlast]

theorem isExactly_of_clip_none {spec : Spec} (h : spec.clip total.toNat = none) :
    Interval.none.IsExactly spec total := by
  have unwanted : ∀ position < total.toNat, ¬spec.Wants total.toNat position := by
    intro position inside
    exact not_wants_of_clip h inside
  have unsatisfiable : ¬Interval.none.isSatisfiable = true := by decide
  constructor
  case positions =>
    intro position
    constructor
    · rintro ⟨_, below⟩
      exact absurd below (Nat.not_lt_zero position)
    · rintro ⟨inside, wanted⟩
      exact absurd wanted (unwanted position inside)
  case suffix =>
    rintro wanted rfl
    simp only [Spec.clip, ite_eq_right_iff, reduceCtorEq, imp_false] at h
    show 0 = _
    omega
  case nothing =>
    constructor
    · intro _
      exact unwanted
    · intro _
      rfl
  case satisfiable =>
    constructor
    · intro satisfiable
      exact absurd satisfiable unsatisfiable
    · rintro ⟨position, inside, wanted⟩
      exact absurd wanted (unwanted position inside)
  case last => exact fun satisfiable => absurd satisfiable unsatisfiable

/-- Whatever a header asks for of a resource of any size, each of its specs is resolved, without an
    overflow, to exactly the positions that it asks for and that are there. -/
theorem resolve_is_exact {header : String} {specs : List Spec}
    (accepted : parseHeader header = .ok specs) {spec : Spec} (named : spec ∈ specs)
    (total : UInt64) : ∃ range, spec.resolve total = .ok range ∧ range.IsExactly spec total := by
  have ordered := (ordered_of_parseHeader accepted).2 spec named
  cases h : spec.clip total.toNat with
  | none => exact ⟨.none, resolve_of_clip_none h, isExactly_of_clip_none h⟩
  | some ends =>
    obtain ⟨range, resolved, covers⟩ := exists_covers_of_clip ordered (a := ends.1) (b := ends.2) h
    exact ⟨range, resolved, isExactly_of_covers ordered h covers⟩

/-- The end of the greatest resource, asked for up to the greatest word, and more than all of a short
    one from its end. -/
theorem resolve_is_exact_at_greatest_words :
    let header := "bytes=18446744073709551614-18446744073709551615, -18446744073709551615"
    let toTheEnd : Spec := ⟨some 18446744073709551614, some 18446744073709551615⟩
    let all : Spec := ⟨none, some 18446744073709551615⟩
    parseHeader header = .ok [toTheEnd, all] ∧
      toTheEnd.resolve 18446744073709551615 = .ok ⟨18446744073709551614, 1⟩ ∧
      (∃ range, toTheEnd.resolve 18446744073709551615 = .ok range ∧
        range.IsExactly toTheEnd 18446744073709551615) ∧
      ∃ range, all.resolve 0 = .ok range ∧ range.IsExactly all 0 := by
  intro header toTheEnd all
  have accepted : parseHeader header = .ok [toTheEnd, all] :=
    parseHeader_of_toOption (by decide +kernel)
  refine ⟨accepted, rfl, ?_, ?_⟩
  · exact resolve_is_exact accepted List.mem_cons_self 18446744073709551615
  · exact resolve_is_exact accepted (List.mem_cons_of_mem _ List.mem_cons_self) 0

end StaticSite.Range
