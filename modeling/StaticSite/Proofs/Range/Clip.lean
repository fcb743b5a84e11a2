/-
  CLIPPING: which positions of a resource a spec selects.

  `Spec.Wants` says it position by position, from the meaning of a range alone; `Spec.clip` gives
  the first and the last of them, on plain numbers; `Spec.resolve` is the program, on words.  The
  three agree: the positions between the ends are those wanted (`wants_iff_of_clip`), no ends mean
  that nothing is wanted (`not_wants_of_clip`), and a spec is resolved to an interval with these ends
  (`exists_covers_of_clip`, `resolve_of_clip_none`).

  The last needs the order of the bounds, which `resolve` does not look at: a spec that was read
  from a header has it (`ordered_of_asked`).  Bounds that are next to each other the wrong way round
  still give an interval, an empty one (`exists_spans_of_clip`); further apart, the subtraction in
  `resolve` overflows.
-/
import Mathlib.Data.List.Forall2
import StaticSite.Range.Header

namespace StaticSite.Range

/-! ## What is wanted -/

/-- The order of bounds that a header guarantees: at least one, the first no greater. -/
def Spec.Ordered (spec : Spec) : Prop :=
  match spec.first, spec.last with
  | some first, some last => first ≤ last
  | some _, none => True
  | none, some _ => True
  | none, none => False

/-- The bounds are not crossed inside a resource of `total` bytes: the first is at most one past the
    last. -/
def Spec.Uncrossed (spec : Spec) (total : Nat) : Prop :=
  match spec.first, spec.last with
  | some first, some last => first.toNat < total → first.toNat ≤ last.toNat + 1
  | _, _ => True

theorem Spec.Ordered.uncrossed {spec : Spec} (ordered : spec.Ordered) (total : Nat) :
    spec.Uncrossed total := by
  obtain ⟨first, last⟩ := spec
  cases first with
  | none => trivial
  | some first =>
    cases last with
    | none => trivial
    | some last =>
      intro _
      have hle := UInt64.le_iff_toNat_le.1 (show first ≤ last from ordered)
      exact Nat.le_succ_of_le hle

/-- Whether a spec asks for a position of a resource of `total` bytes.  Without a first position it
    asks for the last so many. -/
def Spec.Wants (spec : Spec) (total position : Nat) : Prop :=
  match spec.first, spec.last with
  | some first, some last => first.toNat ≤ position ∧ position ≤ last.toNat
  | some first, none => first.toNat ≤ position
  | none, some wanted => total ≤ position + wanted.toNat
  | none, none => False

/-- The first and the last position that a spec selects, if it selects any. -/
def Spec.clip (spec : Spec) (total : Nat) : Option (Nat × Nat) :=
  match spec.first, spec.last with
  | some first, some last =>
    if first.toNat < total then some (first.toNat, min last.toNat (total - 1)) else none
  | some first, none => if first.toNat < total then some (first.toNat, total - 1) else none
  | none, some wanted =>
    if 0 < total ∧ 0 < wanted.toNat then some (total - wanted.toNat, total - 1) else none
  | none, none => none

/-- The ends are in order and inside the resource. -/
theorem le_and_lt_of_clip {spec : Spec} (ordered : spec.Ordered) {total a b : Nat}
    (h : spec.clip total = some (a, b)) : a ≤ b ∧ b < total := by
  obtain ⟨first, last⟩ := spec
  cases first <;> cases last <;> simp only [Spec.clip, Option.ite_none_right_eq_some,
    Option.some.injEq, Prod.mk.injEq, reduceCtorEq] at h
  · omega
  · omega
  · have := UInt64.le_iff_toNat_le.1 ordered
    omega

/-- Without the order of the bounds the first end is at most one past the last. -/
theorem le_succ_and_lt_of_clip {spec : Spec} {total a b : Nat} (uncrossed : spec.Uncrossed total)
    (h : spec.clip total = some (a, b)) : a ≤ b + 1 ∧ b < total := by
  obtain ⟨first, last⟩ := spec
  cases first <;> cases last <;> simp only [Spec.clip, Option.ite_none_right_eq_some,
    Option.some.injEq, Prod.mk.injEq, reduceCtorEq] at h
  · omega
  · omega
  · have := uncrossed h.1
    omega

/-- The positions between the ends are those that are wanted. -/
theorem wants_iff_of_clip {spec : Spec} {total a b : Nat} (h : spec.clip total = some (a, b))
    (position : Nat) : (position < total ∧ spec.Wants total position) ↔ a ≤ position ∧ position ≤ b := by
  obtain ⟨first, last⟩ := spec
  cases first <;> cases last <;> simp only [Spec.clip, Option.ite_none_right_eq_some,
    Option.some.injEq, Prod.mk.injEq, reduceCtorEq] at h <;> simp only [Spec.Wants]
  · omega
  · omega
  · omega

/-- No ends mean that nothing is wanted. -/
theorem not_wants_of_clip {spec : Spec} {total : Nat} (h : spec.clip total = none)
    {position : Nat} (inside : position < total) : ¬spec.Wants total position := by
  obtain ⟨first, last⟩ := spec
  cases first <;> cases last <;> simp only [Spec.clip, ite_eq_right_iff, reduceCtorEq, imp_false] at h <;>
    simp only [Spec.Wants]
  · exact not_false
  · omega
  · omega
  · omega

/-- The two ends are right: all the positions that are wanted lie between them and nothing else
    does, and without ends nothing is wanted. -/
def Spec.EndsAreRight (spec : Spec) (total : Nat) : Prop :=
  match spec.clip total with
  | some (a, b) =>
    a ≤ b ∧ b < total ∧
      ∀ position, (position < total ∧ spec.Wants total position) ↔ a ≤ position ∧ position ≤ b
  | none => ∀ position < total, ¬spec.Wants total position

theorem Spec.Ordered.endsAreRight {spec : Spec} (ordered : spec.Ordered) (total : Nat) :
    spec.EndsAreRight total := by
  unfold Spec.EndsAreRight
  split
  next a b h =>
    obtain ⟨hle, hlt⟩ := le_and_lt_of_clip ordered h
    exact ⟨hle, hlt, wants_iff_of_clip h⟩
  next h =>
    intro position inside
    exact not_wants_of_clip h inside

/-! ## What is resolved -/

/-- The interval has the positions from `a` to `b`, both ends counted. -/
structure Interval.Covers (i : Interval) (a b : Nat) : Prop where
  offset : i.offset.toNat = a
  size : i.size.toNat = b + 1 - a
  le : a ≤ b

/-- The same, or no position and `b` just in front of `a`. -/
structure Interval.Spans (i : Interval) (a b : Nat) : Prop where
  offset : i.offset.toNat = a
  size : i.size.toNat = b + 1 - a
  le : a ≤ b + 1

theorem Interval.Covers.spans {i : Interval} {a b : Nat} (h : i.Covers a b) : i.Spans a b :=
  ⟨h.offset, h.size, Nat.le_succ_of_le h.le⟩

/-- No position at all is still not the interval of a spec that selects nothing, as it does not
    start at the first position. -/
theorem Interval.Spans.isSatisfiable {i : Interval} {a b : Nat} (h : i.Spans a b) :
    i.isSatisfiable = true := by
  rw [Interval.isSatisfiable, bne_iff_ne]
  rintro rfl
  have hoffset : 0 = a := h.offset
  have hsize : 0 = b + 1 - a := h.size
  omega

theorem Interval.Covers.size_pos {i : Interval} {a b : Nat} (h : i.Covers a b) : 0 < i.size := by
  have := h.size
  have := h.le
  rw [UInt64.lt_iff_toNat_lt, UInt64.toNat_zero]
  omega

/-- Behind the last position lies the stop of the interval, which is a word. -/
theorem Interval.Spans.toNat_stop {i : Interval} {a b : Nat} (h : i.Spans a b) {total : UInt64}
    (inside : b < total.toNat) : (i.offset + i.size).toNat = b + 1 := by
  have bound := total.toNat_lt
  have hoffset := h.offset
  have hsize := h.size
  have hle := h.le
  rw [UInt64.toNat_add]
  omega

/-- The last position is worked out, and is that of the last byte. -/
theorem Interval.Spans.last {i : Interval} {a b : Nat} (h : i.Spans a b) {total : UInt64}
    (inside : b < total.toNat) : i.last = .ok (UInt64.ofNat b) := by
  have bound := total.toNat_lt_size
  have hoffset := h.offset
  have hsize := h.size
  have hle := h.le
  have hstop := h.toNat_stop inside
  have stop : Word.sum i.offset i.size = .ok (i.offset + i.size) :=
    Word.sum_eq_ok_iff.2 (by omega)
  rw [Interval.last, stop]
  show Word.difference _ 1 = _
  rw [Word.difference_eq_ok_iff, hstop, UInt64.toNat_ofNat_of_lt' (Nat.lt_trans inside bound),
    UInt64.toNat_one, Nat.add_comm]

/-- The Content-Range value names the two ends. -/
theorem Interval.Spans.contentRange {i : Interval} {a b : Nat} (h : i.Spans a b) {total : UInt64}
    (inside : b < total.toNat) : i.contentRange total
      = .ok ("bytes " ++ toString a ++ "-" ++ toString b ++ "/" ++ toString total.toNat) := by
  have hlast := UInt64.toNat_ofNat_of_lt' (Nat.lt_trans inside total.toNat_lt_size)
  rw [Interval.contentRange, h.last inside]
  show Except.ok _ = _
  rw [h.offset, hlast]

/-- Behind a position inside the resource there is another word. -/
theorem exists_stop {last total : UInt64} (below : last < total) :
    ∃ stop, Word.sum last 1 = .ok stop ∧ stop.toNat = last.toNat + 1 := by
  have hbelow := UInt64.lt_iff_toNat_lt.1 below
  have bound := total.toNat_lt_size
  have hstop : (UInt64.ofNat (last.toNat + 1)).toNat = last.toNat + 1 :=
    UInt64.toNat_ofNat_of_lt' (by omega)
  exact ⟨_, Word.sum_eq_ok_iff.2 hstop.symm, hstop⟩

/-- An interval that starts inside the resource and ends before `stop`. -/
theorem exists_spans_of_between {offset stop total : UInt64} (inside : offset.toNat < total.toNat)
    {b : Nat} (hstop : stop.toNat = b + 1) (le : offset.toNat ≤ b + 1) :
    ∃ i, Interval.between offset stop total = .ok i ∧ i.Spans offset.toNat b := by
  have hinside : ¬total ≤ offset := UInt64.not_le.2 (UInt64.lt_iff_toNat_lt.2 inside)
  have hle : offset ≤ stop := UInt64.le_iff_toNat_le.2 (hstop ▸ le)
  have size : Word.difference stop offset = .ok (stop - offset) := if_pos hle
  refine ⟨⟨offset, stop - offset⟩, ?_, rfl, ?_, le⟩
  · rw [Interval.between, if_neg hinside, size]
    rfl
  · show (stop - offset).toNat = _
    rw [UInt64.toNat_sub_of_le stop offset hle, hstop]

theorem between_eq_none {offset stop total : UInt64} (outside : total.toNat ≤ offset.toNat) :
    Interval.between offset stop total = .ok .none :=
  if_pos (UInt64.le_iff_toNat_le.2 outside)

/-- The first of the last `wanted` positions. -/
theorem toNat_start_of_suffix (wanted total : UInt64) :
    (if wanted ≤ total then total - wanted else 0).toNat = total.toNat - wanted.toNat := by
  split
  next h => exact UInt64.toNat_sub_of_le _ _ h
  next h =>
    have := UInt64.lt_iff_toNat_lt.1 (UInt64.not_le.1 h)
    rw [UInt64.toNat_zero]
    omega

/-- What is resolved has the ends of the clipped range. -/
theorem exists_spans_of_clip {spec : Spec} {total : UInt64} {a b : Nat}
    (uncrossed : spec.Uncrossed total.toNat) (h : spec.clip total.toNat = some (a, b)) :
    ∃ range, spec.resolve total = .ok range ∧ range.Spans a b := by
  obtain ⟨first, last⟩ := spec
  cases first with
  | none =>
    cases last with
    | none => cases h
    | some wanted =>
      -- the last positions: from a start that is not below the first one
      simp only [Spec.clip, Option.ite_none_right_eq_some, Option.some.injEq, Prod.mk.injEq] at h
      obtain ⟨⟨hsome, hwanted⟩, rfl, rfl⟩ := h
      have hstart := toNat_start_of_suffix wanted total
      simp only [Spec.resolve]
      rw [← hstart]
      exact exists_spans_of_between (by omega) (by omega) (by omega)
  | some first =>
    cases last with
    | none =>
      simp only [Spec.clip, Option.ite_none_right_eq_some, Option.some.injEq, Prod.mk.injEq] at h
      obtain ⟨inside, rfl, rfl⟩ := h
      exact exists_spans_of_between inside (by omega) (by omega)
    | some last =>
      simp only [Spec.clip, Option.ite_none_right_eq_some, Option.some.injEq, Prod.mk.injEq] at h
      obtain ⟨inside, rfl, rfl⟩ := h
      have hle := uncrossed inside
      simp only [Spec.resolve]
      split
      next below =>
        have hbelow := UInt64.lt_iff_toNat_lt.1 below
        obtain ⟨stop, hsum, hstop⟩ := exists_stop below
        rw [hsum, Nat.min_eq_left (by omega)]
        exact exists_spans_of_between inside hstop hle
      next above =>
        have habove := UInt64.le_iff_toNat_le.1 (UInt64.not_lt.1 above)
        rw [Nat.min_eq_right (by omega)]
        exact exists_spans_of_between inside (by omega) (by omega)

theorem exists_covers_of_clip {spec : Spec} (ordered : spec.Ordered) {total : UInt64} {a b : Nat}
    (h : spec.clip total.toNat = some (a, b)) :
    ∃ range, spec.resolve total = .ok range ∧ range.Covers a b := by
  obtain ⟨range, resolved, spans⟩ := exists_spans_of_clip (ordered.uncrossed total.toNat) h
  exact ⟨range, resolved, spans.offset, spans.size, (le_and_lt_of_clip ordered h).1⟩

/-- A spec that selects nothing is resolved to nothing. -/
theorem resolve_of_clip_none {spec : Spec} {total : UInt64} (h : spec.clip total.toNat = none) :
    spec.resolve total = .ok .none := by
  obtain ⟨first, last⟩ := spec
  cases first with
  | none =>
    cases last with
    | none => rfl
    | some wanted =>
      simp only [Spec.clip, ite_eq_right_iff, reduceCtorEq, imp_false] at h
      have hstart := toNat_start_of_suffix wanted total
      exact between_eq_none (by omega)
  | some first =>
    cases last with
    | none =>
      simp only [Spec.clip, ite_eq_right_iff, reduceCtorEq, imp_false] at h
      exact between_eq_none (by omega)
    | some last =>
      simp only [Spec.clip, ite_eq_right_iff, reduceCtorEq, imp_false] at h
      have outside (stop : UInt64) : Interval.between first stop total = .ok .none :=
        between_eq_none (by omega)
      simp only [Spec.resolve]
      split
      next below =>
        obtain ⟨stop, hsum, -⟩ := exists_stop below
        rw [hsum]
        exact outside stop
      next => exact outside total

/-- The specs that are satisfiable are those that select something, if only an empty stretch. -/
theorem exists_isSatisfiable_eq {spec : Spec} {total : UInt64}
    (uncrossed : spec.Uncrossed total.toNat) : ∃ range, spec.resolve total = .ok range ∧
      range.isSatisfiable = (spec.clip total.toNat).isSome := by
  cases h : spec.clip total.toNat with
  | none => exact ⟨.none, resolve_of_clip_none h, rfl⟩
  | some ends =>
    obtain ⟨range, resolved, spans⟩ := exists_spans_of_clip uncrossed (a := ends.1) (b := ends.2) h
    exact ⟨range, resolved, spans.isSatisfiable⟩

/-! ## What is read -/

/-- An entry that is accepted has its bounds in order. -/
theorem ordered_of_parseEntry {entry : List Char} {spec : Spec}
    (h : parseEntry entry = .ok spec) : spec.Ordered := by
  unfold parseEntry at h
  dsimp only at h
  split at h
  next => cases h
  next left right _ =>
    split at h
    next => cases h
    next first last _ _ =>
      split at h
      next => cases h
      next ordered =>
        cases h
        exact UInt64.not_lt.1 ordered
    next first last notBoth notNeither _ _ =>
      -- one bound of the two: there is no order to keep
      cases h
      cases first <;> cases last
      · exact absurd rfl (notBoth rfl)
      · trivial
      · trivial
      · exact absurd rfl (notNeither _ _ rfl)
    next => cases h

theorem bind_eq_ok_iff {α β ε : Type} {x : Except ε α} {f : α → Except ε β} {b : β} :
    x >>= f = .ok b ↔ ∃ a, x = .ok a ∧ f a = .ok b := by
  cases x with
  | error e => exact ⟨nofun, nofun⟩
  | ok a =>
    constructor
    · intro h
      exact ⟨a, rfl, h⟩
    · rintro ⟨_, ⟨⟩, h⟩
      exact h

/-- A walk over a list has the results for its elements. -/
theorem mapM_eq_ok_iff {α β ε : Type} {f : α → Except ε β} {l : List α} {results : List β} :
    l.mapM f = .ok results ↔ List.Forall₂ (fun a b => f a = .ok b) l results := by
  induction l generalizing results with
  | nil =>
    rw [List.forall₂_nil_left_iff]
    constructor
    · rintro ⟨⟩
      rfl
    · rintro rfl
      rfl
  | cons a rest ih =>
    rw [List.mapM_cons, bind_eq_ok_iff]
    constructor
    · rintro ⟨first, hfirst, h⟩
      obtain ⟨others, hothers, ⟨⟩⟩ := bind_eq_ok_iff.1 h
      exact .cons hfirst (ih.1 hothers)
    · rintro (_ | ⟨hfirst, hothers⟩)
      exact ⟨_, hfirst, bind_eq_ok_iff.2 ⟨_, ih.2 hothers, rfl⟩⟩

theorem ordered_of_mapM {texts : List (List Char)} {specs : List Spec}
    (h : texts.mapM parseEntry = .ok specs) : ∀ spec ∈ specs, spec.Ordered := by
  induction mapM_eq_ok_iff.1 h with
  | nil => exact nofun
  | cons first others ih =>
    exact List.forall_mem_cons.2 ⟨ordered_of_parseEntry first, ih (mapM_eq_ok_iff.2 others)⟩

/-- A header that is accepted names at least one range, and each has its bounds in order. -/
theorem ordered_of_parseHeader {header : String} {specs : List Spec}
    (h : parseHeader header = .ok specs) : specs ≠ [] ∧ ∀ spec ∈ specs, spec.Ordered := by
  unfold parseHeader at h
  split at h
  next => cases h
  next unit value _ =>
    split at h
    next => cases h
    next =>
      split at h
      next => cases h
      next => cases h
      next results some hmap =>
        cases h
        exact ⟨some, ordered_of_mapM hmap⟩

/-- A header that gives specs is accepted. -/
theorem parseHeader_of_toOption {header : String} {specs : List Spec}
    (h : (parseHeader header).toOption = some specs) : parseHeader header = .ok specs := by
  cases hparse : parseHeader header with
  | error e =>
    rw [hparse] at h
    cases h
  | ok found =>
    rw [hparse] at h
    cases h
    rfl

/-- The ranges that a request asks for, if it asks for ranges: a header that is rejected counts as
    absent. -/
def asked? (rangeHeader : Option String) : Option (List Spec) :=
  rangeHeader.bind fun header => (parseHeader header).toOption

theorem ordered_of_asked {rangeHeader : Option String} {specs : List Spec}
    (h : asked? rangeHeader = some specs) : specs ≠ [] ∧ ∀ spec ∈ specs, spec.Ordered := by
  obtain ⟨header, -, hheader⟩ := Option.bind_eq_some_iff.1 h
  exact ordered_of_parseHeader (parseHeader_of_toOption hheader)

end StaticSite.Range
