/-
  DOWNLOADS: what a request gets of a file that stays as it is.

  `promised` says it from the ranges that are asked for, on plain numbers: the head of the answer
  and the bytes of its body.  This is what is prepared, and what the body then hands over, as long as
  the promised length is a word; if it is none, there is no answer at all (`download_of_prepared`).
  Only the length of a multipart body can be none.

  Numbered structure:
    §1  the promise
    §2  the bytes of a multipart body
    §3  keeping the promise
-/
import StaticSite.Proofs.Stream.Content
import StaticSite.Proofs.Stream.Prepared

namespace StaticSite.Stream

open Range (Spec Part Plan)

/-! ## §1 The promise -/

/-- The head of an answer, and the bytes of its body unless it has none. -/
structure Promise where
  head : Head
  body : Option Text.Bytes

/-- The Content-Range of nothing. -/
def unsatisfiedText (total : Nat) : String := "bytes */" ++ toString total

/-- A part of a multipart body: a delimiter, a header of two lines, a blank line, and the bytes. -/
def partText (boundary contentType : String) (total : Nat) (data : Text.Bytes) (ends : Nat × Nat) :
    Text.Bytes :=
  Text.utf8 (announcement boundary contentType total ends)
    ++ stretch data ends.1 (ends.2 + 1 - ends.1)

/-- A multipart body: a part for each range, and the closing delimiter. -/
def multipartText (boundary contentType : String) (total : Nat) (data : Text.Bytes)
    (ranges : List (Nat × Nat)) : Text.Bytes :=
  ranges.flatMap (partText boundary contentType total data)
    ++ Text.utf8 ("\r\n--" ++ boundary ++ "--\r\n")

/-- What is promised of the first `total` bytes of `data`. -/
def promised (asked : Option (List Spec)) (boundary : String) (media : MediaType) (total : Nat)
    (data : Text.Bytes) : Promise :=
  match asked with
  | none => ⟨⟨200, some media.contentType, none, total⟩, some (data.take total)⟩
  | some [spec] =>
    match spec.clip total with
    | some (a, b) =>
      ⟨⟨206, some media.contentType, some (rangeText a b total), b + 1 - a⟩,
        some (stretch data a (b + 1 - a))⟩
    | none => ⟨⟨416, some media.contentType, some (unsatisfiedText total), 0⟩, none⟩
  | some specs =>
    match specs.filterMap (·.clip total) with
    | [] => ⟨⟨416, none, some (unsatisfiedText total), 0⟩, none⟩
    | ranges =>
      let body := multipartText boundary media.contentType total data ranges
      ⟨⟨206, some ("multipart/byteranges; boundary=\"" ++ boundary ++ "\""), none, body.length⟩,
        some body⟩

/-! ## §2 The bytes of a multipart body -/

variable {boundary contentType : String} {total : UInt64} {data : Text.Bytes}

theorem partBytes_of_lays {part : Part} {ends : Nat × Nat}
    (h : Lays boundary contentType total part ends) :
    partBytes data part = partText boundary contentType total.toNat data ends := by
  rw [partBytes, partText, h.separator, h.offset, h.size]

/-- The bytes of the parts are those of the ranges. -/
theorem flatMap_of_lays {slices : List Part} {ranges : List (Nat × Nat)}
    (h : List.Forall₂ (Lays boundary contentType total) slices ranges) :
    slices.flatMap (partBytes data)
      = ranges.flatMap (partText boundary contentType total.toNat data) := by
  induction h with
  | nil => rfl
  | cons first _ ih => rw [List.flatMap_cons, List.flatMap_cons, partBytes_of_lays first, ih]

/-- A file that has `total` bytes has all the slices. -/
theorem fits_of_lays {slices : List Part} {ranges : List (Nat × Nat)}
    (h : List.Forall₂ (Lays boundary contentType total) slices ranges)
    (inside : total.toNat ≤ data.length) :
    ∀ part ∈ slices, part.offset.toNat + part.size.toNat ≤ data.length := by
  induction h with
  | nil => exact nofun
  | cons first _ ih =>
    refine List.forall_mem_cons.2 ⟨?_, ih⟩
    rw [first.offset, first.size]
    have := first.le
    have := first.lt
    omega

theorem rest_of_fresh_parts (parts : List Part) :
    (Job.parts parts 0 true).rest data = parts.flatMap (partBytes data) := by
  cases parts with
  | nil => rfl
  | cons part rest => rfl

theorem partBytes_closing (boundary : String) :
    partBytes data ⟨Range.closing boundary, 0, 0⟩ = Text.utf8 ("\r\n--" ++ boundary ++ "--\r\n") :=
  List.append_nil _

/-- What is to be written of a plan is the multipart body of its ranges. -/
theorem rest_multipart {slices : List Part} {ranges : List (Nat × Nat)}
    (h : List.Forall₂ (Lays boundary contentType total) slices ranges) :
    (Job.parts (multipartParts boundary slices) 0 true).rest data
      = multipartText boundary contentType total.toNat data ranges := by
  rw [rest_of_fresh_parts, multipartParts, List.flatMap_append, flatMap_of_lays h,
    List.flatMap_singleton, partBytes_closing, multipartText]

/-- A file that has `total` bytes has all that the plan asks of it. -/
theorem fits_multipart {slices : List Part} {ranges : List (Nat × Nat)}
    (h : List.Forall₂ (Lays boundary contentType total) slices ranges)
    (inside : total.toNat ≤ data.length) :
    (Job.parts (multipartParts boundary slices) 0 true).Fits data := by
  refine List.forall_mem_append.2 ⟨fits_of_lays h inside, ?_⟩
  exact List.forall_mem_singleton.2 (Nat.zero_le _)

/-- The bytes of a multipart body are as many as its ranges say. -/
theorem length_multipartText {slices : List Part} {ranges : List (Nat × Nat)}
    (h : List.Forall₂ (Lays boundary contentType total) slices ranges)
    (inside : total.toNat ≤ data.length) :
    (multipartText boundary contentType total.toNat data ranges).length
      = bodyLength boundary contentType total.toNat ranges := by
  have length := length_rest (ready_multipart boundary slices).open (fits_multipart h inside)
  rwa [rest_multipart h, left_of_fresh_parts, partsLength_of_lays h] at length

/-! ## §3 Keeping the promise -/

variable {F : Type} [ByteSource F]

/-- The head is the one that is promised; without a body there is no producer, and with one the
    body that is polled to its end gives these bytes and no failure. -/
structure Prepared.Keeps (prepared : Prepared F) (promise : Promise) : Prop where
  head : prepared.HasHead promise.head
  nothing : promise.body = none → prepared.producer = none
  body : ∀ bytes, promise.body = some bytes → ∃ p, prepared.producer = some p ∧
    let body := Feed.ofProducer p
    body.Delivers body.drain ∧ body.drain.failure = none ∧ body.drain.bytes = bytes

variable {At : F → Nat → Prop}

/-- A producer that is ready keeps a promise of what its job is to write. -/
theorem keeps_of_job {prepared : Prepared F} {head : Head} (hhead : prepared.HasHead head)
    (prompt : Prompt data At) {file : F} (opened : At file 0) {job : Job}
    (made : prepared.producer = some ⟨.live .idle file, job⟩) (ready : job.Ready)
    (announced : job.Announced) (fits : job.Fits data) :
    prepared.Keeps ⟨head, some (job.rest data)⟩ where
  head := hhead
  nothing := nofun
  body := by
    rintro bytes ⟨⟩
    obtain ⟨delivers, -, unfailed, content⟩ := drain_of_prompt prompt ready announced fits opened
    exact ⟨_, made, delivers, unfailed, content⟩

theorem keeps_of_nothing {prepared : Prepared F} {head : Head}
    (h : prepared.HasHead head ∧ prepared.producer = none) : prepared.Keeps ⟨head, none⟩ where
  head := h.1
  nothing := fun _ => h.2
  body := nofun

/-- What is prepared keeps a promise whose length is a word; if it is none, nothing is prepared. -/
def PromiseKept (outcome : Except Overflow (Prepared F)) (promise : Promise) : Prop :=
  match outcome with
  | .ok prepared => promise.head.contentLength < UInt64.size ∧ prepared.Keeps promise
  | .error _ => UInt64.size ≤ promise.head.contentLength

/-- A promise of all of the content. -/
theorem keeps_of_whole (prompt : Prompt data At) {file : F} (opened : At file 0) {prepared : Prepared F}
    {head : Head} (hhead : prepared.HasHead head)
    (streamed : prepared.producer = some (.whole file total)) (inside : total.toNat ≤ data.length) :
    prepared.Keeps ⟨head, some (data.take total.toNat)⟩ := by
  have fits : (Job.slice none total 0).Fits data := by
    show 0 + total.toNat ≤ data.length
    omega
  exact keeps_of_job hhead prompt opened streamed ⟨rfl, fun h => absurd rfl h⟩ trivial fits

/-- A promise of one range. -/
theorem keeps_of_range (prompt : Prompt data At) {file : F} (opened : At file 0) {prepared : Prepared F}
    {head : Head} (hhead : prepared.HasHead head) {range : Range.Interval} {a b : Nat}
    (streamed : prepared.producer = some (.single file range.offset range.size))
    (covers : range.Covers a b) (inside : b < data.length) :
    prepared.Keeps ⟨head, some (stretch data a (b + 1 - a))⟩ := by
  have hoffset := covers.offset
  have hsize := covers.size
  have hle := covers.le
  have fits : (Job.slice (some range.offset) range.size 0).Fits data := by
    show range.offset.toNat + range.size.toNat ≤ data.length
    omega
  have rest : (Job.slice (some range.offset) range.size 0).rest data = stretch data a (b + 1 - a) := by
    show stretch data (range.offset.toNat + 0) (range.size.toNat - 0) = _
    rw [Nat.add_zero, Nat.sub_zero, hoffset, hsize]
  rw [← rest]
  exact keeps_of_job hhead prompt opened streamed ⟨rfl, fun _ => covers.size_pos⟩ trivial fits

/-- A promise of several ranges. -/
theorem keeps_of_ranges (prompt : Prompt data At) {file : F} (opened : At file 0)
    {prepared : Prepared F} {head : Head} (hhead : prepared.HasHead head) {slices : List Part}
    {ranges : List (Nat × Nat)} (lays : List.Forall₂ (Lays boundary contentType total) slices ranges)
    (streamed : prepared.producer = some (.multiple file (multipartParts boundary slices)))
    (inside : total.toNat ≤ data.length) :
    prepared.Keeps ⟨head, some (multipartText boundary contentType total.toNat data ranges)⟩ := by
  rw [← rest_multipart lays]
  exact keeps_of_job hhead prompt opened streamed (ready_multipart boundary slices)
    (announced_multipart lays) (fits_multipart lays inside)

/-- What is promised for several ranges that select nothing. -/
theorem promised_of_nothing {specs : List Spec} (several : 2 ≤ specs.length)
    (none : specs.filterMap (·.clip total.toNat) = []) (boundary : String) (media : MediaType) :
    promised (some specs) boundary media total.toNat data
      = ⟨⟨416, .none, some (unsatisfiedText total.toNat), 0⟩, .none⟩ := by
  match specs, several with
  | _ :: _ :: _, _ =>
    simp only [promised]
    rw [none]

/-- What is promised for several ranges some of which select something. -/
theorem promised_of_ranges {specs : List Spec} (several : 2 ≤ specs.length)
    (some : specs.filterMap (·.clip total.toNat) ≠ []) (boundary : String) (media : MediaType) :
    let body := multipartText boundary media.contentType total.toNat data
      (specs.filterMap (·.clip total.toNat))
    promised (.some specs) boundary media total.toNat data
      = ⟨⟨206, .some ("multipart/byteranges; boundary=\"" ++ boundary ++ "\""), none, body.length⟩,
        .some body⟩ := by
  match specs, several with
  | _ :: _ :: _, _ => simp only [promised]

/-- Whatever preparing content comes to, the promise is kept. -/
theorem kept_of_comesTo (prompt : Prompt data At) {file : F} (opened : At file 0)
    (inside : total.toNat ≤ data.length) {asked : Option (List Spec)} {boundary : String}
    {media : MediaType} {outcome : Except Overflow (Prepared F)}
    (ordered : ∀ specs, asked = some specs → ∀ spec ∈ specs, spec.Ordered)
    (h : ComesTo asked boundary media total file outcome) :
    PromiseKept outcome (promised asked boundary media total.toNat data) := by
  have positive : 0 < UInt64.size := Nat.zero_lt_of_lt total.toNat_lt_size
  -- the length of a multipart body, as plain numbers say it
  have length : ∀ specs, asked = some specs →
      (multipartText boundary media.contentType total.toNat data
        (specs.filterMap (·.clip total.toNat))).length
      = bodyLength boundary media.contentType total.toNat (specs.filterMap (·.clip total.toNat)) := by
    intro specs hasked
    obtain ⟨slices, -, lays⟩ := exists_partsOf media.contentType boundary
      fun spec hspec => (ordered specs hasked spec hspec).uncrossed total.toNat
    exact length_multipartText lays inside
  cases h with
  | whole unranged head streamed =>
    subst unranged
    exact ⟨total.toNat_lt_size, keeps_of_whole prompt opened head streamed inside⟩
  | @range _ _ a b range one clipped below covers head streamed =>
    subst one
    have small : b + 1 - a < UInt64.size := covers.size ▸ range.size.toNat_lt_size
    simp only [promised, clipped]
    exact ⟨small, keeps_of_range prompt opened head streamed covers (by omega)⟩
  | noRange one clipped head nothing =>
    subst one
    simp only [promised, clipped]
    exact ⟨positive, keeps_of_nothing ⟨head, nothing⟩⟩
  | @ranges _ _ _ size asks several some lays announced head streamed =>
    have whole := length _ asks
    subst asks
    have keeps := keeps_of_ranges prompt opened head lays streamed inside
    -- the length that the head says is that of the promised bytes
    rw [announced, ← whole] at keeps
    rw [promised_of_ranges several some]
    exact ⟨whole ▸ announced ▸ size.toNat_lt_size, keeps⟩
  | noRanges asks several none head nothing =>
    subst asks
    rw [promised_of_nothing several none]
    exact ⟨positive, keeps_of_nothing ⟨head, nothing⟩⟩
  | overflow asks several some long =>
    have whole := length _ asks
    subst asks
    rw [promised_of_ranges several some]
    exact whole.symm ▸ long

/-- What is prepared of a file that stays as it is keeps what is promised for the ranges that the
    request asks for, however short the reads are, if the promised length is a word; and the two ends
    of each of these ranges are those of the positions that it wants.  A promised length that is no
    word is that of a body of several ranges; then there is no answer. -/
theorem download_of_prepared (prompt : Prompt data At) {file : F} (opened : At file 0)
    (inside : total.toNat ≤ data.length) (rangeHeader : Option String) (boundary : String)
    (media : MediaType) :
    let promise := promised (Range.asked? rangeHeader) boundary media total.toNat data
    (∀ specs, Range.asked? rangeHeader = some specs →
      specs ≠ [] ∧ ∀ spec ∈ specs, spec.EndsAreRight total.toNat) ∧
    (promise.head.contentLength < UInt64.size →
      ∃ prepared, prepare rangeHeader boundary media total file = .ok prepared ∧
        prepared.value.Keeps promise) ∧
    (UInt64.size ≤ promise.head.contentLength →
      prepare rangeHeader boundary media total file = .error ⟨⟩ ∧
      ∃ specs, Range.asked? rangeHeader = some specs ∧ 2 ≤ specs.length) := by
  intro promise
  have kept : PromiseKept (Logged.value <$> prepare rangeHeader boundary media total file) promise :=
    kept_of_comesTo prompt opened inside (fun specs asked => (Range.ordered_of_asked asked).2)
      (comesTo_of_prepare rangeHeader boundary media total file)
  refine ⟨fun specs asked => ?_, fun small => ?_, fun long => ?_⟩
  · obtain ⟨some, ordered⟩ := Range.ordered_of_asked asked
    exact ⟨some, fun spec hspec => (ordered spec hspec).endsAreRight total.toNat⟩
  · cases made : prepare rangeHeader boundary media total file with
    | error overflow =>
      rw [made] at kept
      exact absurd small (Nat.not_lt.2 kept)
    | ok prepared =>
      rw [made] at kept
      exact ⟨prepared, rfl, kept.2⟩
  · have overflows : prepare rangeHeader boundary media total file = .error ⟨⟩ := by
      cases made : prepare rangeHeader boundary media total file with
      | error overflow => rfl
      | ok prepared =>
        rw [made] at kept
        exact absurd kept.1 (Nat.not_lt.2 long)
    exact ⟨overflows, several_of_overflow overflows⟩

/-- A file that hands out short reads, not told to fail, at a position of its content. -/
def FaultyFile.StandsAt (data : Text.Bytes) (file : FaultyFile) (position : Nat) : Prop :=
  file.file = ⟨data, data.drop position⟩ ∧ file.failsIn = none ∧ file.readLimit ≠ some 0

/-- A read of such a file gives the next so many bytes, at least one if any is wanted. -/
theorem read_faultyFile (content ahead : Text.Bytes) {readLimit : Option Nat}
    (some : readLimit ≠ .some 0) (limit : Nat) :
    ∃ most, (0 < limit → 0 < most) ∧ ∃ chunk : Chunk limit, chunk.val = ahead.take most ∧
      ByteSource.read (FaultyFile.mk ⟨content, ahead⟩ readLimit none) limit
        = (.ok chunk, ⟨⟨content, ahead.drop most⟩, readLimit, none⟩) := by
  cases readLimit with
  | none => exact ⟨limit, id, _, rfl, rfl⟩
  | some n =>
    have positive : 0 < n := Nat.pos_of_ne_zero fun zero => some (congrArg _ zero)
    exact ⟨min n limit, fun wanted => Nat.lt_min.2 ⟨positive, wanted⟩, _, rfl, rfl⟩

/-- Such a file is prompt. -/
theorem prompt_faultyFile (data : Text.Bytes) : Prompt data (FaultyFile.StandsAt data) where
  read := by
    rintro ⟨_, readLimit, _⟩ after position limit chunk ⟨rfl, rfl, some⟩ hread
    obtain ⟨most, -, taken, htaken, hread'⟩ := read_faultyFile data (data.drop position) some limit
    rw [hread'] at hread
    cases hread
    rw [htaken]
    refine ⟨List.take_prefix _ _, ?_, rfl, some⟩
    rw [MemoryFile.mk.injEq, ← List.drop_drop, List.drop_eq_drop_iff, List.length_take]
    exact ⟨rfl, by omega⟩
  failedRead := by
    rintro ⟨_, readLimit, _⟩ after position limit e ⟨rfl, rfl, some⟩ hread
    obtain ⟨most, -, taken, -, hread'⟩ := read_faultyFile data (data.drop position) some limit
    rw [hread'] at hread
    cases hread
  seek := by
    rintro ⟨_, readLimit, _⟩ position target ⟨rfl, rfl, some⟩
    exact ⟨_, rfl, rfl, rfl, some⟩
  prompt := by
    rintro ⟨_, readLimit, _⟩ position limit ⟨rfl, rfl, some⟩ inside wanted
    obtain ⟨most, hmost, taken, htaken, hread⟩ :=
      read_faultyFile data (data.drop position) some limit
    refine ⟨taken, _, hread, ?_⟩
    have positive := hmost wanted
    rw [htaken, List.length_take, List.length_drop]
    omega

/-- Two ranges of a file that is read two bytes at a time; a third lies behind its end. -/
theorem download_of_two_ranges :
    let data : Text.Bytes := [10, 11, 12, 13, 14, 15]
    let file : FaultyFile := ⟨.ofContent data, some 2, none⟩
    let asked := Range.asked? (some "bytes=1-3,-2,9-")
    let promise := promised asked "b" ⟨"text/plain", none⟩ (6 : UInt64).toNat data
    (∀ specs, asked = some specs →
      specs ≠ [] ∧ ∀ spec ∈ specs, spec.EndsAreRight (6 : UInt64).toNat) ∧
    ∃ prepared, prepare (some "bytes=1-3,-2,9-") "b" ⟨"text/plain", none⟩ 6 file = .ok prepared ∧
      prepared.value.Keeps promise := by
  intro data file asked promise
  have opened : FaultyFile.StandsAt data file 0 := ⟨rfl, rfl, by decide⟩
  have inside : (6 : UInt64).toNat ≤ data.length := by decide
  have small : promise.head.contentLength < UInt64.size := by decide +kernel
  obtain ⟨ends, kept, -⟩ := download_of_prepared (prompt_faultyFile data) opened inside
    (some "bytes=1-3,-2,9-") "b" ⟨"text/plain", none⟩
  exact ⟨ends, kept small⟩

/-- There is no answer to a request for the whole of the greatest file there can be, twice. -/
theorem no_answer_to_whole_twice :
    let data : Text.Bytes := List.replicate 9223372036854775807 0
    let file : FaultyFile := ⟨.ofContent data, none, none⟩
    FaultyFile.StandsAt data file 0 ∧ (9223372036854775807 : UInt64).toNat ≤ data.length ∧
    Range.asked? (some "bytes=0-,0-") = some [⟨some 0, none⟩, ⟨some 0, none⟩] ∧
    prepare (some "bytes=0-,0-") "b" ⟨"text/plain", none⟩ 9223372036854775807 file = .error ⟨⟩ := by
  intro data file
  have asked : Range.asked? (some "bytes=0-,0-")
      = some [⟨some 0, none⟩, ⟨some 0, none⟩] := by decide +kernel
  have ranges : ([⟨some 0, none⟩, ⟨some 0, none⟩] : List Spec).filterMap
      (·.clip (9223372036854775807 : UInt64).toNat)
      = [(0, 9223372036854775806), (0, 9223372036854775806)] := by decide
  have long : UInt64.size ≤ bodyLength "b" "text/plain" (9223372036854775807 : UInt64).toNat
      [(0, 9223372036854775806), (0, 9223372036854775806)] := by decide +kernel
  have inside : (9223372036854775807 : UInt64).toNat ≤ data.length := by
    rw [List.length_replicate]
    decide
  refine ⟨⟨rfl, rfl, by decide⟩, inside, asked, ?_⟩
  have outcome := comesTo_of_prepare (some "bytes=0-,0-") "b" ⟨"text/plain", none⟩
    9223372036854775807 file
  rw [asked] at outcome
  cases made : prepare (some "bytes=0-,0-") "b" ⟨"text/plain", none⟩ 9223372036854775807 file with
  | error overflow => rfl
  | ok prepared =>
    rw [made] at outcome
    cases outcome with
    | whole unranged => cases unranged
    | range one => cases one
    | noRange one => cases one
    | @ranges _ _ _ length asks _ _ _ announced =>
      cases asks
      rw [ranges] at announced
      exact absurd (announced ▸ length.toNat_lt_size) (Nat.not_lt.2 long)
    | noRanges asks _ none =>
      cases asks
      exact absurd (ranges.symm.trans none) (List.cons_ne_nil _ _)

end StaticSite.Stream
