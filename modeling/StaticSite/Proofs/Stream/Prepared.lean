/-
  PREPARED CONTENT: what its head says, and what its producer has to do.

  A field that is set once stands in the headers with the text it was given, if that text is
  allowed (`get?_setAll`), so the head of an answer can be read off its fields (`head_of_fields`).
  What preparing content can come to is said once (`comesTo_of_prepare`): all of the content, one
  range, several, nothing, or an overflow.  The job of a producer that is made is always ready to be
  started, and the length in the headers is what the job has left to write (`producer_of_prepare`).
  What follows is that no body breaks what its head says, whatever the file does
  (`delivery_of_prepared`).

  Numbered structure:
    §1  headers set in turn
    §2  the job of a multipart body
    §3  the heads of the four kinds of answer
    §4  whatever is prepared
-/
import StaticSite.Proofs.Http.Values
import StaticSite.Proofs.Stream.Delivery
import StaticSite.Proofs.Stream.Layout
import StaticSite.Stream.Prepared

namespace StaticSite.Stream

open Http (HeaderValue Headers)
open Range (Spec Part Plan)

/-! ## §1 Headers set in turn -/

/-- A name that is not set keeps its value. -/
theorem get?_setAll_of_not_mem {fields : List Field} {name : Http.HeaderName}
    (h : name ∉ fields.map Prod.fst) (headers : Headers) :
    (setAll headers fields).value.get? name = headers.get? name := by
  induction fields generalizing headers with
  | nil => rfl
  | cons field rest ih =>
    obtain ⟨other, text⟩ := field
    obtain ⟨hother, hrest⟩ := not_or.1 (mt List.mem_cons.2 h)
    unfold setAll
    cases HeaderValue.ofString? text with
    | none => exact ih hrest headers
    | some value => exact (ih hrest _).trans (Headers.get?_insert_ne headers value hother)

/-- A name that is set once has the value of its text; the value it had stays if the text is not
    allowed. -/
theorem get?_setAll {fields : List Field} (distinct : (fields.map Prod.fst).Nodup)
    {name : Http.HeaderName} {text : String} (h : (name, text) ∈ fields) (headers : Headers) :
    (setAll headers fields).value.get? name
      = (HeaderValue.ofString? text).or (headers.get? name) := by
  induction fields generalizing headers with
  | nil => cases h
  | cons field rest ih =>
    obtain ⟨other, text'⟩ := field
    obtain ⟨hother, distinct⟩ := List.nodup_cons.1 distinct
    unfold setAll
    rcases List.mem_cons.1 h with heq | hrest
    · -- set here, and no later field has the name
      cases heq
      cases HeaderValue.ofString? text with
      | none => exact get?_setAll_of_not_mem hother headers
      | some value =>
        exact (get?_setAll_of_not_mem hother _).trans (Headers.get?_insert_self headers name value)
    · -- set later, and this field has another name
      have hne : name ≠ other := by
        intro heq
        exact hother (heq ▸ List.mem_map.2 ⟨_, hrest, rfl⟩)
      cases HeaderValue.ofString? text' with
      | none => exact ih distinct hrest headers
      | some value =>
        exact (ih distinct hrest _).trans (by rw [Headers.get?_insert_ne headers value hne])

/-- A plain text that is set can be read back. -/
theorem text?_setAll {fields : List Field} (distinct : (fields.map Prod.fst).Nodup)
    {name : Http.HeaderName} {text : String} (h : (name, text) ∈ fields)
    (plain : Text.isPlain text = true) :
    (setAll [] fields).value.text? name = some text := by
  obtain ⟨value, hvalue, htext⟩ := Http.exists_value_of_plain plain
  rw [Headers.text?, get?_setAll distinct h, hvalue]
  exact htext

/-! ## §2 The job of a multipart body -/

/-- Every separator begins with a line break and two hyphens. -/
theorem announced_multipart {boundary contentType : String} {total : UInt64} {slices : List Part}
    {ranges : List (Nat × Nat)} (lays : List.Forall₂ (Lays boundary contentType total) slices ranges) :
    (Job.parts (multipartParts boundary slices) 0 true).Announced := by
  have four : "\r\n--".utf8ByteSize = 4 := rfl
  have closing : 0 < (Range.closing boundary).utf8ByteSize := by
    simp only [Range.closing, String.utf8ByteSize_append, four]
    omega
  induction lays with
  | nil => exact List.forall_mem_singleton.2 closing
  | cons first _ ih =>
    refine List.forall_mem_cons.2 ⟨?_, ih⟩
    rw [first.separator]
    simp only [announcement, String.utf8ByteSize_append, four]
    omega

theorem ready_multipart (boundary : String) (slices : List Part) :
    (Job.parts (multipartParts boundary slices) 0 true).Ready :=
  ⟨List.append_ne_nil_of_right_ne_nil _ (List.cons_ne_nil _ _), rfl, rfl⟩

/-- What is left of parts of which nothing is written yet. -/
theorem left_of_fresh_parts (parts : List Part) :
    (Job.parts parts 0 true).left = partsLength parts := by
  cases parts with
  | nil => rfl
  | cons part rest => rfl

/-! ## §3 Heads -/

/-- What the head of an answer says of the content. -/
structure Head where
  status : Nat
  contentType : Option String
  contentRange : Option String
  contentLength : Nat

/-- Status and headers say what the head says.  A content type that may not stand in a header is
    left out. -/
structure Prepared.HasHead {F : Type} (prepared : Prepared F) (head : Head) : Prop where
  status : prepared.status = head.status
  contentType : prepared.headers.get? "content-type" = head.contentType.bind HeaderValue.ofString?
  contentRange : prepared.headers.text? "content-range" = head.contentRange
  contentLength : prepared.headers.text? "content-length" = some (toString head.contentLength)

variable {F : Type}

/-- The fields give a name this text; without a text they do not set the name. -/
def Gives (fields : List Field) (name : Http.HeaderName) : Option String → Prop
  | some text => (name, text) ∈ fields
  | none => name ∉ fields.map Prod.fst

theorem get?_of_gives {fields : List Field} (distinct : (fields.map Prod.fst).Nodup)
    {name : Http.HeaderName} {text : Option String} (h : Gives fields name text) :
    (setAll [] fields).value.get? name = text.bind HeaderValue.ofString? := by
  cases text with
  | none => exact get?_setAll_of_not_mem h []
  | some text => exact (get?_setAll distinct h []).trans Option.or_none

/-- A head is had if the fields, all of different names, give what it says. -/
theorem head_of_fields {fields : List Field} (distinct : (fields.map Prod.fst).Nodup)
    {contentType contentRange : Option String} {length : Nat}
    (htype : Gives fields "content-type" contentType)
    (hrange : Gives fields "content-range" contentRange)
    (plain : ∀ text, contentRange = some text → Text.isPlain text = true)
    (hlength : ("content-length", toString length) ∈ fields) (status : Nat)
    (producer : Option (Producer F)) :
    (Prepared.make status fields producer).value.HasHead
      ⟨status, contentType, contentRange, length⟩ where
  status := rfl
  contentType := get?_of_gives distinct htype
  contentRange := by
    cases contentRange with
    | none => exact congrArg (·.bind HeaderValue.text?) (get?_of_gives distinct hrange)
    | some text => exact text?_setAll distinct hrange (plain text rfl)
  contentLength := text?_setAll distinct hlength (Text.isPlain_toString length)

theorem distinct_rangeFields (media : MediaType) (size : UInt64) (text : String) :
    ((("content-range", text) :: contentFields media size).map Prod.fst).Nodup := by
  obtain ⟨contentType, encoding⟩ := media
  cases encoding with
  | none => simp [contentFields, lengthField]
  | some encoding => simp [contentFields, lengthField]

theorem isPlain_rangeText (a b total : Nat) : Text.isPlain (rangeText a b total) = true := by
  have numbers := Text.isPlain_toString
  unfold rangeText
  refine Text.isPlain_append (Text.isPlain_append (Text.isPlain_append (Text.isPlain_append
    (Text.isPlain_append ?_ (numbers _)) ?_) (numbers _)) ?_) (numbers _) <;> rfl

theorem isPlain_unsatisfied (total : UInt64) :
    Text.isPlain (Range.unsatisfiedContentRange total) = true :=
  Text.isPlain_append rfl (Text.isPlain_toString _)

/-- The head of an answer with a content range. -/
theorem head_of_range (status : Nat) {text : String} (plain : Text.isPlain text = true)
    (media : MediaType) (size : UInt64) (producer : Option (Producer F)) :
    (Prepared.make status (("content-range", text) :: contentFields media size) producer).value.HasHead
      ⟨status, some media.contentType, some text, size.toNat⟩ := by
  refine head_of_fields (distinct_rangeFields media size text) ?_ ?_ ?_ ?_ status producer
  · simp [Gives, contentFields]
  · exact List.mem_cons_self
  · rintro _ ⟨⟩
    exact plain
  · exact List.mem_cons_of_mem _ List.mem_cons_self

/-- The head of an answer with all of the content. -/
theorem head_of_whole (media : MediaType) (total : UInt64) (file : F) :
    (prepareWhole media total file).value.HasHead
      ⟨200, some media.contentType, none, total.toNat⟩ := by
  obtain ⟨absent, distinct⟩ := List.nodup_cons.1 (distinct_rangeFields media total "")
  refine head_of_fields distinct ?_ ?_ ?_ List.mem_cons_self 200 _
  · simp [Gives, contentFields]
  · exact absent
  · exact nofun

/-- The answer to a range that selects something. -/
theorem single_of_clip {spec : Spec} (ordered : spec.Ordered) {total : UInt64} {a b : Nat}
    (h : spec.clip total.toNat = some (a, b)) (media : MediaType) (file : F) :
    ∃ prepared, ∃ range : Range.Interval,
      prepareSingle spec media total file = .ok prepared ∧ range.Covers a b ∧
      prepared.value.HasHead ⟨206, some media.contentType, some (rangeText a b total.toNat), b + 1 - a⟩ ∧
      prepared.value.producer = some (.single file range.offset range.size) := by
  obtain ⟨range, resolved, covers⟩ := Range.exists_covers_of_clip ordered h
  have inside := (Range.le_and_lt_of_clip ordered h).2
  have head := head_of_range 206 (isPlain_rangeText a b total.toNat) media range.size
    (some (Producer.single file range.offset range.size))
  rw [covers.size] at head
  refine ⟨_, range, ?_, covers, head, rfl⟩
  rw [prepareSingle, resolved]
  show (if range.isSatisfiable = true then _ else _ : Except Overflow (Logged (Prepared F))) = _
  rw [if_pos covers.spans.isSatisfiable, covers.spans.contentRange inside]
  rfl

/-- The answer to a range that selects nothing. -/
theorem single_of_clip_none {spec : Spec} {total : UInt64} (h : spec.clip total.toNat = none)
    (media : MediaType) (file : F) :
    ∃ prepared, prepareSingle spec media total file = .ok prepared ∧
      prepared.value.HasHead
        ⟨416, some media.contentType, some ("bytes */" ++ toString total.toNat), 0⟩ ∧
      prepared.value.producer = none := by
  refine ⟨_, ?_, head_of_range 416 (isPlain_unsatisfied total) media 0 none, rfl⟩
  rw [prepareSingle, Range.resolve_of_clip_none h]
  rfl

variable {specs : List Spec} {boundary : String} {media : MediaType} {total : UInt64}

/-- The answer to several ranges that have a plan. -/
theorem multiple_of_plan {plan : Plan}
    (built : Plan.build specs total media.contentType boundary = .ok (some plan)) (file : F) :
    ∃ prepared, prepareMultiple specs boundary media total file = .ok prepared ∧
      prepared.value.HasHead ⟨206, some plan.contentType, none, plan.contentLength.toNat⟩ ∧
      prepared.value.producer = some (.multiple file plan.parts) := by
  refine ⟨_, by rw [prepareMultiple, built]; rfl, ?_, rfl⟩
  refine head_of_fields ?_ ?_ ?_ ?_ ?_ 206 _
  · simp [lengthField]
  · exact List.mem_cons_self
  · simp [Gives, lengthField]
  · exact nofun
  · exact List.mem_cons_of_mem _ List.mem_cons_self

/-- The answer to several ranges that select nothing. -/
theorem multiple_of_none (built : Plan.build specs total media.contentType boundary = .ok none)
    (file : F) :
    ∃ prepared, prepareMultiple specs boundary media total file = .ok prepared ∧
      prepared.value.HasHead ⟨416, none, some ("bytes */" ++ toString total.toNat), 0⟩ ∧
      prepared.value.producer = none := by
  refine ⟨_, by rw [prepareMultiple, built]; rfl, ?_, rfl⟩
  refine head_of_fields ?_ ?_ ?_ ?_ ?_ 416 none
  · simp [lengthField]
  · simp [Gives, lengthField]
  · exact List.mem_cons_of_mem _ List.mem_cons_self
  · rintro _ ⟨⟩
    exact isPlain_unsatisfied total
  · exact List.mem_cons_self

/-- There is no answer to several ranges whose body is too long. -/
theorem multiple_of_overflow
    (built : Plan.build specs total media.contentType boundary = .error ⟨⟩) (file : F) :
    prepareMultiple specs boundary media total file = .error ⟨⟩ := by
  rw [prepareMultiple, built]
  rfl

/-! ## §4 Whatever is prepared -/

/-- What is prepared depends on the header only through the ranges that are asked for. -/
theorem value_prepare (rangeHeader : Option String) (boundary : String) (media : MediaType)
    (total : UInt64) (file : F) :
    Logged.value <$> prepare rangeHeader boundary media total file
      = match Range.asked? rangeHeader with
        | none => .ok (prepareWhole media total file).value
        | some [spec] => Logged.value <$> prepareSingle spec media total file
        | some specs => Logged.value <$> prepareMultiple specs boundary media total file := by
  cases rangeHeader with
  | none => rfl
  | some header =>
    simp only [prepare, Range.asked?, Option.bind_some]
    cases Range.parseHeader header with
    | error e => rfl
    | ok specs =>
      match specs with
      | [] => rfl
      | [spec] => rfl
      | spec :: other :: rest => rfl

/-- What preparing content comes to: what the head says, and which producer is made.  `asked` are the
    ranges that are asked for. -/
inductive ComesTo (asked : Option (List Spec)) (boundary : String) (media : MediaType)
    (total : UInt64) (file : F) : Except Overflow (Prepared F) → Prop
  | whole {prepared : Prepared F} (unranged : asked = none)
      (head : prepared.HasHead ⟨200, some media.contentType, none, total.toNat⟩)
      (streamed : prepared.producer = some (.whole file total)) :
      ComesTo asked boundary media total file (.ok prepared)
  | range {prepared : Prepared F} {spec : Spec} {a b : Nat} {range : Range.Interval}
      (one : asked = some [spec]) (clipped : spec.clip total.toNat = some (a, b))
      (inside : b < total.toNat) (covers : range.Covers a b)
      (head : prepared.HasHead
        ⟨206, some media.contentType, some (rangeText a b total.toNat), b + 1 - a⟩)
      (streamed : prepared.producer = some (.single file range.offset range.size)) :
      ComesTo asked boundary media total file (.ok prepared)
  | noRange {prepared : Prepared F} {spec : Spec}
      (one : asked = some [spec]) (clipped : spec.clip total.toNat = none)
      (head : prepared.HasHead
        ⟨416, some media.contentType, some ("bytes */" ++ toString total.toNat), 0⟩)
      (nothing : prepared.producer = none) :
      ComesTo asked boundary media total file (.ok prepared)
  | ranges {prepared : Prepared F} {specs : List Spec} {slices : List Part} {length : UInt64}
      (asks : asked = some specs) (several : 2 ≤ specs.length)
      (some : specs.filterMap (·.clip total.toNat) ≠ [])
      (lays : List.Forall₂ (Lays boundary media.contentType total) slices
        (specs.filterMap (·.clip total.toNat)))
      (announced : length.toNat
        = bodyLength boundary media.contentType total.toNat (specs.filterMap (·.clip total.toNat)))
      (head : prepared.HasHead
        ⟨206, .some ("multipart/byteranges; boundary=\"" ++ boundary ++ "\""), none, length.toNat⟩)
      (streamed : prepared.producer = .some (.multiple file (multipartParts boundary slices))) :
      ComesTo asked boundary media total file (.ok prepared)
  | noRanges {prepared : Prepared F} {specs : List Spec}
      (asks : asked = some specs) (several : 2 ≤ specs.length)
      (none : specs.filterMap (·.clip total.toNat) = [])
      (head : prepared.HasHead ⟨416, .none, some ("bytes */" ++ toString total.toNat), 0⟩)
      (nothing : prepared.producer = .none) :
      ComesTo asked boundary media total file (.ok prepared)
  | overflow {specs : List Spec}
      (asks : asked = some specs) (several : 2 ≤ specs.length)
      (some : specs.filterMap (·.clip total.toNat) ≠ [])
      (long : UInt64.size
        ≤ bodyLength boundary media.contentType total.toNat (specs.filterMap (·.clip total.toNat))) :
      ComesTo asked boundary media total file (.error ⟨⟩)

variable {asked : Option (List Spec)} {file : F}

theorem comesTo_of_single {spec : Spec} (one : asked = some [spec]) (ordered : spec.Ordered)
    (boundary : String) (media : MediaType) (file : F) :
    ComesTo asked boundary media total file
      (Logged.value <$> prepareSingle spec media total file) := by
  cases hclip : spec.clip total.toNat with
  | none =>
    obtain ⟨prepared, made, head, nothing⟩ := single_of_clip_none hclip media file
    rw [made]
    exact .noRange one hclip head nothing
  | some ends =>
    obtain ⟨a, b⟩ := ends
    have inside := (Range.le_and_lt_of_clip ordered hclip).2
    obtain ⟨prepared, range, made, covers, head, streamed⟩ := single_of_clip ordered hclip media file
    rw [made]
    exact .range one hclip inside covers head streamed

theorem comesTo_of_multiple (asks : asked = some specs) (several : 2 ≤ specs.length)
    (ordered : ∀ spec ∈ specs, spec.Ordered) (boundary : String) (media : MediaType) (file : F) :
    ComesTo asked boundary media total file
      (Logged.value <$> prepareMultiple specs boundary media total file) := by
  have uncrossed : ∀ spec ∈ specs, spec.Uncrossed total.toNat :=
    fun spec hspec => (ordered spec hspec).uncrossed total.toNat
  have built := built_of_uncrossed media.contentType boundary uncrossed
  generalize hplan : Plan.build specs total media.contentType boundary = plan at built
  cases built with
  | nothing none =>
    obtain ⟨prepared, made, head, nothing⟩ := multiple_of_none hplan file
    rw [made]
    exact .noRanges asks several none head nothing
  | plan some lays announced =>
    obtain ⟨prepared, made, head, streamed⟩ := multiple_of_plan hplan file
    rw [made]
    exact .ranges asks several some lays announced head streamed
  | overflow some long =>
    rw [multiple_of_overflow hplan file]
    exact .overflow asks several some long

theorem comesTo_of_prepare (rangeHeader : Option String) (boundary : String) (media : MediaType)
    (total : UInt64) (file : F) :
    ComesTo (Range.asked? rangeHeader) boundary media total file
      (Logged.value <$> prepare rangeHeader boundary media total file) := by
  rw [value_prepare]
  split
  next asked => exact .whole asked (head_of_whole media total file) rfl
  next spec asked =>
    have ordered := (Range.ordered_of_asked asked).2 spec List.mem_cons_self
    exact comesTo_of_single asked ordered boundary media file
  next specs single asked =>
    obtain ⟨some, ordered⟩ := Range.ordered_of_asked asked
    have several : 2 ≤ specs.length := by
      match specs, some, single with
      | [spec], _, single => exact absurd rfl (single spec)
      | _ :: _ :: _, _, _ => exact Nat.le_add_left 2 _
    exact comesTo_of_multiple asked several ordered boundary media file

/-- A producer that is made owns the file and is ready for a job; the length in the headers is what
    the job has left. -/
theorem producer_of_prepare {rangeHeader : Option String} {prepared : Logged (Prepared F)}
    (made : prepare rangeHeader boundary media total file = .ok prepared) {p : Producer F}
    (streamed : prepared.value.producer = some p) :
    p = ⟨.live .idle file, p.job⟩ ∧ p.job.Ready ∧ p.job.Announced ∧
    prepared.value.headers.text? "content-length" = some (toString p.job.left) := by
  have outcome := comesTo_of_prepare rangeHeader boundary media total file
  rw [made] at outcome
  change ComesTo _ _ _ _ _ (.ok prepared.value) at outcome
  generalize prepared.value = content at outcome streamed ⊢
  cases outcome with
  | whole _ head producer =>
    cases producer.symm.trans streamed
    exact ⟨rfl, ⟨rfl, fun h => absurd rfl h⟩, trivial, head.contentLength⟩
  | @range _ _ a b range _ _ _ covers head producer =>
    cases producer.symm.trans streamed
    have left : (Producer.single file range.offset range.size).job.left = b + 1 - a := covers.size
    refine ⟨rfl, ⟨rfl, fun _ => covers.size_pos⟩, trivial, ?_⟩
    rw [left]
    exact head.contentLength
  | @ranges _ _ slices length _ _ _ lays announced head producer =>
    cases producer.symm.trans streamed
    refine ⟨rfl, ready_multipart boundary slices, announced_multipart lays, ?_⟩
    have left : (Producer.multiple file (multipartParts boundary slices)).job.left = length.toNat :=
      (left_of_fresh_parts _).trans ((partsLength_of_lays lays).trans announced.symm)
    rw [left]
    exact head.contentLength
  | noRange _ _ _ nothing => cases nothing.symm.trans streamed
  | noRanges _ _ _ _ nothing => cases nothing.symm.trans streamed

/-- Only a request for several ranges can come to an overflow. -/
theorem several_of_overflow {rangeHeader : Option String} {overflow : Overflow}
    (h : prepare rangeHeader boundary media total file = .error overflow) :
    ∃ specs, Range.asked? rangeHeader = some specs ∧ 2 ≤ specs.length := by
  have outcome := comesTo_of_prepare rangeHeader boundary media total file
  rw [h] at outcome
  cases outcome with
  | overflow asks several => exact ⟨_, asks, several⟩

variable [ByteSource F]

/-- A body never breaks what its head says: polled to its end, it hands over as many bytes as the
    Content-Length says, or fails with fewer, whatever the file does meanwhile. -/
theorem delivery_of_prepared {rangeHeader : Option String} {boundary : String} {media : MediaType}
    {total : UInt64} {file : F} {prepared : Logged (Prepared F)}
    (made : prepare rangeHeader boundary media total file = .ok prepared) {p : Producer F}
    (streamed : prepared.value.producer = some p) :
    let body := Feed.ofProducer p
    ∃ announced : Nat, prepared.value.headers.text? "content-length" = some (toString announced) ∧
      body.Delivers body.drain ∧ body.drain.Keeps announced := by
  intro body
  obtain ⟨hp, ready, announced, length⟩ := producer_of_prepare made streamed
  have delivered := delivers_drain ready announced file
  rw [← hp] at delivered
  exact ⟨p.job.left, length, delivered⟩

/-- A file that lost two of its five bytes: the body fails, and says so. -/
theorem delivery_of_shrunk_file :
    let file : FaultyFile := ⟨.ofContent [1, 2, 3], some 2, none⟩
    let body := Feed.ofProducer (Producer.whole file 5)
    ∃ prepared announced, prepare none "b" ⟨"text/plain", none⟩ 5 file = .ok prepared ∧
      prepared.value.headers.text? "content-length" = some (toString (announced : Nat)) ∧
      body.Delivers body.drain ∧ body.drain.Keeps announced := by
  intro file body
  have made : prepare none "b" ⟨"text/plain", none⟩ 5 file
      = .ok (prepareWhole ⟨"text/plain", none⟩ 5 file) := rfl
  obtain ⟨announced, length, delivered⟩ := delivery_of_prepared made rfl
  exact ⟨_, announced, made, length, delivered⟩

end StaticSite.Stream
