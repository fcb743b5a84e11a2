/-
  CONTENT: which bytes a producer writes.

  A file is STEADY if it has the same content all the time: a read gives the beginning of what lies
  ahead, and a seek goes where it is told.  Reads may be short and may fail, but a read that fails
  uses nothing up.  A steady file is PROMPT if no read fails, and none is empty before the end.

  `Job.rest` is what a job has still to write, out of that content.  Two things are shown of it.
  Whatever a step writes is its beginning, and what is left then is the rest of the new job; and over
  a prompt file that is long enough no step fails (`next_speaks`).  So a body hands over the
  beginning of it (`content_of_delivers`), and over a prompt file all of it (`drain_of_prompt`).

  Numbered structure:
    §1  stretches of the content
    §2  steady and prompt files
    §3  the rest of a job, and where the file has to stand
    §4  `gather`
    §5  one step
    §6  polling to the end
-/
import StaticSite.Proofs.Stream.Delivery

namespace StaticSite.Stream

/-! ## §1 Stretches -/

/-- `size` bytes of the content from position `start` on, or what there is of them. -/
def stretch (data : Text.Bytes) (start size : Nat) : Text.Bytes := (data.drop start).take size

/-- The bytes that were read, and the stretch behind them. -/
theorem stretch_of_prefix {data bytes : Text.Bytes} {start size : Nat}
    (h : bytes <+: data.drop start) (fits : bytes.length ≤ size) :
    stretch data start size
      = bytes ++ stretch data (start + bytes.length) (size - bytes.length) := by
  obtain ⟨ahead, hahead⟩ := h
  have behind : data.drop (start + bytes.length) = ahead := by
    rw [← List.drop_drop, ← hahead, List.drop_left]
  rw [stretch, stretch, behind, ← hahead, List.take_append, List.take_of_length_le fits]

theorem stretch_zero (data : Text.Bytes) (start : Nat) : stretch data start 0 = [] :=
  List.take_zero

theorem length_stretch {data : Text.Bytes} {start size : Nat} (inside : start + size ≤ data.length) :
    (stretch data start size).length = size := by
  rw [stretch, List.length_take, List.length_drop]
  omega

/-! ## §2 Files -/

variable {F : Type} [ByteSource F]

/-- A file that has the content `data` all the time; `At` says at which position it stands. -/
structure Steady (data : Text.Bytes) (At : F → Nat → Prop) : Prop where
  read : ∀ {file after : F} {position limit : Nat} {chunk : Chunk limit}, At file position →
    ByteSource.read file limit = (.ok chunk, after) →
    chunk.val <+: data.drop position ∧ At after (position + chunk.val.length)
  failedRead : ∀ {file after : F} {position limit : Nat} {e : IoError}, At file position →
    ByteSource.read file limit = (.error e, after) → At after position
  seek : ∀ {file : F} {position : Nat} (target : UInt64), At file position →
    ∃ after, ByteSource.seek file target = (.ok (), after) ∧ At after target.toNat

/-- A steady file of which every read gives something that there is. -/
structure Prompt (data : Text.Bytes) (At : F → Nat → Prop) : Prop extends Steady data At where
  prompt : ∀ {file : F} {position limit : Nat}, At file position → position < data.length →
    0 < limit → ∃ chunk after, ByteSource.read file limit = (.ok chunk, after) ∧ 0 < chunk.val.length

variable {data : Text.Bytes} {At : F → Nat → Prop}

theorem Steady.readSome (steady : Steady data At) {file after : F} {position limit : Nat}
    {bytes : SomeBytes limit} (stands : At file position)
    (h : readSome file limit = (.ok bytes, after)) :
    bytes.val <+: data.drop position ∧ At after (position + bytes.val.length) := by
  unfold Stream.readSome at h
  split at h
  next wanted =>
    split at h
    next => cases h
    next chunk file' hread =>
      split at h
      next =>
        cases h
        exact steady.read stands hread
      next => cases h
  next =>
    cases h
    exact ⟨List.nil_prefix, stands⟩

theorem Steady.failedReadSome (steady : Steady data At) {file after : F} {position limit : Nat}
    {e : IoError} (stands : At file position) (h : Stream.readSome file limit = (.error e, after)) :
    At after position := by
  unfold Stream.readSome at h
  split at h
  next wanted =>
    split at h
    next e' file' hread =>
      cases h
      exact steady.failedRead stands hread
    next chunk file' hread =>
      split at h
      next => cases h
      next none =>
        cases h
        have moved := (steady.read stands hread).2
        rwa [Nat.eq_zero_of_not_pos none] at moved
  next => cases h

/-- A steady file is taken where it should be. -/
theorem Steady.of_seek (steady : Steady data At) {file after : F} {position : Nat} {target : UInt64}
    {result : Except IoError Unit} (stands : At file position)
    (h : ByteSource.seek file target = (result, after)) : result = .ok () ∧ At after target.toNat := by
  obtain ⟨after', h', stands'⟩ := steady.seek target stands
  rw [h'] at h
  cases h
  exact ⟨rfl, stands'⟩

/-- Reading fails only behind the end. -/
theorem Prompt.le_of_failed (prompt : Prompt data At) {file after : F} {position limit : Nat}
    {e : IoError} (stands : At file position) (h : Stream.readSome file limit = (.error e, after)) :
    data.length ≤ position := by
  refine Nat.not_lt.1 fun inside => ?_
  obtain ⟨bytes, after', h'⟩ := exists_readSome (prompt.prompt stands inside)
  rw [h'] at h
  cases h

/-! ## §3 The rest of a job -/

/-- The bytes of a part. -/
def partBytes (data : Text.Bytes) (part : Range.Part) : Text.Bytes :=
  Text.utf8 part.separator ++ stretch data part.offset.toNat part.size.toNat

/-- Where the file has to stand for the next byte of the slice under way. -/
def Job.place : Job → Nat
  | .slice offset _ written => (offset.getD 0).toNat + written.toNat
  | .parts [] _ _ => 0
  | .parts (part :: _) written _ => part.offset.toNat + written.toNat

/-- What is still to be written. -/
def Job.rest (data : Text.Bytes) : Job → Text.Bytes
  | .slice offset size written =>
    stretch data ((offset.getD 0).toNat + written.toNat) (size.toNat - written.toNat)
  | .parts [] _ _ => []
  | .parts (part :: rest) written due =>
    (if due then Text.utf8 part.separator else [])
      ++ stretch data (part.offset.toNat + written.toNat) (part.size.toNat - written.toNat)
      ++ rest.flatMap (partBytes data)

/-- All slices of the job lie in the content. -/
def Job.Fits (data : Text.Bytes) : Job → Prop
  | .slice offset size _ => (offset.getD 0).toNat + size.toNat ≤ data.length
  | .parts left _ _ => ∀ part ∈ left, part.offset.toNat + part.size.toNat ≤ data.length

theorem length_partBytes {part : Range.Part}
    (inside : part.offset.toNat + part.size.toNat ≤ data.length) :
    (partBytes data part).length = partLength part := by
  rw [partBytes, List.length_append, Text.length_utf8, length_stretch inside, partLength]

theorem length_flatMap_partBytes {parts : List Range.Part}
    (inside : ∀ part ∈ parts, part.offset.toNat + part.size.toNat ≤ data.length) :
    (parts.flatMap (partBytes data)).length = partsLength parts := by
  induction parts with
  | nil => rfl
  | cons part rest ih =>
    obtain ⟨hpart, hrest⟩ := List.forall_mem_cons.1 inside
    rw [List.flatMap_cons, List.length_append, length_partBytes hpart, ih hrest, partsLength]

/-- If the content has all the slices, the rest is as long as what is left. -/
theorem length_rest {job : Job} (work : job.Open) (fits : job.Fits data) :
    (job.rest data).length = job.left := by
  cases job with
  | slice offset size written =>
    have hle := UInt64.le_iff_toNat_le.1 (show written ≤ size from work)
    have inside : (offset.getD 0).toNat + size.toNat ≤ data.length := fits
    exact length_stretch (by omega)
  | parts left written due =>
    cases left with
    | nil => exact work.elim
    | cons part rest =>
      obtain ⟨inside, others⟩ := List.forall_mem_cons.1 fits
      have hle := UInt64.le_iff_toNat_le.1 work.1
      have separator : (if due then Text.utf8 part.separator else []).length
          = if due then part.separator.utf8ByteSize else 0 := by
        rw [apply_ite List.length, Text.length_utf8]
        rfl
      rw [Job.rest, Job.left, List.length_append, List.length_append, separator,
        length_flatMap_partBytes others, length_stretch (by omega)]

omit [ByteSource F] in
theorem rest_of_parts {g : Gathering F} {part : Range.Part} {rest : List Range.Part}
    (hleft : g.left = part :: rest) :
    g.job.rest data = (if g.separatorDue then Text.utf8 part.separator else [])
      ++ stretch data (part.offset.toNat + g.written.toNat) (part.size.toNat - g.written.toNat)
      ++ rest.flatMap (partBytes data) := by
  rw [Gathering.job, hleft, Job.rest]

omit [ByteSource F] in
theorem place_of_parts {g : Gathering F} {part : Range.Part} {rest : List Range.Part}
    (hleft : g.left = part :: rest) : g.job.place = part.offset.toNat + g.written.toNat := by
  rw [Gathering.job, hleft, Job.place]

/-! ## §4 Gathering -/

omit [ByteSource F] in
theorem bytes_announced (g : Gathering F) (part : Range.Part) :
    (g.announced part).bytes
      = g.chunk.bytes ++ if g.separatorDue then Text.utf8 part.separator else [] := by
  unfold Gathering.announced
  split
  · rw [Gathered.bytes_append]
  · exact (List.append_nil _).symm

/-- What `after` holds and has still to gather is what `before` held and had to; the file stands
    where the next byte is. -/
structure Gathering.Continues (data : Text.Bytes) (At : F → Nat → Prop)
    (after before : Gathering F) : Prop where
  stands : At after.file after.job.place
  text : after.chunk.bytes ++ after.job.rest data = before.chunk.bytes ++ before.job.rest data
  fits : before.job.Fits data → after.job.Fits data

/-- The outcome of `gather` continues what there was; a last chunk holds all the rest.  It is no
    failure if the file is prompt and long enough. -/
def Gathering.Speaks (data : Text.Bytes) (At : F → Nat → Prop) (before : Gathering F) :
    Gathering F × Except IoError Bool → Prop
  | (after, .ok true) => after.chunk.bytes = before.chunk.bytes ++ before.job.rest data
  | (after, .ok false) => after.Continues data At before
  | (after, .error _) =>
    after.Continues data At before ∧ (Prompt data At → ¬before.job.Fits data)

theorem Gathering.Continues.speaks {before between : Gathering F}
    {outcome : Gathering F × Except IoError Bool} (h : between.Continues data At before)
    (later : between.Speaks data At outcome) : before.Speaks data At outcome := by
  obtain ⟨after, e | done⟩ := outcome
  · obtain ⟨⟨stands, text, fits⟩, due⟩ := later
    exact ⟨⟨stands, text.trans h.text, fits ∘ h.fits⟩, fun prompt => due prompt ∘ h.fits⟩
  · cases done with
    | false =>
      obtain ⟨stands, text, fits⟩ := later
      exact ⟨stands, text.trans h.text, fits ∘ h.fits⟩
    | true => exact (show after.chunk.bytes = _ from later).trans h.text

omit [ByteSource F] in
/-- A round puts down the separator and the bytes that were read. -/
theorem text_of_round {g : Gathering F} {part : Range.Part} {rest : List Range.Part}
    (hleft : g.left = part :: rest) (work : g.job.Open) {bytes : Text.Bytes}
    (fits : bytes.length ≤ (part.size - g.written).toNat)
    (next : bytes <+: data.drop g.job.place) :
    ((g.announced part).append bytes).bytes
        ++ (stretch data (part.offset.toNat + (g.written.toNat + bytes.length))
          (part.size.toNat - (g.written.toNat + bytes.length)) ++ rest.flatMap (partBytes data))
      = g.chunk.bytes ++ g.job.rest data := by
  have gap := toNat_gap (within_of_open hleft work)
  rw [place_of_parts hleft] at next
  rw [rest_of_parts hleft, stretch_of_prefix next (gap ▸ fits), Gathered.bytes_append,
    bytes_announced, Nat.add_assoc, Nat.sub_add_eq]
  simp only [List.append_assoc]

omit [ByteSource F] in
/-- A read that leaves the slice incomplete. -/
theorem continues_of_incomplete {g : Gathering F} {part : Range.Part} {rest : List Range.Part}
    (hleft : g.left = part :: rest) (work : g.job.Open) {file : F} {bytes : Text.Bytes}
    (fits : bytes.length ≤ (part.size - g.written).toNat)
    (next : bytes <+: data.drop g.job.place) (stands : At file (g.job.place + bytes.length)) :
    Gathering.Continues data At ⟨file, part :: rest, g.written + UInt64.ofNat bytes.length, false,
      (g.announced part).append bytes⟩ g := by
  have total := toNat_advance (within_of_open hleft work) fits
  refine ⟨?_, ?_, ?_⟩
  · show At file (part.offset.toNat + (g.written + UInt64.ofNat bytes.length).toNat)
    rwa [total, ← Nat.add_assoc, ← place_of_parts hleft]
  · rw [← text_of_round hleft work fits next, Gathering.job, Job.rest, total]
    rfl
  · rw [Gathering.job, hleft]
    exact id

omit [ByteSource F] in
/-- A read that completes the slice: the stretch behind it is empty. -/
theorem text_of_complete {g : Gathering F} {part : Range.Part} {rest : List Range.Part}
    (hleft : g.left = part :: rest) (work : g.job.Open) {bytes : Text.Bytes}
    (fits : bytes.length ≤ (part.size - g.written).toNat)
    (next : bytes <+: data.drop g.job.place)
    (complete : g.written + UInt64.ofNat bytes.length = part.size) :
    ((g.announced part).append bytes).bytes ++ rest.flatMap (partBytes data)
      = g.chunk.bytes ++ g.job.rest data := by
  have total := toNat_advance (within_of_open hleft work) fits
  rw [complete] at total
  rw [← text_of_round hleft work fits next, ← total, Nat.sub_self, stretch_zero, List.nil_append]

omit [ByteSource F] in
/-- A read that completes the slice, the file being taken to the next one. -/
theorem continues_of_complete {g : Gathering F} {part following : Range.Part}
    {others : List Range.Part} (hleft : g.left = part :: following :: others) (work : g.job.Open)
    {file : F} {bytes : Text.Bytes} (fits : bytes.length ≤ (part.size - g.written).toNat)
    (next : bytes <+: data.drop g.job.place)
    (complete : g.written + UInt64.ofNat bytes.length = part.size)
    (stands : At file following.offset.toNat) :
    Gathering.Continues data At ⟨file, following :: others, 0, true, (g.announced part).append bytes⟩
      g := by
  refine ⟨stands, ?_, ?_⟩
  · rw [← text_of_complete hleft work fits next complete]
    rfl
  · rw [Gathering.job, hleft]
    intro all other hother
    exact all other (List.mem_cons_of_mem part hother)

omit [ByteSource F] in
/-- Bytes of the slice that are still to come are there. -/
theorem place_lt_of_fits {g : Gathering F} {part : Range.Part} {rest : List Range.Part}
    (hleft : g.left = part :: rest) (work : g.job.Open) (fits : g.job.Fits data)
    (due : 0 < (part.size - g.written).toNat) : g.job.place < data.length := by
  have gap := toNat_gap (within_of_open hleft work)
  rw [Gathering.job, hleft] at fits
  have inside := fits part List.mem_cons_self
  rw [place_of_parts hleft]
  omega

/-- A chunk across parts is the beginning of what there was to gather.  By induction on the rounds
    of `gather`. -/
theorem gather_speaks (steady : Steady data At) (g : Gathering F) (work : g.job.Open)
    (stands : At g.file g.job.place) : g.Speaks data At (gather g) := by
  fun_induction gather g with
  | case1 g room hleft =>
    rw [Gathering.job, hleft] at work
    exact work.elim
  | case2 g room part rest hleft announced limit e file hread =>
    -- the separator is put down although nothing was read
    have still : g.written + UInt64.ofNat ([] : Text.Bytes).length = g.written := UInt64.add_zero _
    have nothing : ([] : Text.Bytes) <+: data.drop g.job.place := List.nil_prefix
    have round := continues_of_incomplete hleft work (Nat.zero_le _) nothing
      (steady.failedReadSome stands hread)
    rw [still] at round
    refine ⟨round, fun prompt fits => ?_⟩
    have wanted := pos_of_readSome_error hread
    have inside := place_lt_of_fits hleft work fits (by omega)
    exact absurd inside (Nat.not_lt.2 (prompt.le_of_failed stands hread))
  | case3 g room part announced limit bytes file hread chunk written complete hleft =>
    obtain ⟨next, -⟩ := steady.readSome stands hread
    have text := text_of_complete hleft work (length_le_gap bytes) next complete
    exact (List.append_nil _).symm.trans text
  | case4 g room part announced limit bytes file hread chunk written complete following others hleft
      e after hseek =>
    -- does not come up: a steady file can be taken anywhere
    obtain ⟨-, stands⟩ := steady.readSome stands hread
    cases (steady.of_seek stands hseek).1
  | case5 g room part announced limit bytes file hread chunk written complete following others hleft
      u after hseek _ ih =>
    obtain ⟨next, stands⟩ := steady.readSome stands hread
    have stands := (steady.of_seek stands hseek).2
    have fits := length_le_gap bytes
    have open' := (follows_of_complete hleft work after fits complete).work
    have round := continues_of_complete hleft work fits next complete stands
    exact round.speaks (ih open' round.stands)
  | case6 g room part rest hleft announced limit bytes file hread chunk written incomplete ih =>
    obtain ⟨next, stands⟩ := steady.readSome stands hread
    have fits := length_le_gap bytes
    have open' := (follows_of_incomplete hleft work file fits incomplete).work
    have round := continues_of_incomplete hleft work fits next stands
    exact round.speaks (ih open' round.stands)
  | case7 g full => exact ⟨stands, rfl, id⟩

theorem speaks_of_gather (steady : Steady data At) {before : Gathering F}
    {outcome : Gathering F × Except IoError Bool} (gathered : gather before = outcome)
    (work : before.job.Open) (stands : At before.file before.job.place) :
    before.Speaks data At outcome :=
  gathered ▸ gather_speaks steady before work stands

/-! ## §5 One step -/

/-- What a producer has still to write; once it is over, nothing. -/
def Producer.rest (data : Text.Bytes) (p : Producer F) : Text.Bytes :=
  if p.state.isTerminal then [] else p.job.rest data

/-- The file of a live producer stands where the next byte is. -/
def Producer.Stands (At : F → Nat → Prop) (p : Producer F) : Prop :=
  ∀ stage file, p.state = .live stage file → At file p.job.place

/-- What a step wrote, and what is left to be written after it, are what was left before. -/
structure Step.Continues (data : Text.Bytes) (At : F → Nat → Prop) (step : Step F)
    (p : Producer F) : Prop where
  text : (chunksOf step.events).flatten ++ step.producer.rest data = p.job.rest data
  stands : step.producer.Stands At
  fits : p.job.Fits data → step.producer.state.isTerminal = false → step.producer.job.Fits data

/-- A step that succeeds continues what there was; over a prompt file that is long enough it
    succeeds. -/
def Step.Speaks (data : Text.Bytes) (At : F → Nat → Prop) (step : Step F) (p : Producer F) : Prop :=
  match step.result with
  | .ok _ => step.Continues data At p
  | .error _ => Prompt data At → ¬p.job.Fits data

omit [ByteSource F] in
/-- A chunk is among those that are handed over unless it is empty. -/
theorem flatten_chunksOf_write (chunk : Text.Bytes) (others : List Event) :
    (chunksOf (.write chunk :: others)).flatten = chunk ++ (chunksOf others).flatten := by
  cases chunk with
  | nil => rfl
  | cons b bytes => rfl

omit [ByteSource F] in
/-- The last step of a job writes all of the rest. -/
theorem continues_of_last {p : Producer F} {job : Job} {chunk : Text.Bytes} {events : List Event}
    (written : (chunksOf (events ++ [.unregister, .finish, .close])).flatten = chunk)
    (text : chunk = p.job.rest data) :
    (Producer.complete (F := F) job events).Continues data At p where
  text := by rw [← text, ← written]; exact List.append_nil _
  stands := nofun
  fits := nofun

omit [ByteSource F] in
/-- What is handed over of a slice is what was read. -/
theorem flatten_chunksOf_handOver (bytes : Text.Bytes) (others : List Event) :
    (chunksOf (handOver bytes ++ others)).flatten = bytes ++ (chunksOf others).flatten := by
  cases bytes with
  | nil => rfl
  | cons b rest => exact flatten_chunksOf_write (b :: rest) others

/-- The bytes that were read of a slice are the next ones. -/
theorem rest_of_read {offset : Option UInt64} {size written : UInt64} (within : written ≤ size)
    (bytes : SomeBytes (min (size - written).toNat chunkSize))
    (next : bytes.val <+: data.drop (Job.slice offset size written).place) :
    (Job.slice offset size written).rest data = bytes.val
      ++ (Job.slice offset size (written + UInt64.ofNat bytes.val.length)).rest data := by
  have fits := length_le_gap bytes
  have gap := toNat_gap within
  rw [Job.rest, Job.rest, toNat_advance within fits, ← Nat.add_assoc, Nat.sub_add_eq]
  exact stretch_of_prefix next (gap ▸ fits)

/-- An advance over a steady file hands over the next bytes of the job. -/
theorem Advances.speaks {file : F} {job : Job} {step : Step F} (h : Advances file job step)
    (steady : Steady data At) (work : job.Open) (stands : At file job.place) (state : State F) :
    step.Speaks data At ⟨state, job⟩ := by
  cases h with
  | @readFailed offset size written e after read =>
    -- a prompt file has the byte that was asked for
    intro prompt fits
    have wanted := pos_of_readSome_error read
    have gap := toNat_gap work
    have inside : (offset.getD 0).toNat + size.toNat ≤ data.length := fits
    have place : (Job.slice offset size written).place = (offset.getD 0).toNat + written.toNat := rfl
    have behind := prompt.le_of_failed stands read
    omega
  | @read offset size written bytes after read =>
    obtain ⟨next, stands⟩ := steady.readSome stands read
    have total := toNat_advance work (length_le_gap bytes)
    refine ⟨?_, ?_, fun inside _ => inside⟩
    · have written' := flatten_chunksOf_handOver bytes.val []
      rw [List.append_nil] at written'
      rw [rest_of_read work bytes next]
      exact congrArg (· ++ _) (written'.trans (List.append_nil _))
    · rintro stage file' ⟨⟩
      rw [Job.place, total, ← Nat.add_assoc]
      exact stands
  | @readLast offset size written bytes after read complete =>
    obtain ⟨next, -⟩ := steady.readSome stands read
    have rest := rest_of_read work bytes next
    have nothing : (Job.slice offset size (written + UInt64.ofNat bytes.val.length)).rest data
        = [] := by
      rw [Job.rest, complete, Nat.sub_self, stretch_zero]
    rw [nothing] at rest
    exact continues_of_last (flatten_chunksOf_handOver _ _) rest.symm
  | gatherFailed gathered => exact (speaks_of_gather steady gathered work stands).2
  | gathered gathered =>
    have speaks := speaks_of_gather steady gathered work stands
    refine ⟨?_, ?_, fun fits _ => speaks.fits fits⟩
    · rw [flatten_chunksOf_write]
      exact (congrArg (· ++ _) (List.append_nil _)).trans speaks.text
    · rintro stage file' ⟨⟩
      exact speaks.stands
  | @gatheredLast left written due g gathered =>
    have all : g.chunk.bytes = (Job.parts left written due).rest data :=
      speaks_of_gather steady gathered work stands
    refine continues_of_last ?_ all
    rw [List.singleton_append, flatten_chunksOf_write]
    exact List.append_nil _

/-- Asking a producer at work for a chunk. -/
theorem next_speaks (steady : Steady data At) {p : Producer F} (h : p.AtWork)
    (stands : p.Stands At) : p.next.Speaks data At p := by
  obtain ⟨state, job⟩ := p
  obtain ⟨⟨stage, file, rfl, begun⟩, work, announced⟩ := h
  exact (next_advances begun file job).speaks steady work (stands stage file rfl) (.live stage file)

/-! ## §6 Polling to the end -/

omit [ByteSource F] in
theorem text_of_wrote {p q : Producer F} {chunk : Text.Bytes} {result : Except IoError Unit}
    (h : Step.Continues data At ⟨q, [.write chunk], result⟩ p) (live : q.state.isTerminal = false) :
    chunk ++ q.job.rest data = p.job.rest data := by
  have text := h.text
  rw [flatten_chunksOf_write, Producer.rest, live] at text
  exact (congrArg (· ++ _) (List.append_nil chunk).symm).trans text

omit [ByteSource F] in
theorem text_of_last {p : Producer F} {job : Job} {chunk : Text.Bytes}
    (h : (Producer.complete (F := F) job [.write chunk]).Continues data At p) :
    chunk = p.job.rest data := by
  have text := h.text
  rw [Producer.complete, List.singleton_append, flatten_chunksOf_write] at text
  exact ((List.append_nil _).trans (List.append_nil chunk)).symm.trans text

/-- What a body hands over is the beginning of what there is to be written; it does not fail if the
    file is prompt and long enough.  By induction on the polls. -/
theorem content_of_delivers (steady : Steady data At) {feed : Feed F} {d : Delivery}
    (h : feed.Delivers d) {p : Producer F} (answered : Answered p feed.poll) (working : p.AtWork)
    (stands : p.Stands At) :
    d.bytes <+: p.job.rest data ∧ (Prompt data At → p.job.Fits data → d.failure = none) := by
  have speaks := next_speaks steady working stands
  induction h generalizing p with
  | ended hpoll => exact ⟨List.nil_prefix, fun _ _ => rfl⟩
  | failed hpoll =>
    refine ⟨List.nil_prefix, fun prompt fits => ?_⟩
    rw [hpoll] at answered
    cases answered with
    | failed step due closed =>
      rw [Step.Speaks, step] at speaks
      exact absurd fits (speaks prompt)
  | @more feed next chunk events d hpoll later ih =>
    rw [hpoll] at answered
    cases answered with
    | data step working nonempty taken unclosed =>
      rw [step] at speaks
      have live := not_isTerminal_of_atWork working.producer
      have text := text_of_wrote speaks live
      obtain ⟨_, stands, fits⟩ := speaks
      obtain ⟨content, sound⟩ := ih (poll_answered working) working.producer stands
        (next_speaks steady working.producer stands)
      refine ⟨?_, fun prompt inside => sound prompt (fits inside live)⟩
      rw [← text]
      exact (List.prefix_append_right_inj chunk).2 content
    | last step isOver nonempty rest closed =>
      rw [step] at speaks
      have text := text_of_last speaks
      -- the body is over: the next poll is its end
      have hover := poll_over isOver
      cases later with
      | ended h =>
        refine ⟨⟨[], ?_⟩, fun _ _ => rfl⟩
        rw [← text]
        exact (List.append_nil _).trans (List.append_nil chunk)
      | failed h =>
        rw [hover] at h
        cases h
      | more h later =>
        rw [hover] at h
        cases h

/-- A steady file is taken to the first byte of a job. -/
theorem start_of_steady (steady : Steady data At) {job : Job} (ready : job.Ready) {file : F}
    (opened : At file 0) :
    ∃ after, (Producer.mk (.live .idle file) job).start
      = ⟨⟨.live .started after, job⟩, [.register], .ok ()⟩ ∧ At after job.place := by
  have starts := start_starts file job
  generalize (Producer.mk (.live .idle file) job).start = step at starts
  cases starts with
  | inPlace =>
    obtain ⟨rfl, -⟩ := ready
    exact ⟨file, rfl, opened⟩
  | sliceFailed seek => cases (steady.of_seek opened seek).1
  | slice seek =>
    obtain ⟨rfl, -⟩ := ready
    exact ⟨_, rfl, (steady.of_seek opened seek).2⟩
  | noParts => exact absurd rfl ready.1
  | partsFailed seek => cases (steady.of_seek opened seek).1
  | parts seek =>
    obtain ⟨-, rfl, rfl⟩ := ready
    exact ⟨_, rfl, (steady.of_seek opened seek).2⟩

/-- A body over a prompt file that is long enough hands over all there is to be written. -/
theorem drain_of_prompt (prompt : Prompt data At) {job : Job} (ready : job.Ready)
    (announced : job.Announced) (fits : job.Fits data) {file : F} (opened : At file 0) :
    let body := Feed.ofProducer ⟨.live .idle file, job⟩
    body.Delivers body.drain ∧ body.drain.Keeps job.left ∧ body.drain.failure = none ∧
    body.drain.bytes = job.rest data := by
  intro body
  obtain ⟨delivers, keeps⟩ := delivers_drain ready announced file
  obtain ⟨after, hstart, stands⟩ := start_of_steady prompt.toSteady ready opened
  rcases first_poll ready announced file with ⟨e, -, hfailed, -⟩ | ⟨after', hstart', answered⟩
  · -- does not come up: the file is taken to its first byte
    rw [hstart] at hfailed
    cases hfailed
  · rw [hstart] at hstart'
    cases hstart'
    have working : Producer.AtWork (F := F) ⟨.live .started after, job⟩ :=
      ⟨⟨.started, after, rfl, nofun⟩, ready.open, announced⟩
    obtain ⟨content, sound⟩ := content_of_delivers prompt.toSteady delivers answered working
      (by rintro stage file' ⟨⟩; exact stands)
    have unfailed := sound prompt fits
    -- a beginning that is as long as the whole is the whole
    refine ⟨delivers, keeps, unfailed, content.eq_of_length ?_⟩
    exact (keeps.bytes_eq_iff.2 unfailed).trans (length_rest ready.open fits).symm

end StaticSite.Stream
