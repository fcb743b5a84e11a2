/-
  PROGRESS: how many bytes a producer still has to write, whatever its file does.

  `Job.left` counts them exactly.  Nothing is assumed of the file: a read may fail, may give fewer
  bytes than asked, and what it gives may be any bytes.  Every chunk is then taken off the count,
  and a producer finishes when, and only when, the count comes to nothing.

  Between two steps a job is OPEN: the slice under way is not overrun, and the part under way has
  something left — its separator or a byte of its slice.  This is the invariant of `gather`, and
  it is what keeps a failure from being the last thing after a complete body.

  Numbered structure:
    §1  words: how far a slice is after a read
    §2  what is left of a job, and open jobs
    §3  `gather`: one induction over its rounds
    §4  one step of a producer at work (`Outcome`)
-/
import StaticSite.Proofs.Stream.Advance
import StaticSite.Proofs.Text.Bytes

namespace StaticSite.Stream

/-! ## §1 Words -/

/-- Reading within the slice does not overrun it, and the count does not wrap. -/
theorem toNat_advance {size written : UInt64} {n : Nat} (within : written ≤ size)
    (fits : n ≤ (size - written).toNat) :
    (written + UInt64.ofNat n).toNat = written.toNat + n := by
  have hle := UInt64.le_iff_toNat_le.1 within
  have hsub := UInt64.toNat_sub_of_le _ _ within
  have hsize := size.toNat_lt
  rw [UInt64.toNat_add, UInt64.toNat_ofNat', Nat.mod_eq_of_lt (a := n) (by omega)]
  exact Nat.mod_eq_of_lt (by omega)

theorem advance_le {size written : UInt64} {n : Nat} (within : written ≤ size)
    (fits : n ≤ (size - written).toNat) : written + UInt64.ofNat n ≤ size := by
  have hle := UInt64.le_iff_toNat_le.1 within
  have hsub := UInt64.toNat_sub_of_le _ _ within
  rw [UInt64.le_iff_toNat_le, toNat_advance within fits]
  omega

/-- The bytes of a slice that are still to come. -/
theorem toNat_gap {size written : UInt64} (within : written ≤ size) :
    (size - written).toNat = size.toNat - written.toNat := UInt64.toNat_sub_of_le _ _ within

/-! ## §2 What is left of a job -/

/-- The bytes of a part: those of its separator and those of its slice. -/
def partLength (part : Range.Part) : Nat := part.separator.utf8ByteSize + part.size.toNat

/-- The bytes of a row of parts. -/
def partsLength : List Range.Part → Nat
  | [] => 0
  | part :: rest => partLength part + partsLength rest

/-- The bytes that are still to be written. -/
def Job.left : Job → Nat
  | .slice _ size written => size.toNat - written.toNat
  | .parts [] _ _ => 0
  | .parts (part :: rest) written due =>
    (if due then part.separator.utf8ByteSize else 0) + (part.size.toNat - written.toNat)
      + partsLength rest

/-- A job that can be gone on with: what is under way is not overrun, and of a part something is
    left to be written. -/
def Job.Open : Job → Prop
  | .slice _ size written => written ≤ size
  | .parts [] _ _ => False
  | .parts (part :: _) written due => written ≤ part.size ∧ (due = true ∨ written < part.size)

/-- A job that announces each of its parts with at least a byte. -/
def Job.Announced : Job → Prop
  | .slice _ _ _ => True
  | .parts left _ _ => ∀ part ∈ left, 0 < part.separator.utf8ByteSize

/-- The job of a chunk in the making. -/
def Gathering.job {F : Type} (g : Gathering F) : Job := .parts g.left g.written g.separatorDue

/-- An open job of announced parts has at least a byte left. -/
theorem left_pos {parts : List Range.Part} {written : UInt64} {due : Bool}
    (work : (Job.parts parts written due).Open) (announced : (Job.parts parts written due).Announced) :
    0 < (Job.parts parts written due).left := by
  cases parts with
  | nil => exact work.elim
  | cons part rest =>
    obtain ⟨-, hdue | hgap⟩ := work
    · have separator := announced part List.mem_cons_self
      rw [Job.left, if_pos hdue]
      omega
    · have gap := UInt64.lt_iff_toNat_lt.1 hgap
      rw [Job.left]
      omega

/-! ## §3 Gathering -/

theorem Gathered.length_bytes (g : Gathered) : g.bytes.length = g.size := by
  rw [Gathered.bytes, List.length_reverse, g.size_eq]

variable {F : Type} [ByteSource F]

/-- A read fails only if bytes were wanted. -/
theorem pos_of_readSome_error {file after : F} {limit : Nat} {e : IoError}
    (h : readSome file limit = (.error e, after)) : 0 < limit := by
  unfold readSome at h
  split at h
  next wanted => exact wanted
  next => cases h

/-- A read that gives a byte if any is wanted does not fail. -/
theorem exists_readSome {file : F} {limit : Nat}
    (gives : 0 < limit → ∃ chunk after, ByteSource.read file limit = (.ok chunk, after) ∧
      0 < chunk.val.length) :
    ∃ bytes after, readSome file limit = (.ok bytes, after) := by
  unfold readSome
  split
  next wanted =>
    obtain ⟨chunk, after, hread, some⟩ := gives wanted
    rw [hread]
    exact ⟨_, after, dif_pos some⟩
  next => exact ⟨_, file, rfl⟩

/-- The bytes in `after` were in `before` or were gathered since; the job is still open. -/
structure Gathering.Follows (after before : Gathering F) : Prop where
  work : after.job.Open
  total : after.chunk.size + after.job.left = before.chunk.size + before.job.left

omit [ByteSource F] in
theorem Gathering.Follows.trans {a b c : Gathering F} (hab : b.Follows a) (hbc : c.Follows b) :
    c.Follows a :=
  ⟨hbc.work, hbc.total.trans hab.total⟩

/-- No more bytes are read than the slice has left. -/
theorem length_le_gap {gap room : Nat} (bytes : SomeBytes (min gap room)) : bytes.val.length ≤ gap :=
  Nat.le_trans bytes.property.1 (Nat.min_le_left gap room)

/-- What `gather` may come to: the last byte is in the chunk, or the chunk is full, or it failed. -/
def Gathering.Accounts (before : Gathering F) : Gathering F × Except IoError Bool → Prop
  | (after, .ok true) => after.chunk.size = before.chunk.size + before.job.left
  | (after, .ok false) => after.Follows before ∧ chunkSize ≤ after.chunk.size
  | (after, .error _) => after.Follows before

omit [ByteSource F] in
theorem Gathering.Follows.accounts {before between : Gathering F}
    {outcome : Gathering F × Except IoError Bool} (h : between.Follows before)
    (later : between.Accounts outcome) : before.Accounts outcome := by
  obtain ⟨after, e | done⟩ := outcome
  · exact h.trans later
  · cases done with
    | false => exact ⟨h.trans later.1, later.2⟩
    | true => exact (show after.chunk.size = _ from later).trans h.total

omit [ByteSource F] in
/-- Putting the separator down takes it off the count. -/
theorem size_announced (g : Gathering F) (part : Range.Part) :
    (g.announced part).size
      = g.chunk.size + if g.separatorDue then part.separator.utf8ByteSize else 0 := by
  unfold Gathering.announced
  split
  · rw [Gathered.size_append, Text.length_utf8]
  · rfl

omit [ByteSource F] in
theorem left_of_parts {g : Gathering F} {part : Range.Part} {rest : List Range.Part}
    (hleft : g.left = part :: rest) :
    g.job.left = (if g.separatorDue then part.separator.utf8ByteSize else 0)
      + (part.size.toNat - g.written.toNat) + partsLength rest := by
  rw [Gathering.job, hleft, Job.left]

omit [ByteSource F] in
theorem within_of_open {g : Gathering F} {part : Range.Part} {rest : List Range.Part}
    (hleft : g.left = part :: rest) (work : g.job.Open) : g.written ≤ part.size := by
  rw [Gathering.job, hleft] at work
  exact work.1

omit [ByteSource F] in
/-- A read that leaves the slice incomplete. -/
theorem follows_of_incomplete {g : Gathering F} {part : Range.Part} {rest : List Range.Part}
    (hleft : g.left = part :: rest) (work : g.job.Open) (file : F) {bytes : Text.Bytes}
    (fits : bytes.length ≤ (part.size - g.written).toNat)
    (incomplete : g.written + UInt64.ofNat bytes.length ≠ part.size) :
    Gathering.Follows ⟨file, part :: rest, g.written + UInt64.ofNat bytes.length, false,
      (g.announced part).append bytes⟩ g := by
  have within := within_of_open hleft work
  have still : g.written + UInt64.ofNat bytes.length < part.size :=
    UInt64.lt_of_le_of_ne (advance_le within fits) incomplete
  refine ⟨⟨UInt64.le_of_lt still, .inr still⟩, ?_⟩
  have gap := toNat_gap within
  rw [left_of_parts hleft, Gathering.job, Job.left, Gathered.size_append, size_announced,
    toNat_advance within fits]
  simp only [Bool.false_eq_true, if_false]
  omega

omit [ByteSource F] in
/-- A read that completes the slice, another part being next. -/
theorem follows_of_complete {g : Gathering F} {part next : Range.Part} {others : List Range.Part}
    (hleft : g.left = part :: next :: others) (work : g.job.Open) (file : F) {bytes : Text.Bytes}
    (fits : bytes.length ≤ (part.size - g.written).toNat)
    (complete : g.written + UInt64.ofNat bytes.length = part.size) :
    Gathering.Follows ⟨file, next :: others, 0, true, (g.announced part).append bytes⟩ g := by
  have within := within_of_open hleft work
  refine ⟨⟨UInt64.zero_le, .inl rfl⟩, ?_⟩
  have gap := toNat_gap within
  have total := toNat_advance within fits
  rw [complete] at total
  rw [left_of_parts hleft, Gathering.job, Job.left, Gathered.size_append, size_announced,
    partsLength, partLength]
  simp only [if_true, UInt64.toNat_zero]
  omega

omit [ByteSource F] in
/-- A read that completes the last slice leaves nothing. -/
theorem size_of_last {g : Gathering F} {part : Range.Part} (hleft : g.left = [part])
    (work : g.job.Open) {bytes : Text.Bytes} (fits : bytes.length ≤ (part.size - g.written).toNat)
    (complete : g.written + UInt64.ofNat bytes.length = part.size) :
    ((g.announced part).append bytes).size = g.chunk.size + g.job.left := by
  have within := within_of_open hleft work
  have gap := toNat_gap within
  have total := toNat_advance within fits
  rw [complete] at total
  rw [left_of_parts hleft, Gathered.size_append, size_announced, partsLength]
  omega

/-- A chunk across parts takes its bytes off the count, and leaves an open job unless it is the
    last.  The induction is on the rounds of `gather`; each is followed by what it leaves. -/
theorem gather_accounts (g : Gathering F) (work : g.job.Open) : g.Accounts (gather g) := by
  fun_induction gather g with
  | case1 g room hleft =>
    -- an open job has a part under way
    rw [Gathering.job, hleft] at work
    exact work.elim
  | case2 g room part rest hleft announced limit e file hread =>
    -- nothing was read, but something was wanted: the slice is incomplete
    have wanted : 0 < (part.size - g.written).toNat := by
      have := pos_of_readSome_error hread
      omega
    have incomplete : g.written ≠ part.size := by
      intro same
      rw [same, UInt64.sub_self, UInt64.toNat_zero] at wanted
      exact absurd wanted (Nat.lt_irrefl 0)
    have same : g.written + UInt64.ofNat ([] : Text.Bytes).length = g.written := UInt64.add_zero _
    have round := follows_of_incomplete hleft work file (Nat.zero_le _) (same ▸ incomplete)
    rwa [same] at round
  | case3 g room part announced limit bytes file hread chunk written complete hleft =>
    exact size_of_last hleft work (length_le_gap bytes) complete
  | case4 g room part announced limit bytes file hread chunk written complete next others hleft e
      after hseek =>
    -- the file was not taken to the next part, but the job is there: its separator is due
    exact follows_of_complete hleft work after (length_le_gap bytes) complete
  | case5 g room part announced limit bytes file hread chunk written complete next others hleft u
      after hseek _ ih =>
    have round := follows_of_complete hleft work after (length_le_gap bytes) complete
    exact round.accounts (ih round.work)
  | case6 g room part rest hleft announced limit bytes file hread chunk written incomplete ih =>
    have round := follows_of_incomplete hleft work file (length_le_gap bytes) incomplete
    exact round.accounts (ih round.work)
  | case7 g full => exact ⟨⟨work, rfl⟩, by omega⟩

/-- Parts are left behind one after the other, from the front. -/
theorem gather_suffix (g : Gathering F) : (gather g).1.left <:+ g.left := by
  fun_induction gather g with
  | case1 g room hleft => exact List.suffix_refl _
  | case2 g room part rest hleft announced limit e file hread => exact hleft ▸ List.suffix_refl _
  | case3 g room part announced limit bytes file hread chunk written complete hleft =>
    exact hleft ▸ List.suffix_refl _
  | case4 g room part announced limit bytes file hread chunk written complete next others hleft e
      after hseek =>
    exact hleft ▸ List.suffix_cons part _
  | case5 g room part announced limit bytes file hread chunk written complete next others hleft u
      after hseek _ ih =>
    exact ih.trans (hleft ▸ List.suffix_cons part _)
  | case6 g room part rest hleft announced limit bytes file hread chunk written incomplete ih =>
    exact ih.trans (hleft ▸ List.suffix_refl _)
  | case7 g full => exact List.suffix_refl _

/-- What a chunk across parts that was gathered comes to. -/
theorem accounts_of_gather {before : Gathering F} {outcome : Gathering F × Except IoError Bool}
    (gathered : gather before = outcome) (work : before.job.Open) : before.Accounts outcome :=
  gathered ▸ gather_accounts before work

theorem suffix_of_gather {before after : Gathering F} {result : Except IoError Bool}
    (gathered : gather before = (after, result)) : after.left <:+ before.left := by
  have suffix := gather_suffix before
  rwa [gathered] at suffix

/-! ## §4 One step -/

/-- A producer that was started and is not over, in the midst of an open job of announced parts. -/
structure Producer.AtWork (p : Producer F) : Prop where
  live : ∃ stage file, p.state = .live stage file ∧ stage ≠ .idle
  work : p.job.Open
  announced : p.job.Announced

/-- What asking a producer at work for a chunk comes to.  Either it fails with something left to
    write, or it writes a chunk and is still at work, or it finishes: with the last bytes, or with
    none if none were left. -/
inductive Outcome (p : Producer F) : Step F → Prop
  | failed {q : Producer F} {e : IoError} (working : q.AtWork) (due : 0 < p.job.left) :
      Outcome p ⟨q, [], .error e⟩
  | wrote {q : Producer F} {chunk : Text.Bytes} (working : q.AtWork) (nonempty : chunk ≠ [])
      (taken : chunk.length + q.job.left = p.job.left) : Outcome p ⟨q, [.write chunk], .ok ()⟩
  | last {job : Job} {chunk : Text.Bytes} (nonempty : chunk ≠ []) (rest : chunk.length = p.job.left) :
      Outcome p (Producer.complete job [.write chunk])
  | empty {job : Job} (nothing : p.job.left = 0) : Outcome p (Producer.complete job [])

/-- A slice that is not overrun and of which nothing is left is complete. -/
theorem eq_of_gap_zero {size written : UInt64} (within : written ≤ size)
    (gap : (size - written).toNat = 0) : written = size := by
  have hgap := toNat_gap within
  have hle := UInt64.le_iff_toNat_le.1 within
  exact UInt64.toNat_inj.1 (by omega)

/-- A read that gives nothing was asked for nothing. -/
theorem gap_eq_zero {gap : Nat} (bytes : SomeBytes (min gap chunkSize)) (none : bytes.val = []) :
    gap = 0 := by
  have read := bytes.property.2
  have nothing : bytes.val.length = 0 := by rw [none]; rfl
  have room : 0 < chunkSize := by decide
  omega

/-- A chunk of a slice that is not the last: a byte at least, and the slice is not overrun. -/
theorem ne_nil_of_incomplete {size written : UInt64} (within : written ≤ size)
    (bytes : SomeBytes (min (size - written).toNat chunkSize))
    (incomplete : written + UInt64.ofNat bytes.val.length ≠ size) : bytes.val ≠ [] := by
  intro none
  refine incomplete ?_
  rw [none]
  exact (UInt64.add_zero written).trans (eq_of_gap_zero within (gap_eq_zero bytes none))

/-- A chunk that is handed over before the end is full. -/
theorem ne_nil_of_full {g : Gathered} (full : chunkSize ≤ g.size) : g.bytes ≠ [] := by
  intro none
  have size := g.length_bytes
  rw [none, List.length_nil] at size
  have : 0 < chunkSize := by decide
  omega

/-- A job that is gone on with after an advance is open. -/
theorem Advances.work_of_live {file : F} {job : Job} {step : Step F} (h : Advances file job step)
    (work : job.Open) (live : step.producer.state.isTerminal = false) : step.producer.job.Open := by
  cases h with
  | readFailed read => exact work
  | @read _ _ _ bytes => exact advance_le work (length_le_gap bytes)
  | readLast => cases live
  | gatherFailed gathered => exact (accounts_of_gather gathered work).work
  | gathered gathered => exact (accounts_of_gather gathered work).1.work
  | gatheredLast => cases live

/-- The job of an advance stays open, and its bytes are accounted for. -/
theorem Advances.outcome {file : F} {job : Job} {step : Step F} (h : Advances file job step)
    (work : job.Open) (announced : job.Announced) (state : State F) : Outcome ⟨state, job⟩ step := by
  cases h with
  | @readFailed offset size written e after read =>
    have wanted := pos_of_readSome_error read
    have gap := toNat_gap work
    refine .failed ⟨⟨_, _, rfl, nofun⟩, work, trivial⟩ ?_
    rw [Job.left]
    omega
  | @read offset size written bytes after read incomplete =>
    have fits := length_le_gap bytes
    have gap := toNat_gap work
    have some := ne_nil_of_incomplete work bytes incomplete
    rw [handOver_of_ne_nil some]
    refine .wrote ⟨⟨_, _, rfl, nofun⟩, advance_le work fits, trivial⟩ some ?_
    rw [Job.left, Job.left, toNat_advance work fits]
    omega
  | @readLast offset size written bytes after read complete =>
    have total := toNat_advance work (length_le_gap bytes)
    rw [complete] at total
    -- nothing is read only if nothing is left, and then nothing is written either
    by_cases none : bytes.val = []
    · rw [none, List.length_nil] at total
      rw [none]
      exact .empty (by rw [Job.left]; omega)
    · rw [handOver_of_ne_nil none]
      exact .last none (by rw [Job.left]; omega)
  | gatherFailed gathered =>
    have suffix := suffix_of_gather gathered
    exact .failed ⟨⟨_, _, rfl, nofun⟩, (accounts_of_gather gathered work).work,
      fun part hpart => announced part (suffix.subset hpart)⟩ (left_pos work announced)
  | @gathered left written due g gathered =>
    have suffix := suffix_of_gather gathered
    obtain ⟨⟨work, total⟩, full⟩ := accounts_of_gather gathered work
    have size := g.chunk.length_bytes
    refine .wrote ⟨⟨_, _, rfl, nofun⟩, work, fun part hpart => announced part (suffix.subset hpart)⟩
      (ne_nil_of_full full) ?_
    exact (congrArg (· + _) size).trans (total.trans (Nat.zero_add _))
  | @gatheredLast left written due g gathered =>
    have positive := left_pos work announced
    have total : g.chunk.size = 0 + (Job.parts left written due).left :=
      accounts_of_gather gathered work
    have size : g.chunk.bytes.length = (Job.parts left written due).left :=
      g.chunk.length_bytes.trans (total.trans (Nat.zero_add _))
    -- the last chunk holds all that was left, and that was at least a separator or a byte
    have some : g.chunk.bytes ≠ [] := by
      intro none
      rw [none, List.length_nil] at size
      omega
    exact .last some size

/-- Asking a producer at work for a chunk. -/
theorem next_outcome {p : Producer F} (h : p.AtWork) : Outcome p p.next := by
  obtain ⟨state, job⟩ := p
  obtain ⟨⟨stage, file, rfl, begun⟩, work, announced⟩ := h
  exact (next_advances begun file job).outcome work announced (.live stage file)

end StaticSite.Stream
