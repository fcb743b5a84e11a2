/-
  RETRIES: what becomes of a body whose owner goes on after a failure.

  A steady file loses nothing by a read that fails, so the next byte is always where the job says.
  Yet a chunk across parts is gathered from several reads, and a failure in their midst throws away
  what was gathered before it, while the progress stands: the next chunk begins behind it.  These
  bytes are LOST.

  `Call.passage` divides what a call takes out of the job into the bytes that it sends and the bytes
  that it loses.  Put together again they are a beginning of the body, whatever the row of calls.
  What was written alone is one only if nothing was lost: always for a slice, which is read once for
  a chunk, and for parts as long as no call fails (`written_of_calls`).

  Numbered structure:
    §1  what a call sends and what it loses
    §2  producers in order
    §3  one call (`passes`)
    §4  rows of calls, by induction on the row
-/
import Mathlib.Data.List.Permutation
import StaticSite.Proofs.Stream.Download
import StaticSite.Proofs.Stream.Lifecycle

namespace StaticSite.Stream

/-! ## §1 Sent and lost -/

/-- A job of which nothing is done yet. -/
def Job.Fresh : Job → Prop
  | .slice _ _ written => written = 0
  | .parts _ written due => written = 0 ∧ due = true

/-- A job that is one slice. -/
def Job.isSlice : Job → Bool
  | .slice _ _ _ => true
  | .parts _ _ _ => false

/-- The body that a job is to write. -/
def Job.body (data : Text.Bytes) : Job → Text.Bytes
  | .slice offset size _ => stretch data (offset.getD 0).toNat size.toNat
  | .parts left _ _ => left.flatMap (partBytes data)

/-- What a call takes out of a job. -/
structure Passage where
  sent : Text.Bytes
  /-- Gathered for a chunk that a failure kept from being written. -/
  lost : Text.Bytes

/-- All of it, in order: what is lost is not sent in the same call. -/
def Passage.bytes (passage : Passage) : Text.Bytes := passage.sent ++ passage.lost

variable {F : Type} [ByteSource F]

/-- What the failure of a chunk across parts throws away. -/
def lostParts (file : F) (left : List Range.Part) (written : UInt64) (separatorDue : Bool) :
    Text.Bytes :=
  match gather ⟨file, left, written, separatorDue, .empty⟩ with
  | (g, .error _) => g.chunk.bytes
  | (_, .ok _) => []

/-- What a call loses: only asking for a chunk across parts can. -/
def Call.lost (call : Call) (p : Producer F) : Text.Bytes :=
  match call, p.state, p.job with
  | .next, .live .started file, .parts left written due => lostParts file left written due
  | .next, .live .producing file, .parts left written due => lostParts file left written due
  | _, _, _ => []

/-- What a call sends and what it loses. -/
def Call.passage (call : Call) (p : Producer F) : Passage :=
  ⟨(chunksOf (call.on p).events).flatten, call.lost p⟩

/-- Only asking for a chunk can lose anything. -/
theorem lost_of_ne_next {call : Call} (h : call ≠ .next) (p : Producer F) : call.lost p = [] := by
  cases call with
  | start => rfl
  | stop => rfl
  | next => exact absurd rfl h

/-- A slice is read once for a chunk, so nothing is gathered that could be lost. -/
theorem lost_of_isSlice (call : Call) {p : Producer F} (h : p.job.isSlice = true) :
    call.lost p = [] := by
  obtain ⟨state, job⟩ := p
  cases job with
  | parts left written due => cases h
  | slice offset size written =>
    cases call with
    | start => rfl
    | stop => rfl
    | next =>
      cases state with
      | finished => rfl
      | stopped => rfl
      | live stage file => cases stage <;> rfl

theorem lost_of_over (call : Call) {p : Producer F} (isOver : p.state.isTerminal = true) :
    call.lost p = [] := by
  obtain ⟨state, job⟩ := p
  cases state with
  | live stage file => cases isOver
  | finished => cases call <;> rfl
  | stopped => cases call <;> rfl

/-- What each of some calls sends and loses. -/
def Producer.passages (p : Producer F) : List Call → List Passage
  | [] => []
  | call :: calls => call.passage p :: (call.on p).producer.passages calls

/-- What each of some calls answers. -/
def Producer.results (p : Producer F) : List Call → List (Except IoError Unit)
  | [] => []
  | call :: calls => (call.on p).result :: (call.on p).producer.results calls

omit [ByteSource F] in
/-- Nothing of a fresh job is written. -/
theorem rest_of_fresh {data : Text.Bytes} {job : Job} (fresh : job.Fresh) :
    job.rest data = job.body data := by
  cases job with
  | slice offset size written =>
    obtain rfl : written = 0 := fresh
    rfl
  | parts left written due =>
    obtain ⟨rfl, rfl⟩ := fresh
    exact rest_of_fresh_parts left

omit [ByteSource F] in
theorem Job.Fresh.work {job : Job} (fresh : job.Fresh) (some : ∀ written due, job ≠ .parts [] written due) :
    job.Open := by
  cases job with
  | slice offset size written =>
    obtain rfl : written = 0 := fresh
    exact UInt64.zero_le
  | parts left written due =>
    obtain ⟨rfl, rfl⟩ := fresh
    cases left with
    | nil => exact absurd rfl (some 0 true)
    | cons part rest => exact ⟨UInt64.zero_le, .inl rfl⟩

/-! ## §2 Producers in order -/

variable {data : Text.Bytes} {At : F → Nat → Prop}

/-- A producer that can go on: it has not begun and its file is as it was opened, or its file stands
    where the next byte of an open job is, or it is over. -/
inductive Producer.InOrder (At : F → Nat → Prop) : Producer F → Prop
  | waiting {file : F} {job : Job} (fresh : job.Fresh) (opened : At file 0) :
      InOrder At ⟨.live .idle file, job⟩
  | working {stage : Stage} {file : F} {job : Job} (begun : stage ≠ .idle) (work : job.Open)
      (stands : At file job.place) : InOrder At ⟨.live stage file, job⟩
  | ended {p : Producer F} (isOver : p.state.isTerminal = true) : InOrder At p

/-- A call leaves the producer in order; what it sends and loses, and what is left then, are what was
    left before, or a beginning of it. -/
structure Call.Passes (data : Text.Bytes) (At : F → Nat → Prop) (call : Call) (p : Producer F) :
    Prop where
  inOrder : (call.on p).producer.InOrder At
  text : (call.passage p).bytes ++ (call.on p).producer.rest data <+: p.rest data

/-- A call that changes nothing. -/
theorem passes_of_keep {call : Call} {p : Producer F} (h : p.InOrder At)
    (result : Except IoError Unit) (kept : call.on p = p.keep result) (unlost : call.lost p = []) :
    call.Passes data At p := by
  refine ⟨by rw [kept]; exact h, ?_⟩
  rw [Passage.bytes, Call.passage, unlost, kept]
  exact List.prefix_refl _

/-- A producer that is over answers every call by doing nothing. -/
theorem passes_of_over (call : Call) {p : Producer F} (isOver : p.state.isTerminal = true) :
    call.Passes data At p := by
  obtain ⟨hstart, hnext, hstop⟩ := Producer.terminal_stays isOver
  have unlost := lost_of_over call isOver
  cases call with
  | start => exact passes_of_keep (.ended isOver) _ hstart unlost
  | next => exact passes_of_keep (.ended isOver) _ hnext unlost
  | stop => exact passes_of_keep (.ended isOver) _ hstop unlost

/-! ## §3 One call -/

/-- Starting takes the file to the first byte of the job, or there is no part to begin with and
    nothing changes. -/
theorem Starts.passes (steady : Steady data At) {file : F} {job : Job} {step : Step F}
    (h : Starts file job step) (fresh : job.Fresh) (opened : At file 0) :
    step.producer.InOrder At ∧
      (chunksOf step.events).flatten ++ step.producer.rest data = job.rest data := by
  have begun : Stage.started ≠ .idle := by decide
  cases h with
  | inPlace =>
    obtain rfl : _ = (0 : UInt64) := fresh
    exact ⟨.working begun UInt64.zero_le opened, rfl⟩
  | sliceFailed seek => cases (steady.of_seek opened seek).1
  | slice seek =>
    obtain rfl : _ = (0 : UInt64) := fresh
    exact ⟨.working begun UInt64.zero_le (steady.of_seek opened seek).2, rfl⟩
  | noParts => exact ⟨.waiting fresh opened, rfl⟩
  | partsFailed seek => cases (steady.of_seek opened seek).1
  | parts seek =>
    obtain ⟨rfl, rfl⟩ := fresh
    exact ⟨.working begun ⟨UInt64.zero_le, .inl rfl⟩ (steady.of_seek opened seek).2, rfl⟩

theorem start_passes (steady : Steady data At) {file : F} {job : Job} (fresh : job.Fresh)
    (opened : At file 0) : Call.start.Passes data At ⟨.live .idle file, job⟩ := by
  obtain ⟨inOrder, text⟩ := (start_starts file job).passes steady fresh opened
  refine ⟨inOrder, ?_⟩
  have unlost : Call.start.lost (⟨.live .idle file, job⟩ : Producer F) = [] :=
    lost_of_ne_next (by decide) _
  rw [Passage.bytes, Call.passage, unlost, List.append_nil]
  exact text ▸ List.prefix_refl _

/-- Asking for a chunk across parts loses what a failure of it throws away. -/
theorem lost_of_parts {stage : Stage} (begun : stage ≠ .idle) (file : F) (left : List Range.Part)
    (written : UInt64) (due : Bool) :
    Call.next.lost (⟨.live stage file, .parts left written due⟩ : Producer F)
      = lostParts file left written due := by
  cases stage with
  | idle => exact absurd rfl begun
  | started => rfl
  | producing => rfl

/-- An advance that succeeds loses nothing. -/
theorem Advances.unlost {stage : Stage} (begun : stage ≠ .idle) {file : F} {job : Job}
    {step : Step F} (h : Advances file job step) (sound : step.result = .ok ()) :
    Call.next.lost (⟨.live stage file, job⟩ : Producer F) = [] := by
  cases h with
  | readFailed => cases sound
  | read => exact lost_of_isSlice .next rfl
  | readLast => exact lost_of_isSlice .next rfl
  | gatherFailed => cases sound
  | gathered gathered => rw [lost_of_parts begun, lostParts, gathered]
  | gatheredLast gathered => rw [lost_of_parts begun, lostParts, gathered]

/-- An advance sends what it made of the job, or loses it to a failure.  Where it fails, the file
    stands behind what was gathered. -/
theorem Advances.passes (steady : Steady data At) {stage : Stage} (begun : stage ≠ .idle) {file : F}
    {job : Job} {step : Step F} (h : Advances file job step) (work : job.Open)
    (stands : At file job.place) :
    step.producer.InOrder At ∧
      (chunksOf step.events).flatten ++ Call.next.lost ⟨.live stage file, job⟩
        ++ step.producer.rest data = job.rest data := by
  have opened := h.work_of_live work
  have speaks := h.speaks steady work stands (.live stage file)
  have sent (continues : step.Continues data At ⟨.live stage file, job⟩)
      (sound : step.result = .ok ()) : (chunksOf step.events).flatten
        ++ Call.next.lost ⟨.live stage file, job⟩ ++ step.producer.rest data = job.rest data := by
    rw [h.unlost begun sound, List.append_nil]
    exact continues.text
  cases h with
  | readFailed read =>
    refine ⟨.working nofun work (steady.failedReadSome stands read), ?_⟩
    rw [lost_of_isSlice .next rfl]
    rfl
  | read => exact ⟨.working nofun (opened rfl) (speaks.stands _ _ rfl), sent speaks rfl⟩
  | readLast => exact ⟨.ended rfl, sent speaks rfl⟩
  | gatherFailed gathered =>
    have continues := (speaks_of_gather steady gathered work stands).1
    refine ⟨.working nofun (opened rfl) continues.stands, ?_⟩
    rw [lost_of_parts begun, lostParts, gathered]
    exact continues.text
  | gathered => exact ⟨.working nofun (opened rfl) (speaks.stands _ _ rfl), sent speaks rfl⟩
  | gatheredLast => exact ⟨.ended rfl, sent speaks rfl⟩

/-- Asking a producer at work for its next chunk. -/
theorem next_passes (steady : Steady data At) {stage : Stage} {file : F} {job : Job}
    (begun : stage ≠ .idle) (work : job.Open) (stands : At file job.place) :
    Call.next.Passes data At ⟨.live stage file, job⟩ := by
  obtain ⟨inOrder, text⟩ := (next_advances begun file job).passes steady begun work stands
  exact ⟨inOrder, text ▸ List.prefix_refl _⟩

/-- Giving up sends nothing and leaves nothing to be sent. -/
theorem stop_passes (stage : Stage) (file : F) (job : Job) :
    Call.stop.Passes data At ⟨.live stage file, job⟩ := by
  refine ⟨.ended rfl, ?_⟩
  have unlost : Call.stop.lost (⟨.live stage file, job⟩ : Producer F) = [] :=
    lost_of_ne_next (by decide) _
  rw [Passage.bytes, Call.passage, unlost]
  exact List.nil_prefix

theorem passes (steady : Steady data At) (call : Call) {p : Producer F} (h : p.InOrder At) :
    call.Passes data At p := by
  cases h with
  | ended isOver => exact passes_of_over call isOver
  | @waiting file job fresh opened =>
    cases call with
    | start => exact start_passes steady fresh opened
    | next => exact passes_of_keep (.waiting fresh opened) (.error .notStarted) rfl rfl
    | stop => exact stop_passes .idle file job
  | @working stage file job begun work stands =>
    cases call with
    | start =>
      have kept : Call.start.on (⟨.live stage file, job⟩ : Producer F)
          = Producer.keep ⟨.live stage file, job⟩ (.ok ()) := by
        cases stage with
        | idle => exact absurd rfl begun
        | started => rfl
        | producing => rfl
      exact passes_of_keep (.working begun work stands) (.ok ()) kept
        (lost_of_ne_next (by decide) _)
    | next => exact next_passes steady begun work stands
    | stop => exact stop_passes stage file job

/-! ## §4 Rows of calls -/

/-- What a row of calls sends and loses is a beginning of what was left.  By induction on the row. -/
theorem passages_prefix (steady : Steady data At) {p : Producer F} (h : p.InOrder At)
    (calls : List Call) : (p.passages calls).flatMap Passage.bytes <+: p.rest data := by
  induction calls generalizing p with
  | nil => exact List.nil_prefix
  | cons call rest ih =>
    obtain ⟨inOrder, text⟩ := passes steady call h
    rw [Producer.passages, List.flatMap_cons]
    exact ((List.prefix_append_right_inj _).2 (ih inOrder)).trans text

omit [ByteSource F] in
theorem chunksOf_append (before after : List Event) :
    chunksOf (before ++ after) = chunksOf before ++ chunksOf after := List.filterMap_append

/-- What was written is what the calls sent. -/
theorem flatMap_sent (p : Producer F) (calls : List Call) :
    (p.passages calls).flatMap Passage.sent = (chunksOf (p.trace calls)).flatten := by
  induction calls generalizing p with
  | nil => rfl
  | cons call rest ih =>
    rw [Producer.passages, Producer.trace, List.flatMap_cons, ih, chunksOf_append, List.flatten_append]
    rfl

/-- A row of calls that loses nothing writes a beginning of what was left. -/
theorem written_prefix_of_unlost (steady : Steady data At) {p : Producer F} (h : p.InOrder At)
    {calls : List Call} (unlost : ∀ passage ∈ p.passages calls, passage.lost = []) :
    (chunksOf (p.trace calls)).flatten <+: p.rest data := by
  have all : (p.passages calls).flatMap Passage.bytes = (p.passages calls).flatMap Passage.sent := by
    refine List.flatMap_congr fun passage hpassage => ?_
    rw [Passage.bytes, unlost passage hpassage, List.append_nil]
  rw [← flatMap_sent, ← all]
  exact passages_prefix steady h calls

theorem Starts.isSlice_eq {file : F} {job : Job} {step : Step F} (h : Starts file job step) :
    step.producer.job.isSlice = job.isSlice := by
  cases h <;> rfl

theorem Advances.isSlice_eq {file : F} {job : Job} {step : Step F} (h : Advances file job step) :
    step.producer.job.isSlice = job.isSlice := by
  cases h <;> rfl

/-- A slice stays a slice, and parts stay parts. -/
theorem isSlice_on (call : Call) (p : Producer F) :
    (call.on p).producer.job.isSlice = p.job.isSlice := by
  obtain ⟨state, job⟩ := p
  cases state with
  | finished => cases call <;> rfl
  | stopped => cases call <;> rfl
  | live stage file =>
    cases call with
    | stop => rfl
    | next =>
      by_cases begun : stage = .idle
      · subst begun
        rfl
      · exact (next_advances begun file job).isSlice_eq
    | start =>
      cases stage with
      | idle => exact (start_starts file job).isSlice_eq
      | started => rfl
      | producing => rfl

/-- A slice loses nothing. -/
theorem unlost_of_isSlice {p : Producer F} (h : p.job.isSlice = true) (calls : List Call) :
    ∀ passage ∈ p.passages calls, passage.lost = [] := by
  induction calls generalizing p with
  | nil => exact nofun
  | cons call rest ih =>
    exact List.forall_mem_cons.2 ⟨lost_of_isSlice call h, ih ((isSlice_on call p).trans h)⟩

/-- A call that succeeds loses nothing. -/
theorem lost_of_ok {call : Call} {p : Producer F} (h : (call.on p).result = .ok ()) :
    call.lost p = [] := by
  obtain ⟨state, job⟩ := p
  cases call with
  | start => rfl
  | stop => rfl
  | next =>
    cases state with
    | finished => rfl
    | stopped => rfl
    | live stage file =>
      by_cases begun : stage = .idle
      · subst begun
        cases h
      · exact (next_advances begun file job).unlost begun h

theorem unlost_of_results {p : Producer F} {calls : List Call}
    (h : ∀ result ∈ p.results calls, result = .ok ()) :
    ∀ passage ∈ p.passages calls, passage.lost = [] := by
  induction calls generalizing p with
  | nil => exact nofun
  | cons call rest ih =>
    obtain ⟨first, later⟩ := List.forall_mem_cons.1 h
    exact List.forall_mem_cons.2 ⟨lost_of_ok first, ih later⟩

/-- What a row of calls makes of a body, the file being steady and the row being any, with failures
    and calls after them.  The bytes that were sent and those that were lost are together a beginning
    of the body.  What was written is one itself if the body is a slice, or if no call failed. -/
theorem written_of_calls (steady : Steady data At) {file : F} (opened : At file 0) {job : Job}
    (fresh : job.Fresh) (calls : List Call) :
    let p := Producer.fresh file job
    let written := (chunksOf (p.trace calls)).flatten
    (p.passages calls).flatMap Passage.sent = written ∧
    (p.passages calls).flatMap Passage.bytes <+: job.body data ∧
    (job.isSlice = true → written <+: job.body data) ∧
    ((∀ result ∈ p.results calls, result = .ok ()) → written <+: job.body data) := by
  intro p written
  have inOrder : p.InOrder At := .waiting fresh opened
  have rest : p.rest data = job.body data := rest_of_fresh fresh
  refine ⟨flatMap_sent p calls, ?_, fun slice => ?_, fun sound => ?_⟩
  · rw [← rest]
    exact passages_prefix steady inOrder calls
  · rw [← rest]
    exact written_prefix_of_unlost steady inOrder (unlost_of_isSlice slice calls)
  · rw [← rest]
    exact written_prefix_of_unlost steady inOrder (unlost_of_results sound)

/-- A file in memory at a position of its content, whatever faults it was told to have. -/
def FaultyFile.IsAt (data : Text.Bytes) (file : FaultyFile) (position : Nat) : Prop :=
  file.file = ⟨data, data.drop position⟩

/-- A file in memory is steady: the read that fails uses nothing up. -/
theorem steady_faultyFile (data : Text.Bytes) : Steady data (FaultyFile.IsAt data) where
  read := by
    rintro ⟨_, readLimit, failsIn⟩ after position limit chunk ⟨rfl⟩ hread
    obtain ⟨most, taken, moved⟩ : ∃ most, chunk.val = (data.drop position).take most ∧
        after.file = ⟨data, (data.drop position).drop most⟩ := by
      dsimp only [ByteSource.read] at hread
      split at hread
      next => cases hread
      next =>
        cases hread
        exact ⟨_, rfl, rfl⟩
    rw [taken]
    refine ⟨List.take_prefix _ _, ?_⟩
    rw [FaultyFile.IsAt, moved, MemoryFile.mk.injEq, ← List.drop_drop, List.drop_eq_drop_iff,
      List.length_take]
    exact ⟨rfl, by omega⟩
  failedRead := by
    rintro ⟨_, readLimit, failsIn⟩ after position limit e ⟨rfl⟩ hread
    dsimp only [ByteSource.read] at hread
    split at hread
    next =>
      cases hread
      rfl
    next => cases hread
  seek := by
    rintro ⟨_, readLimit, failsIn⟩ position target ⟨rfl⟩
    exact ⟨_, rfl, rfl⟩

/-- Four bytes that are read two at a time, the second read failing once. -/
def hiccup : FaultyFile := ⟨.ofContent [97, 98, 99, 100], some 2, some 2⟩

/-- One part that announces all four of them. -/
def hiccupParts : List Range.Part := [⟨"|", 0, 4⟩]

/-- The law of rows of calls, where the first chunk fails and is asked for again. -/
theorem written_of_a_retry :
    let p := Producer.fresh hiccup (.parts hiccupParts 0 true)
    let calls : List Call := [.start, .next, .next]
    let body := (Job.parts hiccupParts 0 true).body [97, 98, 99, 100]
    let written := (chunksOf (p.trace calls)).flatten
    (p.passages calls).flatMap Passage.sent = written ∧
    (p.passages calls).flatMap Passage.bytes <+: body ∧
    ((Job.parts hiccupParts 0 true).isSlice = true → written <+: body) ∧
    ((∀ result ∈ p.results calls, result = .ok ()) → written <+: body) := by
  have opened : FaultyFile.IsAt [97, 98, 99, 100] hiccup 0 := rfl
  have fresh : (Job.parts hiccupParts 0 true).Fresh := ⟨rfl, rfl⟩
  exact written_of_calls (steady_faultyFile [97, 98, 99, 100]) opened fresh [.start, .next, .next]

/-- There the second chunk goes on behind bytes that were never sent: the separator and the first two
    bytes, gathered before the failure, are lost, and what was written is no beginning of the body. -/
theorem retry_skips_gathered_bytes :
    let p := Producer.multiple hiccup hiccupParts
    let calls : List Call := [.start, .next, .next]
    let body := hiccupParts.flatMap (partBytes [97, 98, 99, 100])
    let written := (chunksOf (p.trace calls)).flatten
    FaultyFile.IsAt [97, 98, 99, 100] hiccup 0 ∧
    (p.passages calls).map Passage.lost = [[], [124, 97, 98], []] ∧
    written = [99, 100] ∧ body = [124, 97, 98, 99, 100] ∧ ¬written <+: body := by
  intro p calls body written
  have lost : (p.passages calls).map Passage.lost = [[], [124, 97, 98], []] := by cbv
  have hwritten : (chunksOf (p.trace calls)).flatten = [99, 100] := by cbv
  have hbody : body = [124, 97, 98, 99, 100] := by decide
  refine ⟨rfl, lost, hwritten, hbody, ?_⟩
  show ¬(chunksOf (p.trace calls)).flatten <+: body
  rw [hwritten, hbody]
  decide

end StaticSite.Stream
