/-
  DELIVERY: what a body hands over when it is polled to its end.

  `Feed.Delivers` says what polling comes to without a bound on the number of polls; `Feed.drain`,
  which has one, is shown to reach that end (`delivers_drain`).

  The law of a delivery (`Delivery.Keeps n`): the frames hold bytes, never more than the `n` that
  were announced; all of them came exactly if the body ended without a failure; the file was
  closed once; and a failure is noted once, and nothing else is.  It holds whatever the file does,
  by induction on the bytes that are left: a poll hands over at least one, or is the last.

  Numbered structure:
    §1  polling to the end
    §2  one poll of a feed at work (`Answered`)
    §3  the law of a delivery
    §4  the start
-/
import StaticSite.Proofs.Stream.Progress
import StaticSite.Stream.Feed

namespace StaticSite.Stream

variable {F : Type} [ByteSource F]

/-! ## §1 Polling to the end -/

/-- The closings among some events. -/
def closings (events : List Event) : List Event := events.filter (· == .close)

/-- Polled until it ends, the feed delivers `d`.  Nothing comes after the end nor after a failure. -/
inductive Feed.Delivers : Feed F → Delivery → Prop
  | ended {feed : Feed F} {events : List Event} {notes : List Note}
      (h : feed.poll = ⟨none, none, events, notes⟩) :
      feed.Delivers ⟨[], none, closings events, notes⟩
  | failed {feed : Feed F} {e : IoError} {events : List Event} {notes : List Note}
      (h : feed.poll = ⟨some (.failure e), none, events, notes⟩) :
      feed.Delivers ⟨[], some e, closings events, notes⟩
  | more {feed next : Feed F} {chunk : Text.Bytes} {events : List Event} {d : Delivery}
      (h : feed.poll = ⟨some (.data chunk), some next, events, []⟩) (later : next.Delivers d) :
      feed.Delivers ⟨chunk :: d.frames, d.failure, closings events ++ d.events, d.notes⟩

theorem closings_append (before after : List Event) :
    closings (before ++ after) = closings before ++ closings after := List.filter_append ..

/-- A bound on the polls that is not met makes no difference. -/
theorem Feed.Delivers.drainFrom {feed : Feed F} {d : Delivery} (h : feed.Delivers d)
    (frames : List Text.Bytes) (events : List Event) {polls : Nat}
    (enough : d.frames.length < polls) :
    feed.drainFrom frames events polls
      = ⟨frames.reverse ++ d.frames, d.failure, events ++ d.events, d.notes⟩ := by
  induction h generalizing frames events polls with
  | ended hpoll =>
    obtain ⟨polls, rfl⟩ := Nat.exists_eq_succ_of_ne_zero (Nat.ne_zero_of_lt enough)
    rw [Feed.drainFrom, hpoll, List.append_nil]
    rfl
  | failed hpoll =>
    obtain ⟨polls, rfl⟩ := Nat.exists_eq_succ_of_ne_zero (Nat.ne_zero_of_lt enough)
    rw [Feed.drainFrom, hpoll, List.append_nil]
    rfl
  | more hpoll later ih =>
    obtain ⟨polls, rfl⟩ := Nat.exists_eq_succ_of_ne_zero (Nat.ne_zero_of_lt enough)
    rw [Feed.drainFrom, hpoll]
    show Feed.drainFrom _ _ polls _ = _
    rw [ih _ _ (Nat.lt_of_succ_lt_succ enough), List.reverse_cons, List.append_assoc,
      List.append_assoc]
    rfl

/-! ## §2 One poll -/

/-- A feed whose producer is at work, everything written so far being handed over. -/
structure Feed.AtWork (feed : Feed F) : Prop where
  producer : feed.producer.AtWork
  pending : feed.pending = []
  finished : feed.finished = false

/-- A feed of which nothing is left to be handed over. -/
structure Feed.Over (feed : Feed F) : Prop where
  state : feed.producer.state = .finished
  pending : feed.pending = []
  finished : feed.finished = true

/-- What a poll gives that asks a producer at work for its next chunk. -/
inductive Answered (p : Producer F) : Polled F → Prop
  | failed {e : IoError} {events : List Event} {message : String}
      (step : p.next.result = .error e) (due : 0 < p.job.left) (closed : closings events = [.close]) :
      Answered p ⟨some (.failure e), none, events, [⟨.error, message⟩]⟩
  | data {chunk : Text.Bytes} {next : Feed F} {events : List Event}
      (step : p.next = ⟨next.producer, [.write chunk], .ok ()⟩) (working : next.AtWork)
      (nonempty : chunk ≠ []) (taken : chunk.length + next.producer.job.left = p.job.left)
      (unclosed : closings events = []) :
      Answered p ⟨some (.data chunk), some next, events, []⟩
  | last {chunk : Text.Bytes} {next : Feed F} {events : List Event} {job : Job}
      (step : p.next = Producer.complete job [.write chunk]) (isOver : next.Over)
      (nonempty : chunk ≠ []) (rest : chunk.length = p.job.left)
      (closed : closings events = [.close]) :
      Answered p ⟨some (.data chunk), some next, events, []⟩
  | empty {events : List Event} (nothing : p.job.left = 0) (closed : closings events = [.close]) :
      Answered p ⟨none, none, events, []⟩

omit [ByteSource F] in
theorem stop_events_of_atWork {p : Producer F} (h : p.AtWork) : p.stop.events = [.close] := by
  obtain ⟨stage, file, hstate, -⟩ := h.live
  rw [Producer.stop, hstate]

omit [ByteSource F] in
theorem not_isTerminal_of_atWork {p : Producer F} (h : p.AtWork) : p.state.isTerminal = false := by
  obtain ⟨stage, file, hstate, -⟩ := h.live
  rw [hstate]
  rfl

omit [ByteSource F] in
theorem absorb_chunk {feed : Feed F} (h : feed.AtWork) (q : Producer F) {chunk : Text.Bytes}
    (nonempty : chunk ≠ []) :
    feed.absorb ⟨q, [.write chunk], .ok ()⟩ = ⟨q, [chunk], false⟩ := by
  have hchunks : chunksOf [.write chunk] = [chunk] := by
    simp [chunksOf, List.isEmpty_iff, nonempty]
  rw [Feed.absorb, h.pending, h.finished, hchunks]
  rfl

omit [ByteSource F] in
theorem absorb_last {feed : Feed F} (h : feed.AtWork) (job : Job) {chunk : Text.Bytes}
    (nonempty : chunk ≠ []) :
    feed.absorb (Producer.complete job [.write chunk]) = ⟨⟨.finished, job⟩, [chunk], true⟩ := by
  have hchunks : chunksOf [.write chunk, .unregister, .finish, .close] = [chunk] := by
    simp [chunksOf, List.isEmpty_iff, nonempty]
  rw [Feed.absorb, h.pending, h.finished]
  show Feed.mk _ ([] ++ chunksOf [.write chunk, .unregister, .finish, .close]) _ = _
  rw [hchunks]
  rfl

omit [ByteSource F] in
theorem absorb_empty {feed : Feed F} (h : feed.AtWork) (job : Job) :
    feed.absorb (Producer.complete job []) = ⟨⟨.finished, job⟩, [], true⟩ := by
  rw [Feed.absorb, h.pending, h.finished]
  rfl

/-- A poll of a feed at work, by the outcome of the one step that it takes. -/
theorem deliver_answered {feed : Feed F} (h : feed.AtWork) (before : List Event)
    (unclosed : closings before = []) : Answered feed.producer (feed.deliver before) := by
  have outcome := next_outcome h.producer
  have live := not_isTerminal_of_atWork h.producer
  rw [Feed.deliver, Feed.take?, h.pending]
  simp only [h.finished, live, Bool.or_false, Bool.false_eq_true, if_false]
  generalize hstep : feed.producer.next = step at outcome
  cases outcome with
  | failed working due =>
    -- the producer is stopped, which closes the file
    refine .failed (hstep ▸ rfl) due ?_
    rw [stop_events_of_atWork working, closings_append, closings_append, unclosed]
    rfl
  | @wrote q chunk working nonempty taken =>
    simp only [absorb_chunk h q nonempty, Feed.take?]
    refine .data hstep ⟨working, rfl, rfl⟩ nonempty taken ?_
    rw [closings_append, unclosed]
    rfl
  | @last job chunk nonempty rest =>
    have hresult : (Producer.complete (F := F) job [.write chunk]).result = .ok () := rfl
    simp only [hresult, absorb_last h job nonempty, Feed.take?]
    refine .last hstep ⟨rfl, rfl, rfl⟩ nonempty rest ?_
    rw [closings_append, unclosed]
    rfl
  | @empty job nothing =>
    have hresult : (Producer.complete (F := F) job []).result = .ok () := rfl
    simp only [hresult, absorb_empty h job, Feed.take?]
    refine .empty nothing ?_
    rw [closings_append, closings_append, unclosed]
    rfl

theorem poll_answered {feed : Feed F} (h : feed.AtWork) : Answered feed.producer feed.poll := by
  obtain ⟨stage, file, hstate, begun⟩ := h.producer.live
  have answered := deliver_answered h [] rfl
  rw [Feed.poll, hstate]
  cases stage with
  | idle => exact absurd rfl begun
  | started => exact answered
  | producing => exact answered

/-- A feed of which nothing is left ends. -/
theorem poll_over {feed : Feed F} (h : feed.Over) : feed.poll = ⟨none, none, [], []⟩ := by
  rw [Feed.poll, h.state]
  show feed.deliver [] = _
  rw [Feed.deliver, Feed.take?, h.pending]
  simp only [h.finished, Bool.true_or, if_true]

/-! ## §3 The law of a delivery -/

/-- A delivery of which `left` bytes were announced, the file being open in the beginning. -/
structure Delivery.Keeps (left : Nat) (d : Delivery) : Prop where
  frames : ∀ frame ∈ d.frames, frame ≠ []
  bytes_le : d.bytes.length ≤ left
  /-- Everything came exactly if the body ended without a failure. -/
  bytes_eq_iff : d.bytes.length = left ↔ d.failure = none
  closes : d.closes = 1
  /-- A failure, and nothing else, is noted, once, as an error. -/
  notes : (d.failure = none ∧ d.notes = []) ∨
    ∃ e message, d.failure = some e ∧ d.notes = [⟨.error, message⟩]

theorem keeps_of_failure {left : Nat} (due : 0 < left) {e : IoError} {events : List Event}
    (closed : events = [.close]) {message : String} :
    Delivery.Keeps left ⟨[], some e, events, [⟨.error, message⟩]⟩ where
  frames := nofun
  bytes_le := Nat.zero_le _
  bytes_eq_iff := ⟨fun h => absurd h.symm (Nat.ne_of_gt due), nofun⟩
  closes := by rw [Delivery.closes, closed]; rfl
  notes := .inr ⟨e, message, rfl, rfl⟩

theorem keeps_of_end {left : Nat} (nothing : left = 0) {events : List Event}
    (closed : events = [.close]) : Delivery.Keeps left ⟨[], none, events, []⟩ where
  frames := nofun
  bytes_le := Nat.zero_le _
  bytes_eq_iff := ⟨fun _ => rfl, fun _ => nothing.symm⟩
  closes := by rw [Delivery.closes, closed]; rfl
  notes := .inl ⟨rfl, rfl⟩

/-- A frame in front of a delivery that keeps the law. -/
theorem Delivery.Keeps.cons {left : Nat} {d : Delivery} (h : d.Keeps left) {chunk : Text.Bytes}
    (nonempty : chunk ≠ []) {events : List Event} (unclosed : events = []) :
    Delivery.Keeps (chunk.length + left)
      ⟨chunk :: d.frames, d.failure, events ++ d.events, d.notes⟩ where
  frames := List.forall_mem_cons.2 ⟨nonempty, h.frames⟩
  bytes_le := by
    have := h.bytes_le
    simp only [Delivery.bytes, List.flatten_cons, List.length_append] at this ⊢
    omega
  bytes_eq_iff := by
    rw [← h.bytes_eq_iff]
    simp only [Delivery.bytes, List.flatten_cons, List.length_append]
    omega
  closes := by
    rw [unclosed, List.nil_append]
    exact h.closes
  notes := h.notes

/-- The frame that completes the body, the file being closed on the way. -/
theorem keeps_of_last {chunk : Text.Bytes} (nonempty : chunk ≠ []) {events : List Event}
    (closed : events = [.close]) :
    Delivery.Keeps chunk.length ⟨[chunk], none, events ++ [], []⟩ where
  frames := List.forall_mem_singleton.2 nonempty
  bytes_le := by simp [Delivery.bytes]
  bytes_eq_iff := by simp [Delivery.bytes]
  closes := by rw [Delivery.closes, closed]; rfl
  notes := .inl ⟨rfl, rfl⟩

/-- A feed that asks a producer at work delivers and keeps the law.  By induction on the bytes that
    are left: what a poll leaves at work has fewer of them. -/
theorem exists_delivers {feed : Feed F} {p : Producer F} (answered : Answered p feed.poll) :
    ∃ d, feed.Delivers d ∧ d.Keeps p.job.left := by
  induction hleft : p.job.left using Nat.strongRecOn generalizing feed p with
  | ind left ih =>
    subst hleft
    generalize hpoll : feed.poll = polled at answered
    cases answered with
    | failed step due closed => exact ⟨_, .failed hpoll, keeps_of_failure due closed⟩
    | empty nothing closed => exact ⟨_, .ended hpoll, keeps_of_end nothing closed⟩
    | last step isOver nonempty rest closed =>
      -- the end is told by a poll of its own
      exact ⟨_, .more hpoll (.ended (poll_over isOver)), rest ▸ keeps_of_last nonempty closed⟩
    | data step working nonempty taken unclosed =>
      have shorter := List.length_pos_iff.2 nonempty
      obtain ⟨d, delivers, keeps⟩ := ih _ (by omega) (poll_answered working) rfl
      exact ⟨_, .more hpoll delivers, taken ▸ keeps.cons nonempty unclosed⟩

/-! ## §4 The start -/

/-- A job as an answer starts it: nothing is written yet, and a file that has to be taken to a
    position is taken there for the sake of at least a byte. -/
def Job.Ready : Job → Prop
  | .slice offset size written => written = 0 ∧ (offset ≠ none → 0 < size)
  | .parts left written due => left ≠ [] ∧ written = 0 ∧ due = true

theorem Job.Ready.open {job : Job} (ready : job.Ready) : job.Open := by
  cases job with
  | slice offset size written =>
    obtain ⟨rfl, -⟩ := ready
    exact UInt64.zero_le
  | parts left written due =>
    obtain ⟨some, rfl, rfl⟩ := ready
    cases left with
    | nil => exact absurd rfl some
    | cons part rest => exact ⟨UInt64.zero_le, .inl rfl⟩

/-- Starting a job either fails, something being left to write, or leaves it as it is. -/
theorem start_of_ready {job : Job} (ready : job.Ready) (announced : job.Announced) (file : F) :
    (∃ e after, 0 < job.left ∧
      (Producer.mk (.live .idle file) job).start = ⟨⟨.live .idle after, job⟩, [], .error e⟩) ∨
    ∃ after, (Producer.mk (.live .idle file) job).start
      = ⟨⟨.live .started after, job⟩, [.register], .ok ()⟩ := by
  have starts := start_starts file job
  generalize (Producer.mk (.live .idle file) job).start = step at starts
  cases starts with
  | inPlace => exact .inr ⟨file, rfl⟩
  | sliceFailed =>
    -- the file is taken to the slice, which has at least a byte
    obtain ⟨rfl, due⟩ := ready
    exact .inl ⟨_, _, UInt64.lt_iff_toNat_lt.1 (due (Option.some_ne_none _)), rfl⟩
  | slice =>
    obtain ⟨rfl, -⟩ := ready
    exact .inr ⟨_, rfl⟩
  | noParts => exact absurd rfl ready.1
  | partsFailed =>
    have positive := left_pos ready.open announced
    obtain ⟨-, rfl, rfl⟩ := ready
    exact .inl ⟨_, _, positive, rfl⟩
  | parts =>
    obtain ⟨-, rfl, rfl⟩ := ready
    exact .inr ⟨_, rfl⟩

theorem poll_of_failed_start {p : Producer F} {file : F} (idle : p.state = .live .idle file)
    {e : IoError} (h : p.start.result = .error e) :
    (Feed.ofProducer p).poll
      = abort p.start.producer p.start.events "Failed to start response body: " e := by
  simp only [Feed.ofProducer, Feed.poll, idle, h]

theorem poll_of_start {p : Producer F} {file : F} (idle : p.state = .live .idle file)
    (h : p.start.result = .ok ()) :
    (Feed.ofProducer p).poll = ((Feed.ofProducer p).absorb p.start).deliver p.start.events := by
  simp only [Feed.ofProducer, Feed.poll, idle, h]

/-- The first poll of a body, of which some bytes were announced: the producer cannot be started, or
    it is at work on its job from then on. -/
theorem first_poll {job : Job} (ready : job.Ready) (announced : job.Announced) (file : F) :
    let p : Producer F := ⟨.live .idle file, job⟩
    (∃ e, 0 < job.left ∧ p.start.result = .error e ∧ (Feed.ofProducer p).poll
      = ⟨some (.failure e), none, [.close],
        [⟨.error, "Failed to start response body: " ++ e.message⟩]⟩) ∨
    ∃ after, p.start = ⟨⟨.live .started after, job⟩, [.register], .ok ()⟩ ∧
      Answered ⟨.live .started after, job⟩ (Feed.ofProducer p).poll := by
  intro p
  rcases start_of_ready ready announced file with ⟨e, after, due, hstart⟩ | ⟨after, hstart⟩
  · have hresult : p.start.result = .error e := congrArg Step.result hstart
    refine .inl ⟨e, due, hresult, ?_⟩
    rw [poll_of_failed_start rfl hresult, hstart]
    rfl
  · have working : Feed.AtWork (F := F) ⟨⟨.live .started after, job⟩, [], false⟩ :=
      ⟨⟨⟨.started, after, rfl, nofun⟩, ready.open, announced⟩, rfl, rfl⟩
    refine .inr ⟨after, hstart, ?_⟩
    rw [poll_of_start rfl (congrArg Step.result hstart), hstart]
    exact deliver_answered working [.register] rfl

/-- A body that was not polled yet delivers and keeps the law, whatever the file does. -/
theorem exists_delivers_of_ready {job : Job} (ready : job.Ready) (announced : job.Announced)
    (file : F) :
    ∃ d, (Feed.ofProducer ⟨.live .idle file, job⟩).Delivers d ∧ d.Keeps job.left := by
  rcases first_poll ready announced file with
    ⟨e, due, -, hpoll⟩ | ⟨after, -, answered⟩
  · exact ⟨_, .failed hpoll, keeps_of_failure due rfl⟩
  · exact exists_delivers answered

/-- The bound of `drain` is no less than what is left. -/
theorem left_le_remaining (job : Job) : job.left ≤ job.remaining := by
  cases job with
  | slice offset size written =>
    rw [Job.left, Job.remaining]
    by_cases within : written ≤ size
    · exact Nat.le_of_eq (toNat_gap within).symm
    · have := UInt64.lt_iff_toNat_lt.1 (UInt64.not_le.1 within)
      omega
  | parts left written due =>
    have hremaining : (Job.parts left written due).remaining = partsLength left := by
      rw [Job.remaining]
      induction left with
      | nil => rfl
      | cons part rest ih => rw [List.foldr_cons, ih, partsLength, partLength]
    rw [hremaining]
    cases left with
    | nil => exact Nat.le_refl 0
    | cons part rest =>
      rw [Job.left, partsLength, partLength]
      split <;> omega

/-- Frames that hold bytes are no more than their bytes. -/
theorem length_le_length_flatten {frames : List Text.Bytes} (h : ∀ frame ∈ frames, frame ≠ []) :
    frames.length ≤ frames.flatten.length := by
  induction frames with
  | nil => exact Nat.le_refl 0
  | cons frame rest ih =>
    obtain ⟨nonempty, hrest⟩ := List.forall_mem_cons.1 h
    have := ih hrest
    have := List.length_pos_iff.2 nonempty
    rw [List.length_cons, List.flatten_cons, List.length_append]
    omega

/-- What `drain` gives is what polling to the end delivers, and it keeps the law. -/
theorem delivers_drain {job : Job} (ready : job.Ready) (announced : job.Announced) (file : F) :
    let body := Feed.ofProducer ⟨.live .idle file, job⟩
    body.Delivers body.drain ∧ body.drain.Keeps job.left := by
  intro body
  obtain ⟨d, delivers, keeps⟩ := exists_delivers_of_ready ready announced file
  -- every frame takes at least a byte off what is left
  have enough : d.frames.length < 0 + job.remaining + 2 := by
    have bound := left_le_remaining job
    have bytes : d.frames.flatten.length ≤ job.left := keeps.bytes_le
    have frames := length_le_length_flatten keeps.frames
    omega
  have drained : body.drain = d := delivers.drainFrom [] [] enough
  rw [drained]
  exact ⟨delivers, keeps⟩

end StaticSite.Stream
