/-
  BOUNDS: how much a call hands over, and how many calls there are.

  Whatever its file does, a producer never overruns its job: of a slice no more is written than it
  has, and the part under way is one of those in the beginning (`Job.IsWithin`).  So each difference
  that is taken is one of a smaller word from a greater.  This is kept by every call (`InBounds.on`),
  and by every round of the loop inside a call.

  A call that asks for a chunk hands over at most one (`Producer.Hands`).  A chunk of a slice comes
  from one read; a chunk across parts comes from a loop, which is over after so many rounds as there
  are parts left and bytes in a chunk.

  If every read gives a byte, a producer that was started finishes, even though the file cannot always
  be taken where it should be: a call writes bytes of the job, or leaves a part behind.

  Numbered structure:
    §1  jobs that are not overrun
    §2  the chunk of a call
    §3  calls until the end
    §4  the bounds of a producer
-/
import StaticSite.Proofs.Stream.Retry
import StaticSite.Proofs.Stream.Rounds

namespace StaticSite.Stream

variable {F : Type} [ByteSource F]

/-! ## §1 Jobs that are not overrun -/

/-- How far a job may get that was `start` in the beginning.  A slice stays the same, with no more
    written of it than it has; of the parts, one given by its index is under way, likewise. -/
def Job.IsWithin (now start : Job) : Prop :=
  match start, now with
  | .slice offset size _, .slice offset' size' written =>
    offset' = offset ∧ size' = size ∧ written ≤ size
  | .parts all _ _, .parts left written _ =>
    ∃ (index : Nat) (inside : index < all.length), left = all.drop index ∧ written ≤ all[index].size
  | _, _ => False

/-- A producer that has not overrun its job, and can go on with it as long as it is live. -/
structure Producer.InBounds (start : Job) (p : Producer F) : Prop where
  within : p.job.IsWithin start
  work : p.state.isTerminal = false → p.job.Open

/-- Parts that are left, the first of them not overrun. -/
theorem isWithin_of_suffix {parts left : List Range.Part} {written before : UInt64} {due due' : Bool}
    (suffix : left <:+ parts) (within : ∃ part rest, left = part :: rest ∧ written ≤ part.size) :
    (Job.parts left written due).IsWithin (.parts parts before due') := by
  obtain ⟨front, rfl⟩ := suffix
  obtain ⟨part, rest, rfl, hwritten⟩ := within
  have inside : front.length < (front ++ part :: rest).length := by
    rw [List.length_append, List.length_cons]
    omega
  have under : (front ++ part :: rest)[front.length] = part := by
    rw [List.getElem_append_right (Nat.le_refl _)]
    simp only [Nat.sub_self, List.getElem_cons_zero]
  exact ⟨front.length, inside, List.drop_left.symm, by rwa [under]⟩

/-- The part under way of an open job is not overrun. -/
theorem within_of_work {left : List Range.Part} {written : UInt64} {due : Bool}
    (work : (Job.parts left written due).Open) :
    ∃ part rest, left = part :: rest ∧ written ≤ part.size := by
  cases left with
  | nil => exact work.elim
  | cons part rest => exact ⟨part, rest, rfl, work.1⟩

theorem slice_of_isWithin {start : Job} {offset : Option UInt64} {size written : UInt64}
    (within : (Job.slice offset size written).IsWithin start) :
    ∃ before, start = .slice offset size before ∧ written ≤ size := by
  cases start with
  | parts all before due => exact within.elim
  | slice offset' size' before =>
    obtain ⟨rfl, rfl, hwritten⟩ := within
    exact ⟨before, rfl, hwritten⟩

theorem parts_of_isWithin {start : Job} {left : List Range.Part} {written : UInt64} {due : Bool}
    (within : (Job.parts left written due).IsWithin start) :
    ∃ all before due', start = .parts all before due' ∧ left <:+ all := by
  cases start with
  | slice offset size before => exact within.elim
  | parts all before due' =>
    obtain ⟨index, inside, rfl, -⟩ := within
    exact ⟨all, before, due', rfl, List.drop_suffix index all⟩

omit [ByteSource F] in
/-- In the beginning nothing is overrun. -/
theorem inBounds_fresh {job : Job} (fresh : job.Fresh)
    (some : ∀ written due, job ≠ .parts [] written due) (file : F) :
    (Producer.fresh file job).InBounds job := by
  have work : job.Open := fresh.work some
  refine ⟨?_, fun _ => work⟩
  cases job with
  | slice offset size written => exact ⟨rfl, rfl, work⟩
  | parts left written due => exact isWithin_of_suffix (List.suffix_refl left) (within_of_work work)

omit [ByteSource F] in
/-- The first of the parts that are left may be begun anew. -/
theorem inBounds_of_first {start : Job} {part : Range.Part} {rest : List Range.Part}
    {written : UInt64} {due : Bool} (within : (Job.parts (part :: rest) written due).IsWithin start)
    (state : State F) : (Producer.mk state (.parts (part :: rest) 0 true)).InBounds start := by
  obtain ⟨all, before, due', rfl, suffix⟩ := parts_of_isWithin within
  have first : (Job.parts (part :: rest) 0 true).Open := ⟨UInt64.zero_le, .inl rfl⟩
  exact ⟨isWithin_of_suffix suffix (within_of_work first), fun _ => first⟩

/-- Starting keeps a job within its bounds. -/
theorem Starts.inBounds {start job : Job} {file : F} {step : Step F} (h : Starts file job step)
    (within : job.IsWithin start) (work : job.Open) : step.producer.InBounds start := by
  cases h with
  | inPlace => exact ⟨within, fun _ => work⟩
  | sliceFailed => exact ⟨within, fun _ => work⟩
  | slice =>
    obtain ⟨before, rfl, -⟩ := slice_of_isWithin within
    exact ⟨⟨rfl, rfl, UInt64.zero_le⟩, fun _ => UInt64.zero_le⟩
  | noParts => exact work.elim
  | partsFailed => exact inBounds_of_first within _
  | parts => exact inBounds_of_first within _

theorem Producer.InBounds.start {start : Job} {p : Producer F} (h : p.InBounds start) :
    p.start.producer.InBounds start := by
  obtain ⟨state, job⟩ := p
  cases state with
  | finished => exact h
  | stopped => exact h
  | live stage file =>
    cases stage with
    | idle => exact (start_starts file job).inBounds h.within (h.work rfl)
    | started => exact h
    | producing => exact h

/-- What is gathered of parts leaves one of them under way, however that ends. -/
theorem isWithin_of_gather {start : Job} {file : F} {left : List Range.Part} {written : UInt64}
    {due : Bool} {g : Gathering F} {result : Except IoError Bool}
    (within : (Job.parts left written due).IsWithin start) (work : (Job.parts left written due).Open)
    (gathered : gather ⟨file, left, written, due, .empty⟩ = (g, result)) :
    (Job.parts g.left g.written g.separatorDue).IsWithin start := by
  obtain ⟨all, before, due', rfl, suffix⟩ := parts_of_isWithin within
  obtain ⟨rounds, loops⟩ := loops_gather ⟨file, left, written, due, .empty⟩ work
  have inside := loops.within work
  rw [gathered] at inside
  exact isWithin_of_suffix ((suffix_of_gather gathered).trans suffix) inside

/-- What is read of a slice does not overrun it. -/
theorem isWithin_of_read {start : Job} {offset : Option UInt64} {size written : UInt64}
    (within : (Job.slice offset size written).IsWithin start)
    (bytes : SomeBytes (min (size - written).toNat chunkSize)) :
    (Job.slice offset size (written + UInt64.ofNat bytes.val.length)).IsWithin start := by
  obtain ⟨before, rfl, hwritten⟩ := slice_of_isWithin within
  exact ⟨rfl, rfl, advance_le hwritten (length_le_gap bytes)⟩

/-- An advance keeps a job within its bounds. -/
theorem Advances.isWithin {start job : Job} {file : F} {step : Step F} (h : Advances file job step)
    (within : job.IsWithin start) (work : job.Open) : step.producer.job.IsWithin start := by
  cases h with
  | readFailed => exact within
  | @read _ _ _ bytes => exact isWithin_of_read within bytes
  | @readLast _ _ _ bytes => exact isWithin_of_read within bytes
  | gatherFailed gathered => exact isWithin_of_gather within work gathered
  | gathered gathered => exact isWithin_of_gather within work gathered
  | gatheredLast gathered => exact isWithin_of_gather within work gathered

/-- A producer that was started and is not over. -/
def Producer.Begun (p : Producer F) : Prop := p.phase = .started ∨ p.phase = .producing

omit [ByteSource F] in
theorem exists_live_of_begun {p : Producer F} (begun : p.Begun) :
    ∃ stage file, p.state = .live stage file ∧ stage ≠ .idle := by
  obtain ⟨state, job⟩ := p
  cases state with
  | finished => rcases begun with h | h <;> cases h
  | stopped => rcases begun with h | h <;> cases h
  | live stage file =>
    refine ⟨stage, file, rfl, ?_⟩
    rintro rfl
    rcases begun with h | h <;> cases h

/-- Any other producer stays as it is when it is asked for a chunk. -/
theorem next_of_not_begun {p : Producer F} (h : ¬p.Begun) : ∃ result, p.next = p.keep result := by
  obtain ⟨state, job⟩ := p
  cases state with
  | finished => exact ⟨.ok (), rfl⟩
  | stopped => exact ⟨.ok (), rfl⟩
  | live stage file =>
    cases stage with
    | idle => exact ⟨.error .notStarted, rfl⟩
    | started => exact absurd (.inl rfl) h
    | producing => exact absurd (.inr rfl) h

theorem Producer.InBounds.next {start : Job} {p : Producer F} (h : p.InBounds start) :
    p.next.producer.InBounds start := by
  by_cases begun : p.Begun
  · obtain ⟨state, job⟩ := p
    obtain ⟨stage, file, rfl, started⟩ := exists_live_of_begun begun
    have advances := next_advances started file job
    exact ⟨advances.isWithin h.within (h.work rfl), advances.work_of_live (h.work rfl)⟩
  · obtain ⟨result, kept⟩ := next_of_not_begun begun
    rw [kept]
    exact h

omit [ByteSource F] in
theorem Producer.InBounds.stop {start : Job} {p : Producer F} (h : p.InBounds start) :
    p.stop.producer.InBounds start := by
  obtain ⟨state, job⟩ := p
  cases state with
  | live stage file => exact ⟨h.within, nofun⟩
  | finished => exact h
  | stopped => exact h

/-- Every call keeps a job within its bounds. -/
theorem Producer.InBounds.on {start : Job} {p : Producer F} (h : p.InBounds start) (call : Call) :
    (call.on p).producer.InBounds start := by
  cases call with
  | start => exact h.start
  | next => exact h.next
  | stop => exact h.stop

theorem Producer.InBounds.after {start : Job} {p : Producer F} (h : p.InBounds start)
    (calls : List Call) : (p.after calls).InBounds start := by
  induction calls generalizing p with
  | nil => exact h
  | cons call calls ih => exact ih (h.on call)

/-! ## §2 The chunk of a call -/

/-- The chunks that are handed to the consumer, empty ones among them. -/
def writes (events : List Event) : List Text.Bytes :=
  events.filterMap fun
    | .write chunk => some chunk
    | _ => none

/-- The bytes of the longest separator of a job. -/
def Job.longestSeparator : Job → Nat
  | .slice _ _ _ => 0
  | .parts left _ _ => left.foldr (fun part longest => max part.separator.utf8ByteSize longest) 0

theorem separator_le_longest {parts : List Range.Part} {part : Range.Part} (hpart : part ∈ parts)
    (written : UInt64) (due : Bool) :
    part.separator.utf8ByteSize ≤ (Job.parts parts written due).longestSeparator := by
  induction parts with
  | nil => cases hpart
  | cons first rest ih =>
    show _ ≤ max first.separator.utf8ByteSize (Job.parts rest written due).longestSeparator
    rcases List.mem_cons.1 hpart with rfl | later
    · exact Nat.le_max_left _ _
    · exact Nat.le_trans (ih later) (Nat.le_max_right _ _)

/-- Asked for its next chunk, `p` begins with `g` to gather one across parts. -/
inductive Producer.Gathers : Producer F → Gathering F → Prop
  | intro {stage : Stage} {file : F} {left : List Range.Part} {written : UInt64} {due : Bool}
      (begun : stage ≠ .idle) :
      Gathers ⟨.live stage file, .parts left written due⟩ ⟨file, left, written, due, .empty⟩

/-- What asking `p` for its next chunk hands to the consumer, the separators not being longer than
    `longest`: bytes of a slice, or what a loop put down, or nothing if nothing is left to be written,
    or the call fails, or `p` was not started or is over. -/
inductive Producer.Hands (longest : Nat) (p : Producer F) : List Text.Bytes → Prop
  | nothing (why : ¬p.Begun ∨ (∃ e, p.next.result = .error e) ∨ p.job.left = 0) : Hands longest p []
  | slice {chunk : Text.Bytes} (isSlice : p.job.isSlice = true) (some : 1 ≤ chunk.length)
      (bounded : chunk.length ≤ chunkSize) : Hands longest p [chunk]
  | parts {g : Gathering F} {rounds : List (Gathering F)} {chunk : Text.Bytes} (asked : p.Gathers g)
      (loops : g.Loops rounds (gather g))
      (made : chunk = rounds.flatMap fun round => round.text ++ round.data)
      (data : (rounds.flatMap Gathering.data).length ≤ chunkSize)
      (bounded : chunk.length ≤ max chunkSize (chunkSize - 1 + longest))
      (full : chunkSize ≤ chunk.length ∨ p.next.producer.phase = .finished) : Hands longest p [chunk]

/-- What a loop that succeeds put down is handed over. -/
theorem hands_of_gather {start : Job} {p : Producer F} {file : F} {left : List Range.Part}
    {written : UInt64} {due done : Bool} {g : Gathering F}
    (within : (Job.parts left written due).IsWithin start) (work : (Job.parts left written due).Open)
    (asked : p.Gathers ⟨file, left, written, due, .empty⟩)
    (gathered : gather ⟨file, left, written, due, .empty⟩ = (g, .ok done))
    (full : chunkSize ≤ g.chunk.size ∨ p.next.producer.phase = .finished) :
    p.Hands start.longestSeparator [g.chunk.bytes] := by
  obtain ⟨all, before, due', rfl, suffix⟩ := parts_of_isWithin within
  have texts (part : Range.Part) (hpart : part ∈ left) : part.separator.utf8ByteSize
      ≤ (Job.parts all before due').longestSeparator :=
    separator_le_longest (suffix.subset hpart) before due'
  obtain ⟨rounds, loops⟩ := loops_gather ⟨file, left, written, due, .empty⟩ work
  have made := loops.bytes work
  have bounded := loops.size_le work texts (Nat.zero_le _)
  rw [gathered] at made bounded
  rw [← Gathered.length_bytes] at bounded full
  exact .parts asked loops made (loops.data_le work) bounded full

/-- What was read of a slice is handed over unless it is nothing, and then nothing was left. -/
theorem hands_of_read (longest : Nat) (state : State F) (offset : Option UInt64)
    {size written : UInt64} (within : written ≤ size)
    (bytes : SomeBytes (min (size - written).toNat chunkSize)) (others : List Event)
    (silent : writes others = []) :
    (Producer.mk state (.slice offset size written)).Hands longest
      (writes (handOver bytes.val ++ others)) := by
  by_cases none : bytes.val = []
  · have gap := toNat_gap within
    have nothing := gap_eq_zero bytes none
    have handed : writes (handOver bytes.val ++ others) = [] := by rw [none]; exact silent
    rw [handed]
    refine .nothing (.inr (.inr ?_))
    rw [Job.left]
    omega
  · have bounded := Nat.le_trans bytes.property.1 (Nat.min_le_right _ _)
    have handed : writes (handOver bytes.val ++ others) = [bytes.val] := by
      rw [handOver_of_ne_nil none]
      exact congrArg (bytes.val :: ·) silent
    rw [handed]
    exact .slice rfl (List.length_pos_iff.2 none) bounded

/-- An advance hands over what a single read gave, or what the loop put down. -/
theorem Advances.hands {start job : Job} {stage : Stage} (begun : stage ≠ .idle) {file : F}
    {step : Step F} (h : Advances file job step) (within : job.IsWithin start) (work : job.Open)
    (hnext : (Producer.mk (.live stage file) job).next = step) :
    (Producer.mk (.live stage file) job).Hands start.longestSeparator (writes step.events) := by
  cases h with
  | readFailed => exact .nothing (.inr (.inl ⟨_, congrArg Step.result hnext⟩))
  | @read offset _ _ bytes =>
    have handed := hands_of_read start.longestSeparator (.live stage file) offset work bytes [] rfl
    rwa [List.append_nil] at handed
  | @readLast offset _ _ bytes => exact hands_of_read _ _ offset work bytes _ rfl
  | gatherFailed => exact .nothing (.inr (.inl ⟨_, congrArg Step.result hnext⟩))
  | gathered gathered =>
    have full := (accounts_of_gather gathered work).2
    exact hands_of_gather within work (.intro begun) gathered (.inl full)
  | gatheredLast gathered =>
    exact hands_of_gather within work (.intro begun) gathered (.inr (by rw [hnext]; rfl))

/-- A producer that is within its bounds hands over at most one chunk, and that is bounded. -/
theorem Producer.InBounds.hands {start : Job} {p : Producer F} (h : p.InBounds start) :
    p.Hands start.longestSeparator (writes p.next.events) := by
  by_cases begun : p.Begun
  · obtain ⟨state, job⟩ := p
    obtain ⟨stage, file, rfl, started⟩ := exists_live_of_begun begun
    exact (next_advances started file job).hands started h.within (h.work rfl) rfl
  · obtain ⟨result, kept⟩ := next_of_not_begun begun
    rw [kept]
    exact .nothing (.inl begun)

/-- In every round of the loop the part under way is one of those in the beginning. -/
theorem Producer.InBounds.rounds {start : Job} {p : Producer F} (h : p.InBounds start)
    {g : Gathering F} (asked : p.Gathers g) :
    ∃ rounds, g.Loops rounds (gather g) ∧ rounds.length ≤ g.left.length + chunkSize ∧
      ∀ round ∈ rounds, round.job.IsWithin start := by
  cases asked with
  | @intro stage file left written due begun =>
    have work : (Job.parts left written due).Open := h.work rfl
    obtain ⟨rounds, loops⟩ := loops_gather ⟨file, left, written, due, .empty⟩ work
    refine ⟨rounds, loops, loops.length_le, fun round hround => ?_⟩
    obtain ⟨all, before, due', rfl, suffix⟩ := parts_of_isWithin h.within
    obtain ⟨work, later⟩ := loops.inside work round hround
    exact isWithin_of_suffix (later.trans suffix) (within_of_work work)

/-! ## §3 Calls until the end -/

/-- Asked for its next chunk, `p` reads so many bytes from the file, or asks for none. -/
inductive Producer.Reads : Producer F → F → Nat → Prop
  | slice {stage : Stage} {file : F} {offset : Option UInt64} {size written : UInt64}
      (begun : stage ≠ .idle) :
      Reads ⟨.live stage file, .slice offset size written⟩ file (min (size - written).toNat chunkSize)
  | parts {p : Producer F} {g round : Gathering F} {rounds : List (Gathering F)} (asked : p.Gathers g)
      (loops : g.Loops rounds (gather g)) (hround : round ∈ rounds) :
      Reads p round.file round.wanted

/-- Every read for the next chunk succeeds with at least one byte. -/
def Producer.Fed (p : Producer F) : Prop := ∀ file limit, p.Reads file limit → Yields file limit

/-- An upper bound for the calls that a job takes: of a slice each takes a byte, of parts each takes
    a byte or leaves a part behind. -/
def Job.callsLeft : Job → Nat
  | .slice offset size written => (Job.slice offset size written).left + 1
  | .parts left written due => (Job.parts left written due).left + left.length

theorem callsLeft_pos {job : Job} (work : job.Open) : 0 < job.callsLeft := by
  cases job with
  | slice offset size written => exact Nat.succ_pos _
  | parts left written due =>
    cases left with
    | nil => exact work.elim
    | cons part rest => exact Nat.lt_of_lt_of_le (Nat.succ_pos rest.length) (Nat.le_add_left _ _)

/-- A step towards the end: that is reached, or the producer goes on and fewer calls are left. -/
def Step.Nears (step : Step F) (job : Job) : Prop :=
  step.producer.phase = .finished ∨
    (step.producer.phase = .producing ∧ step.producer.job.callsLeft < job.callsLeft)

/-- An advance whose reads succeed is a step towards the end. -/
theorem Advances.nears {stage : Stage} (begun : stage ≠ .idle) {file : F} {job : Job}
    {step : Step F} (h : Advances file job step) (work : job.Open)
    (fed : (Producer.mk (.live stage file) job).Fed) : step.Nears job := by
  have room : 0 < chunkSize := by decide
  cases h with
  | readFailed read =>
    obtain ⟨bytes, after, read'⟩ := exists_readSome (fed file _ (.slice begun))
    rw [read'] at read
    cases read
  | @read offset size written bytes after read incomplete =>
    have gap := toNat_gap work
    have fits := length_le_gap bytes
    have taken := List.length_pos_iff.2 (ne_nil_of_incomplete work bytes incomplete)
    refine .inr ⟨rfl, ?_⟩
    rw [Job.callsLeft, Job.callsLeft, Job.left, Job.left, toNat_advance work fits]
    omega
  | readLast => exact .inl rfl
  | @gatherFailed left written due g e gathered =>
    -- the file was not taken to the next part, which is under way nevertheless
    obtain ⟨rounds, loops⟩ := loops_gather ⟨file, left, written, due, .empty⟩ work
    have yields (round : Gathering F) (hround : round ∈ rounds) : Yields round.file round.wanted :=
      fed round.file round.wanted (.parts (.intro begun) loops hround)
    rw [gathered] at loops
    have fewer : g.left.length < left.length := loops.fewer_of_error work yields
    have total : g.chunk.size + g.job.left = 0 + (Job.parts left written due).left :=
      (accounts_of_gather gathered work).total
    refine .inr ⟨rfl, ?_⟩
    show g.job.left + g.left.length < (Job.parts left written due).left + left.length
    omega
  | @gathered left written due g gathered =>
    have shorter : g.left.length ≤ left.length := (suffix_of_gather gathered).length_le
    obtain ⟨follows, full⟩ := accounts_of_gather gathered work
    have total : g.chunk.size + g.job.left = 0 + (Job.parts left written due).left := follows.total
    refine .inr ⟨rfl, ?_⟩
    show g.job.left + g.left.length < (Job.parts left written due).left + left.length
    omega
  | gatheredLast => exact .inl rfl

/-- A call whose reads succeed is a step towards the end. -/
theorem next_nears {p : Producer F} (begun : p.Begun) (work : p.job.Open) (fed : p.Fed) :
    p.next.Nears p.job := by
  obtain ⟨state, job⟩ := p
  obtain ⟨stage, file, rfl, started⟩ := exists_live_of_begun begun
  exact (next_advances started file job).nears started work fed

/-- If all reads succeed, a producer that was started finishes. -/
theorem Producer.InBounds.finishes {start : Job} {p : Producer F} (h : p.InBounds start)
    (begun : p.Begun) (fed : ∀ n, (p.after (List.replicate n .next)).Fed) :
    ∃ n ≤ p.job.callsLeft, (p.after (List.replicate n .next)).phase = .finished := by
  induction hcalls : p.job.callsLeft using Nat.strongRecOn generalizing p with
  | ind calls ih =>
    subst hcalls
    have work : p.job.Open := by
      obtain ⟨stage, file, hstate, -⟩ := exists_live_of_begun begun
      exact h.work (by rw [hstate]; rfl)
    rcases next_nears begun work (fed 0) with finished | ⟨producing, fewer⟩
    · exact ⟨1, callsLeft_pos work, finished⟩
    · obtain ⟨n, few, finished⟩ := ih p.next.producer.job.callsLeft fewer (h.on .next)
        (.inr producing) (fun n => fed (n + 1)) rfl
      exact ⟨n + 1, by omega, finished⟩

/-! ## §4 The bounds of a producer -/

/-- Whatever is asked of a producer, and whatever its file answers: its job is not overrun; the next
    call hands over at most one chunk, and a bounded one; if the chunk is gathered across parts, that
    takes so many rounds as there are parts left and bytes in a chunk, and the job is not overrun
    meanwhile; and once started, it finishes after so many calls as there are bytes and parts left,
    if each read gives a byte. -/
theorem chunks_are_bounded (file : F) {job : Job} (fresh : job.Fresh)
    (some : ∀ written due, job ≠ .parts [] written due) (calls : List Call) :
    let now := (Producer.fresh file job).after calls
    now.job.IsWithin job ∧
    now.Hands job.longestSeparator (writes now.next.events) ∧
    (∀ g, now.Gathers g → ∃ rounds, g.Loops rounds (gather g) ∧
      rounds.length ≤ g.left.length + chunkSize ∧ ∀ round ∈ rounds, round.job.IsWithin job) ∧
    (now.Begun → (∀ n, (now.after (List.replicate n .next)).Fed) →
      ∃ n ≤ now.job.callsLeft, (now.after (List.replicate n .next)).phase = .finished) := by
  intro now
  have h : now.InBounds job := (inBounds_fresh fresh some file).after calls
  exact ⟨h.within, h.hands, fun _ asked => h.rounds asked, h.finishes⟩

/-- A file that gives a single byte at a time, and can be taken to a position so many times only. -/
structure Trickle where
  seeks : Nat

instance : ByteSource Trickle where
  read file limit := (.ok (Chunk.ofPrefix limit [46]), file)
  seek file _ :=
    match file.seeks with
    | 0 => (.error (.device "cannot be taken there"), file)
    | seeks + 1 => (.ok (), ⟨seeks⟩)

theorem fed_of_trickle (p : Producer Trickle) : p.Fed := by
  intro file limit _ wanted
  refine ⟨_, file, rfl, ?_⟩
  show 0 < (List.take limit [46]).length
  rw [List.length_take]
  exact Nat.lt_min.2 ⟨wanted, Nat.zero_lt_one⟩

/-- Three parts, one of them without a separator and the last without bytes. -/
def trickleParts : List Range.Part := [⟨"|", 0, 2⟩, ⟨"", 7, 1⟩, ⟨"end", 0, 0⟩]

/-- Though the file cannot be taken to the second part, nor to the third, the body is finished. -/
theorem chunks_of_trickle :
    let job := Job.parts trickleParts 0 true
    let now := (Producer.fresh (Trickle.mk 1) job).after [.start]
    job.Fresh ∧ (∀ written due, job ≠ .parts [] written due) ∧ now.Begun ∧
    now.Hands 3 (writes now.next.events) ∧
    ∃ n ≤ 10, (now.after (List.replicate n .next)).phase = .finished := by
  intro job now
  have fresh : job.Fresh := ⟨rfl, rfl⟩
  have some : ∀ written due, job ≠ .parts [] written due :=
    fun written due none => List.cons_ne_nil _ _ (Job.parts.inj none).1
  have begun : now.Begun := .inl rfl
  obtain ⟨-, hands, -, finishes⟩ := chunks_are_bounded (Trickle.mk 1) fresh some [.start]
  exact ⟨fresh, some, begun, hands, finishes begun fun n => fed_of_trickle _⟩

end StaticSite.Stream
