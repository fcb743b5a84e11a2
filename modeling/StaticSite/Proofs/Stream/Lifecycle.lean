/-
  THE LIFE OF A PRODUCER: what any row of calls can make of it.

  A producer answers three calls, and its owner may make them in any order and go on after a
  failure.  The file may do as it likes: every read and every seek may fail, and a read may give
  fewer bytes than asked.  What stays fixed is the diagram

      idle ──▶ started ──▶ producing ──▶ finished
        └─────────┴────────────┴───────▶ stopped

  and the books that go with it: the consumer learns of the producer when it starts and of its end
  when it finishes, and the file is closed when there is nothing left to do.

  Numbered structure:
    §1  phases and the diagram
    §2  calls, and the ten ways in which one can turn out (`Turn`)
    §3  what one call does (`Turn.lawful`)
    §4  what a whole row of calls leaves behind (`Tally`), by induction on the row
    §5  the life of a producer
-/
import Mathlib.Logic.Relation
import StaticSite.Proofs.Stream.Advance

namespace StaticSite.Stream

/-! ## §1 Phases -/

/-- How far a producer is, whatever its file and its job. -/
inductive Phase
  | idle
  | started
  | producing
  | finished
  | stopped
deriving DecidableEq, Repr

/-- Whether no further call can change the phase. -/
def Phase.isTerminal : Phase → Bool
  | .idle => false
  | .started => false
  | .producing => false
  | .finished => true
  | .stopped => true

/-- The arrows of the diagram. -/
inductive Phase.Leads : Phase → Phase → Prop
  | begin : Leads .idle .started
  | resume : Leads .started .producing
  | complete : Leads .producing .finished
  | abandon {q : Phase} (live : q.isTerminal = false) : Leads q .stopped

/-- `q` is entered: it was not the phase before and it is the phase after. -/
def Phase.Enters (q before after : Phase) : Prop := before ≠ q ∧ after = q

instance (q before after : Phase) : Decidable (q.Enters before after) :=
  inferInstanceAs (Decidable (before ≠ q ∧ after = q))

/-- The phase of a live producer at a stage. -/
def Stage.phase : Stage → Phase
  | .idle => .idle
  | .started => .started
  | .producing => .producing

variable {F : Type}

/-- The phase of a producer. -/
def Producer.phase (p : Producer F) : Phase :=
  match p.state with
  | .live stage _ => stage.phase
  | .finished => .finished
  | .stopped => .stopped

/-- A producer that was not asked for anything yet. -/
def Producer.fresh (file : F) (job : Job) : Producer F := ⟨.live .idle file, job⟩

theorem Producer.whole_eq_fresh (file : F) (size : UInt64) :
    Producer.whole file size = .fresh file (.slice none size 0) := rfl

theorem Producer.single_eq_fresh (file : F) (offset size : UInt64) :
    Producer.single file offset size = .fresh file (.slice (some offset) size 0) := rfl

theorem Producer.multiple_eq_fresh (file : F) (parts : List Range.Part) :
    Producer.multiple file parts = .fresh file (.parts parts 0 true) := rfl

/-! ## §2 Calls -/

/-- What the owner of a producer can ask of it. -/
inductive Call
  | start
  | next
  | stop
deriving DecidableEq, Repr

/-- A call, answered. -/
def Call.on [ByteSource F] (call : Call) (p : Producer F) : Step F :=
  match call with
  | .start => p.start
  | .next => p.next
  | .stop => p.stop

/-- The ways in which a call can turn out: the phase before and after, the events, the result.
    Nothing else can be told apart from outside. -/
inductive Turn : Call → Phase → Phase → List Event → Except IoError Unit → Prop
  | started : Turn .start .idle .started [.register] (.ok ())
  | startFailed (e : IoError) : Turn .start .idle .idle [] (.error e)
  | startIgnored {q : Phase} (begun : q ≠ .idle) : Turn .start q q [] (.ok ())
  | notStarted : Turn .next .idle .idle [] (.error .notStarted)
  | nextFailed {q : Phase} (working : q = .started ∨ q = .producing) (e : IoError) :
      Turn .next q .producing [] (.error e)
  | wrote {q : Phase} (working : q = .started ∨ q = .producing) (chunks : List Text.Bytes) :
      Turn .next q .producing (chunks.map .write) (.ok ())
  | completed {q : Phase} (working : q = .started ∨ q = .producing) (chunks : List Text.Bytes) :
      Turn .next q .finished (chunks.map .write ++ [.unregister, .finish, .close]) (.ok ())
  | nextIgnored {q : Phase} (isOver : q.isTerminal = true) : Turn .next q q [] (.ok ())
  | stopped {q : Phase} (live : q.isTerminal = false) : Turn .stop q .stopped [.close] (.ok ())
  | stopIgnored {q : Phase} (isOver : q.isTerminal = true) : Turn .stop q q [] (.ok ())

variable [ByteSource F]

/-- A call on `p` turns out in one of the ten ways. -/
def Call.TurnsOut (call : Call) (p : Producer F) : Prop :=
  Turn call p.phase (call.on p).producer.phase (call.on p).events (call.on p).result

theorem Starts.turn {file : F} {job : Job} {step : Step F} (h : Starts file job step) :
    Turn .start .idle step.producer.phase step.events step.result := by
  cases h with
  | inPlace => exact .started
  | sliceFailed => exact .startFailed _
  | slice => exact .started
  | noParts => exact .startFailed _
  | partsFailed => exact .startFailed _
  | parts => exact .started

theorem start_turnsOut (p : Producer F) : Call.start.TurnsOut p := by
  obtain ⟨state, job⟩ := p
  cases state with
  | finished => exact .startIgnored nofun
  | stopped => exact .startIgnored nofun
  | live stage file =>
    cases stage with
    | started => exact .startIgnored nofun
    | producing => exact .startIgnored nofun
    | idle => exact (start_starts file job).turn

/-- What is handed over is no chunk or one. -/
theorem exists_chunks_of_handOver (bytes : Text.Bytes) :
    ∃ chunks : List Text.Bytes, handOver bytes = chunks.map .write := by
  unfold handOver
  split
  · exact ⟨[], rfl⟩
  · exact ⟨[bytes], rfl⟩

/-- A chunk, asked of a producer at work. -/
theorem Advances.turn {file : F} {job : Job} {step : Step F} (h : Advances file job step) {q : Phase}
    (working : q = .started ∨ q = .producing) :
    Turn .next q step.producer.phase step.events step.result := by
  cases h with
  | readFailed => exact .nextFailed working _
  | @read _ _ _ bytes =>
    obtain ⟨chunks, hchunks⟩ := exists_chunks_of_handOver bytes.val
    rw [hchunks]
    exact .wrote working chunks
  | @readLast _ _ _ bytes =>
    obtain ⟨chunks, hchunks⟩ := exists_chunks_of_handOver bytes.val
    rw [hchunks]
    exact .completed working chunks
  | gatherFailed => exact .nextFailed working _
  | @gathered _ _ _ g => exact .wrote working [g.chunk.bytes]
  | @gatheredLast _ _ _ g => exact .completed working [g.chunk.bytes]

theorem next_turnsOut (p : Producer F) : Call.next.TurnsOut p := by
  obtain ⟨state, job⟩ := p
  cases state with
  | finished => exact .nextIgnored rfl
  | stopped => exact .nextIgnored rfl
  | live stage file =>
    cases stage with
    | idle => exact .notStarted
    | started =>
      have begun : Stage.started ≠ .idle := by decide
      exact (next_advances begun file job).turn (.inl rfl)
    | producing =>
      have begun : Stage.producing ≠ .idle := by decide
      exact (next_advances begun file job).turn (.inr rfl)

theorem stop_turnsOut (p : Producer F) : Call.stop.TurnsOut p := by
  obtain ⟨state, job⟩ := p
  cases state with
  | finished => exact .stopIgnored rfl
  | stopped => exact .stopIgnored rfl
  | live stage file => exact .stopped (by cases stage <;> rfl)

theorem Call.turnsOut (call : Call) (p : Producer F) : call.TurnsOut p := by
  cases call with
  | start => exact start_turnsOut p
  | next => exact next_turnsOut p
  | stop => exact stop_turnsOut p

/-! ## §3 What one call does -/

/-- What holds of one call on a producer, `past` being the events of the calls before it. -/
structure Lawful (call : Call) (before after : Phase) (past events : List Event)
    (result : Except IoError Unit) : Prop where
  /-- The phase follows the arrows. -/
  moves : Relation.ReflTransGen Phase.Leads before after
  /-- No call leaves a terminal phase. -/
  stays : before.isTerminal = true → after = before
  /-- The consumer is registered exactly when `started` is entered. -/
  register : events.count .register = if Phase.started.Enters before after then 1 else 0
  /-- It is released exactly when `finished` is entered ... -/
  unregister : events.count .unregister = if Phase.finished.Enters before after then 1 else 0
  /-- ... and told that the body is complete at the same time. -/
  finish : events.count .finish = if Phase.finished.Enters before after then 1 else 0
  /-- The file is closed exactly when the phase becomes terminal. -/
  close : events.count .close = if before.isTerminal = false ∧ after.isTerminal = true then 1 else 0
  /-- Nothing is written before the start, nor once the phase is terminal. -/
  silent : before = .idle ∨ before.isTerminal = true → ∀ chunk, .write chunk ∉ events
  /-- A call that fails writes nothing and ends nothing. -/
  failure : ∀ e, result = .error e →
    (∀ chunk, .write chunk ∉ events) ∧ .unregister ∉ events ∧ .finish ∉ events
  /-- A start that fails leaves an idle producer of which no consumer has heard. -/
  failedStart : call = .start → ∀ e, result = .error e → after = .idle ∧ .register ∉ past ++ events

/-- Chunks are neither registrations nor anything else but chunks. -/
theorem count_map_write (event : Event) (h : ∀ chunk, event ≠ .write chunk)
    (chunks : List Text.Bytes) : (chunks.map Event.write).count event = 0 := by
  rw [List.count_eq_zero, List.mem_map]
  rintro ⟨chunk, -, rfl⟩
  exact h chunk rfl

/-- A producer at work is producing, or one arrow away from it. -/
theorem moves_to_producing {q : Phase} (working : q = .started ∨ q = .producing) :
    Relation.ReflTransGen Phase.Leads q .producing := by
  rcases working with rfl | rfl
  · exact .single .resume
  · exact .refl

theorem Turn.moves {call : Call} {before after : Phase} {events : List Event}
    {result : Except IoError Unit} (turn : Turn call before after events result) :
    Relation.ReflTransGen Phase.Leads before after := by
  cases turn with
  | started => exact .single .begin
  | startFailed e => exact .refl
  | startIgnored begun => exact .refl
  | notStarted => exact .refl
  | nextFailed working e => exact moves_to_producing working
  | wrote working chunks => exact moves_to_producing working
  | completed working chunks => exact (moves_to_producing working).tail .complete
  | nextIgnored isOver => exact .refl
  | stopped live => exact .single (.abandon live)
  | stopIgnored isOver => exact .refl

/-- A producer at work is not over. -/
theorem live_of_working {q : Phase} (working : q = .started ∨ q = .producing) :
    q.isTerminal = false := by
  rcases working with rfl | rfl
  · rfl
  · rfl

/-- A call on a producer that is over changes nothing and has no events. -/
theorem Turn.nothing_of_over {call : Call} {before after : Phase} {events : List Event}
    {result : Except IoError Unit} (turn : Turn call before after events result)
    (isOver : before.isTerminal = true) : after = before ∧ events = [] := by
  -- what moves the phase does not start from a terminal one
  cases turn with
  | started => cases isOver
  | nextFailed working e =>
    rw [live_of_working working] at isOver
    cases isOver
  | wrote working chunks =>
    rw [live_of_working working] at isOver
    cases isOver
  | completed working chunks =>
    rw [live_of_working working] at isOver
    cases isOver
  | stopped live =>
    rw [live] at isOver
    cases isOver
  | startFailed e => exact ⟨rfl, rfl⟩
  | startIgnored begun => exact ⟨rfl, rfl⟩
  | notStarted => exact ⟨rfl, rfl⟩
  | nextIgnored still => exact ⟨rfl, rfl⟩
  | stopIgnored still => exact ⟨rfl, rfl⟩

theorem Turn.terminal_of_stop {before after : Phase} {events : List Event}
    {result : Except IoError Unit} (turn : Turn .stop before after events result) :
    after.isTerminal = true := by
  cases turn with
  | stopped live => rfl
  | stopIgnored isOver => exact isOver

/-- The four books of one call: who was told what, and whether the file was closed. -/
theorem Turn.books {call : Call} {before after : Phase} {events : List Event}
    {result : Except IoError Unit} (turn : Turn call before after events result) :
    events.count .register = (if Phase.started.Enters before after then 1 else 0) ∧
    events.count .unregister = (if Phase.finished.Enters before after then 1 else 0) ∧
    events.count .finish = (if Phase.finished.Enters before after then 1 else 0) ∧
    events.count .close = if before.isTerminal = false ∧ after.isTerminal = true then 1 else 0 := by
  have hregister := count_map_write .register nofun
  have hunregister := count_map_write .unregister nofun
  have hfinish := count_map_write .finish nofun
  have hclose := count_map_write .close nofun
  cases turn with
  | started => decide
  | startFailed e => decide
  | notStarted => decide
  | startIgnored begun => simp [Phase.Enters]
  | nextIgnored isOver => simp [Phase.Enters]
  | stopIgnored isOver => simp [Phase.Enters]
  | stopped live => simp [Phase.Enters, live, show Phase.stopped.isTerminal = true from rfl]
  | nextFailed working e => rcases working with rfl | rfl <;> decide
  | wrote working chunks =>
    rw [hregister, hunregister, hfinish, hclose]
    rcases working with rfl | rfl <;> decide
  | completed working chunks =>
    rw [List.count_append, List.count_append, List.count_append, List.count_append,
      hregister, hunregister, hfinish, hclose]
    rcases working with rfl | rfl <;> decide

/-- What is not at work writes nothing. -/
theorem Turn.silent {call : Call} {before after : Phase} {events : List Event}
    {result : Except IoError Unit} (turn : Turn call before after events result)
    (resting : before = .idle ∨ before.isTerminal = true) (chunk : Text.Bytes) :
    .write chunk ∉ events := by
  have busy {q : Phase} (working : q = .started ∨ q = .producing) :
      ¬(q = .idle ∨ q.isTerminal = true) := by
    rcases working with rfl | rfl <;> decide
  cases turn with
  | wrote working chunks => exact absurd resting (busy working)
  | completed working chunks => exact absurd resting (busy working)
  | _ => simp

/-- A call that fails has no events at all. -/
theorem Turn.events_of_error {call : Call} {before after : Phase} {events : List Event}
    {e : IoError} (turn : Turn call before after events (.error e)) : events = [] := by
  cases turn <;> rfl

/-- A start that fails leaves the producer idle, as it was. -/
theorem Turn.idle_of_failedStart {before after : Phase} {events : List Event} {e : IoError}
    (turn : Turn .start before after events (.error e)) : before = .idle ∧ after = .idle := by
  cases turn
  exact ⟨rfl, rfl⟩

/-- However a call turns out, it is lawful, provided that no consumer has heard of an idle
    producer before. -/
theorem Turn.lawful {call : Call} {before after : Phase} {past events : List Event}
    {result : Except IoError Unit} (turn : Turn call before after events result)
    (unheard : before = .idle → .register ∉ past) :
    Lawful call before after past events result where
  moves := turn.moves
  stays := fun isOver => (turn.nothing_of_over isOver).1
  register := turn.books.1
  unregister := turn.books.2.1
  finish := turn.books.2.2.1
  close := turn.books.2.2.2
  silent := turn.silent
  failure := by
    rintro e rfl
    rw [turn.events_of_error]
    exact ⟨nofun, nofun, nofun⟩
  failedStart := by
    rintro rfl e rfl
    obtain ⟨hbefore, hafter⟩ := turn.idle_of_failedStart
    rw [turn.events_of_error, List.append_nil]
    exact ⟨hafter, unheard hbefore⟩

/-! ## §4 Rows of calls -/

/-- The producer after some calls, whatever they answered. -/
def Producer.after (p : Producer F) : List Call → Producer F
  | [] => p
  | call :: calls => (call.on p).producer.after calls

/-- The events of some calls, in order. -/
def Producer.trace (p : Producer F) : List Call → List Event
  | [] => []
  | call :: calls => (call.on p).events ++ (call.on p).producer.trace calls

/-- A producer that is over stays over. -/
theorem terminal_after {p : Producer F} (isOver : p.phase.isTerminal = true) (calls : List Call) :
    (p.after calls).phase.isTerminal = true := by
  induction calls generalizing p with
  | nil => exact isOver
  | cons call rest ih =>
    have same : (call.on p).producer.phase = p.phase := ((call.turnsOut p).nothing_of_over isOver).1
    exact ih (by rw [same]; exact isOver)

/-- A producer that was stopped is over, whatever happened before and since. -/
theorem terminal_after_stop (p : Producer F) {calls : List Call} (stopped : .stop ∈ calls) :
    (p.after calls).phase.isTerminal = true := by
  induction calls generalizing p with
  | nil => cases stopped
  | cons call rest ih =>
    rcases List.mem_cons.1 stopped with rfl | later
    · exact terminal_after (stop_turnsOut p).terminal_of_stop rest
    · exact ih _ later

/-- What the books say when a producer is in a phase, whatever the calls that led there. -/
structure Tally (phase : Phase) (events : List Event) : Prop where
  register_le : events.count .register ≤ 1
  register_idle : phase = .idle → events.count .register = 0
  register_begun : phase = .started ∨ phase = .producing ∨ phase = .finished →
    events.count .register = 1
  unregister : events.count .unregister = if phase = .finished then 1 else 0
  finish : events.count .finish = if phase = .finished then 1 else 0
  close : events.count .close = if phase.isTerminal then 1 else 0
  unwritten : phase = .idle → ∀ chunk, .write chunk ∉ events

theorem tally_fresh : Tally .idle [] := by
  constructor <;> simp [Phase.isTerminal]

/-- Starting puts the registration into the books. -/
theorem Tally.begin {past : List Event} (tally : Tally .idle past) :
    Tally .started (past ++ [.register]) := by
  have unheard := tally.register_idle rfl
  constructor <;> simp [List.count_append, unheard, tally.unregister, tally.finish, tally.close,
    Phase.isTerminal]

/-- Setting to work, without a chunk so far, changes nothing in the books. -/
theorem Tally.resume {q : Phase} {past : List Event} (tally : Tally q past)
    (working : q = .started ∨ q = .producing) : Tally .producing past := by
  rcases working with rfl | rfl
  · have begun := tally.register_begun (.inl rfl)
    constructor <;> simp [begun, tally.unregister, tally.finish, tally.close, Phase.isTerminal]
  · exact tally

/-- Chunks are not in the books. -/
theorem Tally.write {past : List Event} (tally : Tally .producing past)
    (chunks : List Text.Bytes) : Tally .producing (past ++ chunks.map .write) := by
  have begun := tally.register_begun (.inr (.inl rfl))
  constructor <;> simp [List.count_append, count_map_write, begun, tally.unregister, tally.finish,
    tally.close, Phase.isTerminal]

/-- The end puts the release, the completion and the closing into the books. -/
theorem Tally.complete {past : List Event} (tally : Tally .producing past) :
    Tally .finished (past ++ [.unregister, .finish, .close]) := by
  have begun := tally.register_begun (.inr (.inl rfl))
  constructor <;> simp [List.count_append, begun, tally.unregister, tally.finish, tally.close,
    Phase.isTerminal]

/-- Giving up puts the closing into the books. -/
theorem Tally.abandon {q : Phase} {past : List Event} (tally : Tally q past)
    (live : q.isTerminal = false) : Tally .stopped (past ++ [.close]) := by
  have unfinished : q ≠ .finished := by rintro rfl; cases live
  have unclosed : past.count .close = 0 := by rw [tally.close, live]; rfl
  constructor <;> simp [List.count_append, tally.register_le, tally.unregister, tally.finish,
    unfinished, unclosed, Phase.isTerminal]

/-- Every way of turning out keeps the books right. -/
theorem Tally.step {call : Call} {before after : Phase} {past events : List Event}
    {result : Except IoError Unit} (tally : Tally before past)
    (turn : Turn call before after events result) : Tally after (past ++ events) := by
  cases turn with
  | started => exact tally.begin
  | nextFailed working e => rw [List.append_nil]; exact tally.resume working
  | wrote working chunks => exact (tally.resume working).write chunks
  | completed working chunks =>
    rw [← List.append_assoc]
    exact ((tally.resume working).write chunks).complete
  | stopped live => exact tally.abandon live
  | startFailed e => rwa [List.append_nil]
  | startIgnored begun => rwa [List.append_nil]
  | notStarted => rwa [List.append_nil]
  | nextIgnored isOver => rwa [List.append_nil]
  | stopIgnored isOver => rwa [List.append_nil]

/-- A row of calls keeps the books right. -/
theorem Tally.trace {p : Producer F} {past : List Event} (tally : Tally p.phase past)
    (calls : List Call) : Tally (p.after calls).phase (past ++ p.trace calls) := by
  induction calls generalizing p past with
  | nil => rwa [Producer.trace, List.append_nil]
  | cons call rest ih =>
    have next := ih (tally.step (call.turnsOut p))
    rwa [List.append_assoc] at next

/-! ## §5 The life of a producer -/

/-- Whatever calls a producer got, in whatever order and with whatever failures of its file, the
    books are right, and the next call is lawful; after a stop it has nothing to tell any more.
    The producers of a whole file, of a single range and of several ranges are such producers
    (`Producer.whole_eq_fresh`, `Producer.single_eq_fresh`, `Producer.multiple_eq_fresh`). -/
theorem life_of_producer (file : F) (job : Job) (calls : List Call) (call : Call) :
    let start := Producer.fresh file job
    let now := start.after calls
    let step := call.on now
    Tally now.phase (start.trace calls) ∧
    Lawful call now.phase step.producer.phase (start.trace calls) step.events step.result ∧
    (.stop ∈ calls → step.events = []) := by
  intro start now step
  have tally : Tally now.phase (start.trace calls) :=
    Tally.trace (p := start) tally_fresh calls
  have turn : Turn call now.phase step.producer.phase step.events step.result := call.turnsOut now
  refine ⟨tally, turn.lawful fun idle => ?_, fun stopped => ?_⟩
  · -- an idle producer was not registered, so no start that fails now has been heard of
    exact List.count_eq_zero.1 (tally.register_idle idle)
  · exact (turn.nothing_of_over (terminal_after_stop start stopped)).2

end StaticSite.Stream
