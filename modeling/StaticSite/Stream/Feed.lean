/-
  FEEDS: the body of a response, as the transport polls it.

  The transport asks for a frame whenever the connection can take one.  A feed passes the question
  on to its producer, which it starts at the first poll, and hands over what that writes; empty
  chunks are left out.  A failure stops the producer, is noted, and is the last item of the feed.

  `poll` is one question; `drain` polls until the end.  Each frame holds at least a byte of what
  remains of the job, so `drain` asks at most once more than there are bytes left, and once for
  the end.
-/
import StaticSite.Stream.Producer
import StaticSite.Log.Note

namespace StaticSite.Stream

/-- A producer behind a body, with the chunks it wrote that were not handed over yet. -/
structure Feed (F : Type) where
  producer : Producer F
  pending : List Text.Bytes
  finished : Bool

/-- What a poll gives: bytes, or the failure that ends the body. -/
inductive Frame
  | data (bytes : Text.Bytes)
  | failure (e : IoError)

/-- The outcome of a poll: a frame, or none at the end, and what is left to be polled. -/
structure Polled (F : Type) where
  frame : Option Frame
  feed : Option (Feed F)
  events : List Event
  notes : List Note

variable {F : Type}

/-- A body that was not polled yet. -/
def Feed.ofProducer (p : Producer F) : Feed F := ⟨p, [], false⟩

/-- The chunks among the events that hold a byte. -/
def chunksOf (events : List Event) : List Text.Bytes :=
  events.filterMap fun
    | .write chunk => if chunk.isEmpty then none else some chunk
    | _ => none

/-- Takes over the outcome of a step. -/
def Feed.absorb (feed : Feed F) (step : Step F) : Feed F :=
  ⟨step.producer, feed.pending ++ chunksOf step.events, feed.finished || step.events.contains .finish⟩

/-- The events of closing what a feed still has open. -/
def Feed.drop (feed : Feed F) : List Event :=
  match feed.producer.state with
  | .live _ _ => [.close]
  | _ => []

variable [ByteSource F]

/-- Ends a body with a failure: the producer is stopped and the failure noted. -/
def abort (producer : Producer F) (events : List Event) (what : String) (e : IoError) : Polled F :=
  ⟨some (.failure e), none, events ++ producer.stop.events, [⟨.error, what ++ e.message⟩]⟩

/-- Hands over a chunk that waits, or says that none does. -/
def Feed.take? (feed : Feed F) (events : List Event) : Option (Polled F) :=
  match feed.pending with
  | chunk :: rest => some ⟨some (.data chunk), some { feed with pending := rest }, events, []⟩
  | [] => none

/-- Answers a poll of a feed whose producer was started.  A step that succeeds without a byte has
    finished the job, so one step is enough. -/
def Feed.deliver (feed : Feed F) (events : List Event) : Polled F :=
  match feed.take? events with
  | some polled => polled
  | none =>
    if feed.finished || feed.producer.state.isTerminal then ⟨none, none, events, []⟩
    else
      let step := feed.producer.next
      match step.result with
      | .error e => abort step.producer (events ++ step.events) "Response body aborted: " e
      | .ok () =>
        match (feed.absorb step).take? (events ++ step.events) with
        | some polled => polled
        | none => ⟨none, none, events ++ step.events ++ (feed.absorb step).drop, []⟩

/-- Answers a poll. -/
def Feed.poll (feed : Feed F) : Polled F :=
  match feed.producer.state with
  | .live .idle _ =>
    let step := feed.producer.start
    match step.result with
    | .error e => abort step.producer step.events "Failed to start response body: " e
    | .ok () => (feed.absorb step).deliver step.events
  | _ => feed.deliver []

/-- What came of polling a body. -/
structure Delivery where
  frames : List Text.Bytes
  failure : Option IoError
  events : List Event
  notes : List Note

/-- All bytes that were delivered. -/
def Delivery.bytes (d : Delivery) : Text.Bytes := d.frames.flatten

/-- How often the file was closed. -/
def Delivery.closes (d : Delivery) : Nat := d.events.count .close

/-- Polls at most `polls` times and drops what is left; `frames` and `events` came before. -/
def Feed.drainFrom (frames : List Text.Bytes) (events : List Event) :
    Nat → Feed F → Delivery
  | 0, feed => ⟨frames.reverse, none, events ++ feed.drop, []⟩
  | polls + 1, feed =>
    let polled := feed.poll
    let events := events ++ polled.events.filter (· == .close)
    match polled.frame, polled.feed with
    | some (.data chunk), some feed => Feed.drainFrom (chunk :: frames) events polls feed
    | some (.data chunk), none => ⟨(chunk :: frames).reverse, none, events, polled.notes⟩
    | some (.failure e), _ => ⟨frames.reverse, some e, events, polled.notes⟩
    | none, _ => ⟨frames.reverse, none, events, polled.notes⟩

/-- Polls a body at most `polls` times. -/
def Feed.take (polls : Nat) (feed : Feed F) : Delivery := feed.drainFrom [] [] polls

/-- Polls a body to its end. -/
def Feed.drain (feed : Feed F) : Delivery :=
  feed.take (feed.pending.foldr (fun chunk n => chunk.length + n) 0 + feed.producer.job.remaining + 2)

end StaticSite.Stream
