/-
  CONNECTIONS: how many may be served at once.

  A connection that arrives takes a slot before it is known whether there is one to take; one that
  finds the limit reached gives its slot back at once and is turned away.  A connection that was
  accepted is served by a task of its own, which gives the slot back when it ends, however it ends.

  Slots are counted in a word, and a word wraps around: giving one back where none is in use, or
  taking one too many, would leave a wrong count and no trace.

  The loop that accepts and all the tasks share one thread.  An arrival is decided in one turn of
  it and so is an ending, so the life of a server is a row of such events, in any order.
-/
import StaticSite.Log.Note

namespace StaticSite.Server

/-! ## Slots -/

/-- The slots in use. -/
structure Slots where
  inUse : UInt64
deriving DecidableEq, Repr

/-- No connection yet. -/
def Slots.none : Slots := ⟨0⟩

/-- Takes a slot. -/
def Slots.take (s : Slots) : Slots := ⟨s.inUse + 1⟩

/-- Gives a slot back. -/
def Slots.release (s : Slots) : Slots := ⟨s.inUse - 1⟩

/-- A slot that is taken and given back leaves the count as it was, wherever it stood. -/
@[simp] theorem Slots.release_take (s : Slots) : s.take.release = s := by
  rw [Slots.take, Slots.release, UInt64.add_sub_cancel]

/-- Whether so many connections are all that may be served. -/
def limitReached (limit : Option UInt64) (inUse : UInt64) : Bool :=
  match limit with
  | some most => most ≤ inUse
  | .none => false

/-! ## Connections -/

/-- An open connection: the descriptor of its stream, a word of 32 bits, and where it comes from. -/
structure Connection where
  descriptor : UInt32
  peer : String
deriving DecidableEq, Repr

/-- A server at work: the slots in use, and the connections that have a task. -/
structure Service where
  slots : Slots
  served : List Connection
deriving DecidableEq, Repr

/-- A server to which no connection came yet. -/
def Service.opened : Service := ⟨.none, []⟩

/-- The warning about a connection that was turned away. -/
def rejection (inUse : UInt64) (limit : Option UInt64) : String :=
  "Max connections reached: " ++ toString inUse.toNat ++ "/"
    ++ (match limit with | some most => toString most.toNat | .none => "") ++ ". Connection rejected."

/-- A connection arrives: whether it is served, and the server after that. -/
def Service.arrive (s : Service) (limit : Option UInt64) (c : Connection) :
    Logged (Bool × Service) :=
  let taken := s.slots.take
  if limitReached limit s.slots.inUse then do
    note .warning (rejection s.slots.inUse limit)
    return (false, ⟨taken.release, s.served⟩)
  else do
    note .debug ("[Connection] Accepted from: " ++ c.peer)
    return (true, ⟨taken, c :: s.served⟩)

/-- The task of a connection ends, possibly by a failure: the slot is given back in either case. -/
def Service.leave (s : Service) (c : Connection) (failure : Option String) : Logged Service := do
  match failure with
  | some e => note .error ("Failed to serve connection: " ++ e)
  | .none => pure ()
  return ⟨s.slots.release, s.served.erase c⟩

/-- A connection that is turned away leaves nothing behind. -/
theorem Service.value_arrive (s : Service) (limit : Option UInt64) (c : Connection) :
    (s.arrive limit c).value =
      if limitReached limit s.slots.inUse then (false, s)
      else (true, ⟨s.slots.take, c :: s.served⟩) := by
  unfold Service.arrive
  split
  · show (false, Service.mk s.slots.take.release s.served) = (false, s)
    rw [Slots.release_take]
  · rfl

/-- A failure makes no difference to the slots. -/
theorem Service.value_leave (s : Service) (c : Connection) (failure : Option String) :
    (s.leave c failure).value = ⟨s.slots.release, s.served.erase c⟩ := by
  cases failure with
  | some e => rfl
  | none => rfl

/-! ## Events -/

/-- What happens to connections. -/
inductive ConnectionEvent
  /-- One arrives. -/
  | arrival (c : Connection)
  /-- One cannot be accepted, for some reason that lies outside. -/
  | failedArrival (message : String)
  /-- The task of one ends, possibly by a failure. -/
  | ending (c : Connection) (failure : Option String)
deriving DecidableEq, Repr

/-- The server after an event. -/
def Service.on (s : Service) (limit : Option UInt64) : ConnectionEvent → Logged Service
  | .arrival c => Prod.snd <$> s.arrive limit c
  | .failedArrival message => do
    note .error ("Failed to accept connection: " ++ message)
    return s
  | .ending c failure => s.leave c failure

/-- The server after some events. -/
def Service.after (s : Service) (limit : Option UInt64) : List ConnectionEvent → Service
  | [] => s
  | event :: events => (s.on limit event).value.after limit events

end StaticSite.Server
