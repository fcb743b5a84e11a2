/-
  PRODUCERS: a file, or parts of one, copied into a body chunk by chunk.

  A producer owns an open file and a job.  The transport asks for the next chunk whenever it can
  take more; each such step writes at most one bounded chunk, and nothing is read ahead of demand.
  All progress lives in the producer, so it may be asked again after a step that failed.

      idle ──start──▶ started ──next──▶ producing ──▶ finished
        └───────────────┴─────────stop─────┴────────▶ stopped

  The file is part of the state as long as the producer is live, and of no later state: to finish
  or to stop IS to close it.

  A job is one of two.  A SLICE is a number of bytes from an offset, or from where the file stands.
  PARTS are separators, each followed by a slice, as a multipart plan lays them out; a chunk may
  span several of them.

  Numbered structure:
    §1  states, jobs, events
    §2  reading at least a byte
    §3  `gather`: a chunk across parts
    §4  the three steps `start`, `next`, `stop`
-/
import StaticSite.Stream.Source
import StaticSite.Range.Multipart

set_option linter.unusedVariables false

namespace StaticSite.Stream

/-! ## §1 States, jobs, events -/

/-- The most bytes of the file that a chunk holds. -/
def chunkSize : Nat := 65536

/-- How far a live producer is. -/
inductive Stage
  | idle
  | started
  | producing
deriving DecidableEq, Repr

/-- The state of a producer; a live one holds its file. -/
inductive State (F : Type)
  | live (stage : Stage) (file : F)
  | finished
  | stopped

/-- What is still to be written. -/
inductive Job
  /-- `size` bytes, of which `written` are; without an offset they begin where the file stands. -/
  | slice (offset : Option UInt64) (size written : UInt64)
  /-- The parts left, the first of them under way: whether its separator is still to be written,
      and how many bytes of its slice are. -/
  | parts (left : List Range.Part) (written : UInt64) (separatorDue : Bool)

/-- An open file and what to copy from it. -/
structure Producer (F : Type) where
  state : State F
  job : Job

/-- What a step does to the world: calls of the consumer, and closing the file. -/
inductive Event
  | register
  | write (chunk : Text.Bytes)
  | unregister
  | finish
  | close
deriving DecidableEq, Repr

/-- The outcome of a step. -/
structure Step (F : Type) where
  producer : Producer F
  events : List Event
  result : Except IoError Unit

variable {F : Type}

/-- Whether no further step can change the state. -/
def State.isTerminal : State F → Bool
  | .live _ _ => false
  | .finished => true
  | .stopped => true

/-- A producer of a whole file of known size. -/
def Producer.whole (file : F) (size : UInt64) : Producer F := ⟨.live .idle file, .slice none size 0⟩

/-- A producer of one slice of a file. -/
def Producer.single (file : F) (offset size : UInt64) : Producer F :=
  ⟨.live .idle file, .slice (some offset) size 0⟩

/-- A producer of a multipart body. -/
def Producer.multiple (file : F) (parts : List Range.Part) : Producer F :=
  ⟨.live .idle file, .parts parts 0 true⟩

/-- The bytes of a slice written so far; a multipart producer does not count them. -/
def Producer.written? (p : Producer F) : Option UInt64 :=
  match p.job with
  | .slice _ _ written => some written
  | .parts _ _ _ => none

/-- The same producer over another kind of file. -/
def Producer.mapFile {G : Type} (f : F → G) (p : Producer F) : Producer G :=
  match p.state with
  | .live stage file => ⟨.live stage (f file), p.job⟩
  | .finished => ⟨.finished, p.job⟩
  | .stopped => ⟨.stopped, p.job⟩

/-- An upper bound for the bytes still to be written. -/
def Job.remaining : Job → Nat
  | .slice _ size written => (size - written).toNat
  | .parts left _ _ => left.foldr (fun part n => part.separator.utf8ByteSize + part.size.toNat + n) 0

/-! ## §2 Reading at least a byte -/

/-- Up to `limit` bytes, at least one unless none is wanted. -/
abbrev SomeBytes (limit : Nat) :=
  { bytes : Text.Bytes // bytes.length ≤ limit ∧ (0 < limit → 0 < bytes.length) }

variable [ByteSource F]

/-- Reads some bytes if any are wanted; the end of the file is an error then. -/
def readSome (file : F) (limit : Nat) : Except IoError (SomeBytes limit) × F :=
  if wanted : 0 < limit then
    match ByteSource.read file limit with
    | (.error e, file) => (.error e, file)
    | (.ok bytes, file) =>
      if some : 0 < bytes.val.length then (.ok ⟨bytes.val, bytes.property, fun _ => some⟩, file)
      else (.error .unexpectedEnd, file)
  else (.ok ⟨[], by simp, fun h => absurd h wanted⟩, file)

/-! ## §3 Gathering a chunk across parts -/

/-- A chunk in the making: its bytes, last one first, and their number. -/
structure Gathered where
  reversed : Text.Bytes
  size : Nat
  size_eq : reversed.length = size

/-- Nothing gathered yet. -/
def Gathered.empty : Gathered := ⟨[], 0, rfl⟩

/-- Adds bytes at the end. -/
def Gathered.append (g : Gathered) (bytes : Text.Bytes) : Gathered :=
  ⟨bytes.reverseAux g.reversed, g.size + bytes.length, by
    rw [List.reverseAux_eq, List.length_append, List.length_reverse, g.size_eq]; omega⟩

/-- The bytes in order. -/
def Gathered.bytes (g : Gathered) : Text.Bytes := g.reversed.reverse

@[simp] theorem Gathered.size_append (g : Gathered) (bytes : Text.Bytes) :
    (g.append bytes).size = g.size + bytes.length := rfl

@[simp] theorem Gathered.bytes_append (g : Gathered) (bytes : Text.Bytes) :
    (g.append bytes).bytes = g.bytes ++ bytes := by
  simp [Gathered.append, Gathered.bytes, List.reverseAux_eq]

/-- A chunk across parts in the making. -/
structure Gathering (F : Type) where
  file : F
  left : List Range.Part
  written : UInt64
  separatorDue : Bool
  chunk : Gathered

/-- The chunk with the separator of the current part, if that is still to be written. -/
def Gathering.announced (g : Gathering F) (part : Range.Part) : Gathered :=
  if g.separatorDue then g.chunk.append (Text.utf8 part.separator) else g.chunk

omit [ByteSource F] in
theorem Gathering.size_le_announced (g : Gathering F) (part : Range.Part) :
    g.chunk.size ≤ (g.announced part).size := by
  unfold Gathering.announced
  split <;> simp

/-- A round that leaves the slice incomplete has made the chunk longer: either bytes were read, or
    there was no room for any beside the separator. -/
theorem grows_of_incomplete {size written : UInt64} {before announced : Nat} {bytes : Text.Bytes}
    (room : before < chunkSize) (keeps : before ≤ announced)
    (read : bytes.length ≤ min (size - written).toNat (chunkSize - announced) ∧
      (0 < min (size - written).toNat (chunkSize - announced) → 0 < bytes.length))
    (incomplete : ¬written + UInt64.ofNat bytes.length = size) :
    before < announced + bytes.length := by
  rcases Nat.eq_zero_or_pos (size - written).toNat with gap | gap
  · have nothing : size - written = 0 := UInt64.toNat_inj.1 gap
    have same : size = written := by
      have sum := UInt64.sub_add_cancel size written
      rw [nothing, UInt64.zero_add] at sum
      exact sum.symm
    have none : bytes.length = 0 := by omega
    exact absurd (by simp [none, same]) incomplete
  · omega

/-- Fills a chunk: a separator if one is due, as much of the slice as there is room for, and on to
    the next part once the slice is complete.  Ends when the chunk is full (`false`), when the last
    part is complete (`true`), or at a failure; what was gathered is then lost to the caller, but
    the progress stands.

    Each round either leaves a part behind or makes the chunk longer. -/
def gather (g : Gathering F) : Gathering F × Except IoError Bool :=
  if room : g.chunk.size < chunkSize then
    match hleft : g.left with
    | [] => (g, .ok true)
    | part :: rest =>
      let announced := g.announced part
      let limit := min (part.size - g.written).toNat (chunkSize - announced.size)
      match readSome g.file limit with
      | (.error e, file) => (⟨file, part :: rest, g.written, false, announced⟩, .error e)
      | (.ok bytes, file) =>
        let chunk := announced.append bytes.val
        let written := g.written + UInt64.ofNat bytes.val.length
        if complete : written = part.size then
          match rest with
          | [] => (⟨file, [part], written, false, chunk⟩, .ok true)
          | next :: others =>
            match ByteSource.seek file next.offset with
            | (.error e, file) => (⟨file, next :: others, 0, true, chunk⟩, .error e)
            | (.ok _, file) => gather ⟨file, next :: others, 0, true, chunk⟩
        else gather ⟨file, part :: rest, written, false, chunk⟩
  else (g, .ok false)
termination_by (g.left.length, chunkSize - g.chunk.size)
decreasing_by
  · rw [hleft]
    exact Prod.Lex.left _ _ (by simp)
  · rw [hleft]
    refine Prod.Lex.right _ ?_
    have grows : g.chunk.size < announced.size + bytes.val.length :=
      grows_of_incomplete room (g.size_le_announced part) bytes.property complete
    have longer : chunk.size = announced.size + bytes.val.length := rfl
    show chunkSize - chunk.size < chunkSize - g.chunk.size
    omega

/-! ## §4 Steps -/

/-- A step that changes nothing. -/
def Producer.keep (p : Producer F) (result : Except IoError Unit) : Step F := ⟨p, [], result⟩

/-- Ends the job: the consumer is told, and the file is closed. -/
def Producer.complete (job : Job) (written : List Event) : Step F :=
  ⟨⟨.finished, job⟩, written ++ [.unregister, .finish, .close], .ok ()⟩

/-- Makes an idle producer ready: the file is taken to its first position and the consumer learns
    of the producer.  If that fails the producer stays idle; one that is not idle stays as it is. -/
def Producer.start (p : Producer F) : Step F :=
  match p.state with
  | .live .idle file =>
    match p.job with
    | .slice none _ _ => ⟨⟨.live .started file, p.job⟩, [.register], .ok ()⟩
    | .slice (some offset) size _ =>
      match ByteSource.seek file offset with
      | (.error e, file) => ⟨⟨.live .idle file, p.job⟩, [], .error e⟩
      | (.ok _, file) => ⟨⟨.live .started file, .slice (some offset) size 0⟩, [.register], .ok ()⟩
    | .parts [] _ _ => p.keep (.error .emptyPlan)
    | .parts (part :: rest) _ _ =>
      match ByteSource.seek file part.offset with
      | (.error e, file) => ⟨⟨.live .idle file, .parts (part :: rest) 0 true⟩, [], .error e⟩
      | (.ok _, file) =>
        ⟨⟨.live .started file, .parts (part :: rest) 0 true⟩, [.register], .ok ()⟩
  | _ => p.keep (.ok ())

/-- Writes the next chunk of a slice. -/
def produceSlice (file : F) (offset : Option UInt64) (size written : UInt64) : Step F :=
  match readSome file (min (size - written).toNat chunkSize) with
  | (.error e, file) => ⟨⟨.live .producing file, .slice offset size written⟩, [], .error e⟩
  | (.ok bytes, file) =>
    let total := written + UInt64.ofNat bytes.val.length
    let events := if bytes.val.isEmpty then [] else [Event.write bytes.val]
    if total = size then Producer.complete (.slice offset size total) events
    else ⟨⟨.live .producing file, .slice offset size total⟩, events, .ok ()⟩

/-- Writes the next chunk of a row of parts. -/
def produceParts (file : F) (left : List Range.Part) (written : UInt64) (separatorDue : Bool) : Step F :=
  match gather ⟨file, left, written, separatorDue, .empty⟩ with
  | (g, .error e) => ⟨⟨.live .producing g.file, .parts g.left g.written g.separatorDue⟩, [], .error e⟩
  | (g, .ok false) =>
    ⟨⟨.live .producing g.file, .parts g.left g.written g.separatorDue⟩,
      [.write g.chunk.bytes], .ok ()⟩
  | (g, .ok true) => Producer.complete (.parts g.left g.written g.separatorDue) [.write g.chunk.bytes]

/-- Writes the next chunk.  A producer that was not started refuses; one that has finished or was
    stopped does nothing. -/
def Producer.next (p : Producer F) : Step F :=
  match p.state with
  | .live .idle _ => p.keep (.error .notStarted)
  | .live _ file =>
    match p.job with
    | .slice offset size written => produceSlice file offset size written
    | .parts left written separatorDue => produceParts file left written separatorDue
  | _ => p.keep (.ok ())

/-- Gives up: the file is closed.  A producer that has finished stays so. -/
def Producer.stop (p : Producer F) : Step F :=
  match p.state with
  | .live _ _ => ⟨⟨.stopped, p.job⟩, [.close], .ok ()⟩
  | _ => p.keep (.ok ())

/-- A producer that has finished or was stopped stays as it is, whatever is asked of it. -/
theorem Producer.terminal_stays {p : Producer F} (h : p.state.isTerminal = true) :
    p.start = p.keep (.ok ()) ∧ p.next = p.keep (.ok ()) ∧ p.stop = p.keep (.ok ()) := by
  obtain ⟨state, job⟩ := p
  cases state with
  | live stage file => cases h
  | finished => exact ⟨rfl, rfl, rfl⟩
  | stopped => exact ⟨rfl, rfl, rfl⟩

end StaticSite.Stream
