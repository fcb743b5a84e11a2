/-
  ADVANCES: what a call does to a producer, said once.

  A producer that has begun makes a chunk of its job when it is asked for one: of a slice by a single
  read, of parts by gathering.  Either fails, or hands over what it made and goes on, or hands it over
  as the last.  `Advances` has these six cases, each with what was read or gathered, and `Starts` those
  of a producer that is to begin.  Whatever is to be shown of a step follows from them, so the
  functions that take the steps are looked into here only (`next_advances`, `start_starts`).
-/
import StaticSite.Stream.Producer

namespace StaticSite.Stream

variable {F : Type} [ByteSource F]

/-! ## Asking for a chunk -/

/-- What was read of a slice as it is handed over: nothing is not. -/
def handOver (bytes : Text.Bytes) : List Event := if bytes.isEmpty then [] else [.write bytes]

theorem handOver_of_ne_nil {bytes : Text.Bytes} (some : bytes ≠ []) :
    handOver bytes = [.write bytes] := if_neg (mt List.isEmpty_iff.1 some)

/-- The step that a producer takes which is asked for a chunk of its job. -/
inductive Advances (file : F) : Job → Step F → Prop
  | readFailed {offset : Option UInt64} {size written : UInt64} {e : IoError} {after : F}
      (read : readSome file (min (size - written).toNat chunkSize) = (.error e, after)) :
      Advances file (.slice offset size written)
        ⟨⟨.live .producing after, .slice offset size written⟩, [], .error e⟩
  | read {offset : Option UInt64} {size written : UInt64}
      {bytes : SomeBytes (min (size - written).toNat chunkSize)} {after : F}
      (read : readSome file (min (size - written).toNat chunkSize) = (.ok bytes, after))
      (incomplete : written + UInt64.ofNat bytes.val.length ≠ size) :
      Advances file (.slice offset size written)
        ⟨⟨.live .producing after, .slice offset size (written + UInt64.ofNat bytes.val.length)⟩,
          handOver bytes.val, .ok ()⟩
  | readLast {offset : Option UInt64} {size written : UInt64}
      {bytes : SomeBytes (min (size - written).toNat chunkSize)} {after : F}
      (read : readSome file (min (size - written).toNat chunkSize) = (.ok bytes, after))
      (complete : written + UInt64.ofNat bytes.val.length = size) :
      Advances file (.slice offset size written)
        (Producer.complete (.slice offset size (written + UInt64.ofNat bytes.val.length))
          (handOver bytes.val))
  | gatherFailed {left : List Range.Part} {written : UInt64} {due : Bool} {g : Gathering F}
      {e : IoError} (gathered : gather ⟨file, left, written, due, .empty⟩ = (g, .error e)) :
      Advances file (.parts left written due)
        ⟨⟨.live .producing g.file, .parts g.left g.written g.separatorDue⟩, [], .error e⟩
  | gathered {left : List Range.Part} {written : UInt64} {due : Bool} {g : Gathering F}
      (gathered : gather ⟨file, left, written, due, .empty⟩ = (g, .ok false)) :
      Advances file (.parts left written due)
        ⟨⟨.live .producing g.file, .parts g.left g.written g.separatorDue⟩,
          [.write g.chunk.bytes], .ok ()⟩
  | gatheredLast {left : List Range.Part} {written : UInt64} {due : Bool} {g : Gathering F}
      (gathered : gather ⟨file, left, written, due, .empty⟩ = (g, .ok true)) :
      Advances file (.parts left written due)
        (Producer.complete (.parts g.left g.written g.separatorDue) [.write g.chunk.bytes])

theorem produceSlice_advances (file : F) (offset : Option UInt64) (size written : UInt64) :
    Advances file (.slice offset size written) (produceSlice file offset size written) := by
  unfold produceSlice
  split
  next e after read => exact .readFailed read
  next bytes after read =>
    dsimp only
    split
    next complete => exact .readLast read complete
    next incomplete => exact .read read incomplete

theorem produceParts_advances (file : F) (left : List Range.Part) (written : UInt64) (due : Bool) :
    Advances file (.parts left written due) (produceParts file left written due) := by
  unfold produceParts
  split
  next g e gathered => exact .gatherFailed gathered
  next g gathered => exact .gathered gathered
  next g gathered => exact .gatheredLast gathered

/-- A producer that has begun is asked for a chunk. -/
theorem next_advances {stage : Stage} (begun : stage ≠ .idle) (file : F) (job : Job) :
    Advances file job (Producer.mk (.live stage file) job).next := by
  cases stage with
  | idle => exact absurd rfl begun
  | started =>
    cases job with
    | slice offset size written => exact produceSlice_advances file offset size written
    | parts left written due => exact produceParts_advances file left written due
  | producing =>
    cases job with
    | slice offset size written => exact produceSlice_advances file offset size written
    | parts left written due => exact produceParts_advances file left written due

/-! ## Starting -/

/-- The step that an idle producer takes which is started. -/
inductive Starts (file : F) : Job → Step F → Prop
  | inPlace {size written : UInt64} :
      Starts file (.slice none size written)
        ⟨⟨.live .started file, .slice none size written⟩, [.register], .ok ()⟩
  | sliceFailed {offset size written : UInt64} {e : IoError} {after : F}
      (seek : ByteSource.seek file offset = (.error e, after)) :
      Starts file (.slice (some offset) size written)
        ⟨⟨.live .idle after, .slice (some offset) size written⟩, [], .error e⟩
  | slice {offset size written : UInt64} {u : Unit} {after : F}
      (seek : ByteSource.seek file offset = (.ok u, after)) :
      Starts file (.slice (some offset) size written)
        ⟨⟨.live .started after, .slice (some offset) size 0⟩, [.register], .ok ()⟩
  | noParts {written : UInt64} {due : Bool} :
      Starts file (.parts [] written due)
        ⟨⟨.live .idle file, .parts [] written due⟩, [], .error .emptyPlan⟩
  | partsFailed {part : Range.Part} {rest : List Range.Part} {written : UInt64} {due : Bool}
      {e : IoError} {after : F} (seek : ByteSource.seek file part.offset = (.error e, after)) :
      Starts file (.parts (part :: rest) written due)
        ⟨⟨.live .idle after, .parts (part :: rest) 0 true⟩, [], .error e⟩
  | parts {part : Range.Part} {rest : List Range.Part} {written : UInt64} {due : Bool} {u : Unit}
      {after : F} (seek : ByteSource.seek file part.offset = (.ok u, after)) :
      Starts file (.parts (part :: rest) written due)
        ⟨⟨.live .started after, .parts (part :: rest) 0 true⟩, [.register], .ok ()⟩

theorem start_starts (file : F) (job : Job) :
    Starts file job (Producer.mk (.live .idle file) job).start := by
  unfold Producer.start
  cases job with
  | slice offset size written =>
    cases offset with
    | none => exact .inPlace
    | some offset =>
      dsimp only
      split
      next e after seek => exact .sliceFailed seek
      next u after seek => exact .slice seek
  | parts left written due =>
    cases left with
    | nil => exact .noParts
    | cons part rest =>
      dsimp only
      split
      next e after seek => exact .partsFailed seek
      next u after seek => exact .parts seek

end StaticSite.Stream
