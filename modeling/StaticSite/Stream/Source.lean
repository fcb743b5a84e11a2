/-
  SOURCES: what bytes are read from.

  A source is a file open for reading.  Reading with a limit gives at most that many bytes — the
  type says so — and moves on; no bytes for a positive limit means the end.  Seeking moves to a
  position, which may lie beyond the end.  Both may fail, and a failed source can be asked again.

  Nothing else is assumed: a source may give fewer bytes than asked, and its content may change
  between two reads.  `MemoryFile` is the source that always has the same content.
-/
import StaticSite.Files.Error
import StaticSite.Text.Utf8

namespace StaticSite.Stream

/-- At most `limit` bytes. -/
abbrev Chunk (limit : Nat) := { bytes : Text.Bytes // bytes.length ≤ limit }

/-- Files open for reading; an operation gives its result and the file after it. -/
class ByteSource (F : Type) where
  read : F → (limit : Nat) → Except IoError (Chunk limit) × F
  seek : F → UInt64 → Except IoError Unit × F

/-- The first `limit` bytes. -/
def Chunk.ofPrefix (limit : Nat) (bytes : Text.Bytes) : Chunk limit :=
  ⟨bytes.take limit, by simp only [List.length_take]; omega⟩

/-- A file in memory: all of it, and what lies behind the current position. -/
structure MemoryFile where
  content : Text.Bytes
  ahead : Text.Bytes

/-- A file in memory, at its start. -/
def MemoryFile.ofContent (content : Text.Bytes) : MemoryFile := ⟨content, content⟩

instance : ByteSource MemoryFile where
  read f limit := (.ok (Chunk.ofPrefix limit f.ahead), ⟨f.content, f.ahead.drop limit⟩)
  seek f position := (.ok (), ⟨f.content, f.content.drop position.toNat⟩)

/-- A file in memory that hands out short reads and can be told to fail once. -/
structure FaultyFile where
  file : MemoryFile
  /-- No read gives more than this, if it is set. -/
  readLimit : Option Nat
  /-- How many reads from now the failing one is, if one is to fail. -/
  failsIn : Option Nat

/-- The text of an ordered failure. -/
def injectedFailure : IoError := .device "injected read failure"

instance : ByteSource FaultyFile where
  read f limit :=
    match f.failsIn with
    | some 1 => (.error injectedFailure, { f with failsIn := none })
    | failsIn =>
      let most := match f.readLimit with
        | some n => min n limit
        | none => limit
      let after : MemoryFile := ⟨f.file.content, f.file.ahead.drop most⟩
      (.ok ⟨f.file.ahead.take most, by
          simp only [List.length_take, most]; split <;> omega⟩,
        { f with file := after, failsIn := failsIn.map (· - 1) })
  seek f position := (.ok (), { f with file := (ByteSource.seek f.file position).2 })

end StaticSite.Stream
