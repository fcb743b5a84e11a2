/-
  FILE SYSTEMS: what a site needs to know of the files below it.

  A file system answers four questions about a path.  The answers belong to one moment: serving a
  request asks one file system only, and a later request may be given another.  `F` is the kind of
  file that opening gives.
-/
import StaticSite.Files.Error
import StaticSite.Files.Path
import StaticSite.Http.Date
import StaticSite.Text.Utf8

namespace StaticSite

/-- What kind of thing a path leads to. -/
inductive FileKind
  | directory
  | regular
  | other
deriving DecidableEq, Repr

/-- What is known of a thing without opening it. -/
structure Stat where
  kind : FileKind
  size : UInt64
  modified : Instant
deriving DecidableEq, Repr

/-- Whether it is a directory. -/
def Stat.isDir (s : Stat) : Bool := s.kind == .directory

/-- Whether it is a regular file. -/
def Stat.isFile (s : Stat) : Bool := s.kind == .regular

/-- The files as they are at one moment. -/
structure FileSystem (F : Type) where
  /-- What a path leads to, links being followed. -/
  stat : FilePath → Except IoError Stat
  /-- The names in a directory, in any order; they need not be text. -/
  list : FilePath → Except IoError (List Text.Bytes)
  /-- A file, open for reading. -/
  openFile : FilePath → Except IoError F
  /-- All bytes of a file. -/
  contents : FilePath → Except IoError Text.Bytes

namespace FileSystem

variable {F : Type} (fs : FileSystem F)

/-- What a path leads to, if that can be told. -/
def stat? (path : FilePath) : Option Stat := (fs.stat path).toOption

/-- The names in a directory as text, in the order of their characters. -/
def sortedNames (path : FilePath) : Except IoError (List String) :=
  (fs.list path).map fun names =>
    (names.map fun name => String.ofList (Text.decodeLossy name)).mergeSort fun a b => decide (a ≤ b)

end FileSystem

end StaticSite
