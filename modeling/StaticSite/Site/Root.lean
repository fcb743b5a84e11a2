/-
  ROOTS: the directory behind a mount, and the rules for what lies below it.

  The type of a file follows from its name and the tables of its root.  A root remembers the types
  of the paths it was asked for (`MediaCache`); what it remembers is what it would work out again.
-/
import StaticSite.Files.Path
import StaticSite.Media.Builtin
import StaticSite.Site.Processor

namespace StaticSite.Site

/-- A directory that is served, and how. -/
structure Root where
  path : FilePath
  /-- The type of files whose extension is in no table. -/
  defaultType : String
  /-- The files shown in place of a directory, the first that exists. -/
  indexNames : List String
  /-- The extensions that a request may leave out, in the order they are tried. -/
  ignoredExts : List String
  processors : Registry
  types : Dict String
  encodings : Dict String

/-- The type of files of which nothing is known. -/
def fallbackType : String := "text/html"

/-- The index files where none are configured. -/
def usualIndexNames : List String := ["index", "index.html", "index.htm"]

/-- A root with the usual rules. -/
def Root.usual (path : FilePath) : Root :=
  ⟨path, fallbackType, usualIndexNames, [], [], Media.builtinTypes, Media.builtinEncodings⟩

/-- The root with further media types and encodings. -/
def Root.withTables (root : Root) (types encodings : List (String × String)) : Root :=
  { root with
    types := Media.mergeTable root.types types
    encodings := Media.mergeTable root.encodings encodings }

/-- The root with further processors. -/
def Root.withProcessors (root : Root) (processors : List (String × Processor)) : Root :=
  { root with processors := processors.foldl (fun r e => r.register e.1 e.2) root.processors }

/-- Type and encoding of a file name. -/
def Root.mediaForName (root : Root) (name : String) : MediaType :=
  Media.resolve name root.types root.encodings root.defaultType

/-- The types of the paths asked for so far. -/
abbrev MediaCache := List (FilePath × MediaType)

/-- The remembered type of a path. -/
def MediaCache.get? (cache : MediaCache) (path : FilePath) : Option MediaType :=
  (cache.find? fun e => e.1 == path).map fun e => e.2

/-- Type and encoding of the file at a path, and the cache after it was asked for. -/
def Root.mediaForPath (root : Root) (cache : MediaCache) (path : FilePath) :
    MediaType × MediaCache :=
  match cache.get? path with
  | some media => (media, cache)
  | none =>
    let media := root.mediaForName path.fileName
    (media, (path, media) :: cache)

end StaticSite.Site
