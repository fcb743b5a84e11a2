/-
  CONFIGURATION: what a site is told at its start.

  Five sections, each with a value for what is left out.  The types are those of the running
  site: what a document may hold, and how it is read, is the matter of other modules.
-/
import StaticSite.Site.Root

namespace StaticSite.Config

/-- How an access log line is written. -/
inductive AccessFormat
  | combined
  | common
deriving DecidableEq, Repr

/-- Where the server listens. -/
structure Server where
  host : String
  port : UInt16
  workers : Option UInt64
  backlog : Int32
deriving DecidableEq, Repr

/-- What is logged, and where to. -/
structure Logging where
  level : String
  accessLog : Bool
  accessFormat : AccessFormat
  accessFile : Option String
  errorFile : Option String
deriving DecidableEq, Repr

/-- Limits on connections; times are in seconds. -/
structure Performance where
  keepAliveTimeout : UInt64
  readTimeout : UInt64
  maxConnections : Option UInt64
deriving DecidableEq, Repr

/-- A directory and the request paths that lead into it. -/
structure Mount where
  /-- The path of the mount, slashes around it not counting. -/
  at_ : String
  root : String
  defaultType : String
  indexNames : List String
  ignoredExts : List String
  processors : List (String × Site.Processor)
  types : List (String × String)
  encodings : List (String × String)
deriving DecidableEq, Repr

/-- A fixed answer to one request path. -/
structure Data where
  path : String
  contentType : String
  body : String
deriving DecidableEq, Repr

/-- The server that listens where nothing else is said. -/
def Server.usual : Server := ⟨"127.0.0.1", 8080, none, 128⟩

/-- The logging where nothing else is said. -/
def Logging.usual : Logging := ⟨"info", true, .combined, none, none⟩

/-- The limits where nothing else is said. -/
def Performance.usual : Performance := ⟨75, 30, none⟩

/-- Whether notes for diagnosis are written: the level is `debug`, in any case. -/
def Logging.isDebug (l : Logging) : Bool := Media.lower l.level == "debug"

/-- The root of a mount. -/
def Mount.toRoot (m : Mount) : Site.Root :=
  let usual := Site.Root.usual m.root
  let root : Site.Root :=
    { usual with
      defaultType := m.defaultType
      indexNames := m.indexNames
      ignoredExts := m.ignoredExts }
  (root.withTables m.types m.encodings).withProcessors m.processors

end StaticSite.Config

namespace StaticSite

/-- The configuration of a site. -/
structure Config where
  server : Config.Server
  logging : Config.Logging
  performance : Config.Performance
  mounts : List Config.Mount
  data : List Config.Data
deriving DecidableEq, Repr

/-- The configuration where nothing is said. -/
def Config.usual : Config := ⟨.usual, .usual, .usual, [], []⟩

end StaticSite
