/-
  SESSIONS: one request on a connection.

  The site answers, and the access log gets a line if it is kept.  The line tells of the response
  as the site made it, before the transport adds anything.  Where there is no answer the connection
  is closed, and no line tells of it.
-/
import StaticSite.Log.Access
import StaticSite.Site.Respond

namespace StaticSite.Server

/-- What is known of an exchange beside its request. -/
structure Circumstances where
  peer : String
  version : Log.Version
  /-- Seconds since 1970. -/
  time : Int
  microseconds : UInt64
  boundary : String

/-- The outcome of a request: the response, the line for the access log if it is kept, and what
    the site remembers. -/
structure Exchange (F : Type) where
  response : Except Overflow (Http.Response F)
  accessLine : Option String
  memory : Site.Memory

/-- The line for the access log about a response, if the log is kept. -/
def accessLine? {F : Type} (site : Site) (request : Http.Request) (at_ : Circumstances)
    (response : Http.Response F) : Option String :=
  let entry := Log.accessEntry request at_.version response at_.peer at_.time at_.microseconds
  let logging := site.config.logging
  if logging.accessLog then some (entry.line logging.accessFormat) else none

/-- Answers a request on a connection. -/
def handle {F : Type} (site : Site) (memory : Site.Memory) (fs : FileSystem F)
    (request : Http.Request) (at_ : Circumstances) : Logged (Exchange F) := do
  let (response, memory) ← site.respond memory fs request at_.boundary
  return ⟨response, response.toOption.bind (accessLine? site request at_), memory⟩

/-- Whether a connection is kept after an exchange, as far as the site has a say in it: time-outs
    for idle connections are not switched off. -/
def keepsConnections (site : Site) : Bool := site.config.performance.keepAliveTimeout != 0

end StaticSite.Server
