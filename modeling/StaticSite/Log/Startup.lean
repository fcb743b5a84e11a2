/-
  STARTUP: what a server tells when it starts and when it stops.
-/
import StaticSite.Server.Address
import StaticSite.Site.Error
import StaticSite.Site.Mount

namespace StaticSite.Log

/-- The complaint about a text that is no address. -/
def badAddressMessage : String := "invalid socket address syntax"

/-- The address on which a server listens. -/
def listenAddress (server : Config.Server) : Except Site.ServeError Server.Address :=
  let text := server.host ++ ":" ++ toString server.port.toNat
  match Server.Address.parse? text with
  | some address => .ok address
  | none => .error (.address (text ++ ": " ++ badAddressMessage))

/-- The line above and below what a server tells at its start. -/
def rule : String := "======================================"

/-- A mount as it is told. -/
def mountMessage (m : Site.Mount) : String :=
  "Mount: " ++ (if m.at_ = "" then "/" else m.at_) ++ " -> " ++ m.root.path

/-- The warning about a site that answers nothing. -/
def emptySiteWarning : String :=
  "No mounts or data routes configured; every request will be 404"

/-- What is noted about a site before it is served. -/
def startNotes (site : Site) : List Note :=
  if site.mounts.isEmpty && site.data.isEmpty then [⟨.warning, emptySiteWarning⟩] else []

/-- What a server tells when it starts; one message may be several lines. -/
def startMessages (address : Server.Address) (site : Site) : List String :=
  let config := site.config
  [rule, "File server started", "Listening on: http://" ++ address.text,
    "Log level: " ++ config.logging.level]
  ++ (config.server.workers.toList.map fun n => "Worker threads: " ++ toString n.toNat)
  ++ site.mounts.map mountMessage
  ++ (site.data.map fun d => "Data: " ++ d.1)
  ++ (config.logging.accessFile.toList.map fun path => "Access log: " ++ path)
  ++ (config.logging.errorFile.toList.map fun path => "Error log: " ++ path)
  ++ [rule ++ "\n"]

/-- What a server tells when it stops. -/
def stopMessages : List String := ["[Shutdown] Stopped accepting connections"]

/-- The lines of messages. -/
def linesOf (messages : List String) : List String :=
  messages.flatMap fun m => (Text.fields '\n' m.toList).map String.ofList

end StaticSite.Log
