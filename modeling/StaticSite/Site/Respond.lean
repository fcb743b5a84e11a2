/-
  RESPONDING: the answer of a site to a request.

  Only GET, HEAD and OPTIONS are served.  A fixed answer goes before all mounts; else the mount
  that covers the path takes the segments below it.  The path is cut at its slashes BEFORE escapes
  are undone, so an escaped slash never makes a segment of its own.  An error is noted, and the
  client is told no more than that there was one.  Where a length overflows there is no answer, but
  what was noted and remembered before stays.

  A site remembers the media types of the files it was asked for, mount by mount (`Memory`).
-/
import StaticSite.Site.Mount
import StaticSite.Site.Serve

namespace StaticSite.Site

open Http (Request Response)

/-- What a site remembers from one request to the next: the types that each mount worked out. -/
abbrev Memory := List MediaCache

/-- A site that has not been asked for anything. -/
def freshMemory (site : Site) : Memory := site.mounts.map fun _ => []

/-- The segments of a path below a mount, their escapes undone.  A path that ends with the mount
    has none; one that does not spell text gives nothing. -/
def splitSegments (below : String) : Option (List String) :=
  match below.toList with
  | '/' :: rest =>
    (Text.fields '/' rest).mapM fun raw =>
      (Text.decode? (Text.percentDecode (Text.encode raw))).map String.ofList
  | _ => some []

/-- The answer to a method that is not served like GET. -/
def methodAnswer? {F : Type} (method : String) : Option (Logged (Response F)) :=
  if method = "GET" ∨ method = "HEAD" then none
  else if method = "OPTIONS" then some Http.options
  else some do
    note .warning ("Method not allowed: " ++ method)
    Http.methodNotAllowed

/-- The answer of a mount to a request for segments below it. -/
def respondBelow {F : Type} (fs : FileSystem F) (mount : Mount) (cache : MediaCache)
    (segments : List String) (request : Request) (boundary : String) :
    Logged (Except Overflow (Response F) × MediaCache) := do
  let (answer, cache) ← servePath fs mount.root cache segments request boundary
  match answer with
  | .ok response => return (.ok response, cache)
  | .error (.reported e) => do
    note .error (request.method ++ " " ++ request.uri.path ++ ": " ++ e.message)
    let page ← Http.internalError
    return (.ok page, cache)
  | .error .overflow => return (.error ⟨⟩, cache)

/-- The answer of a site to a request; `boundary` divides the parts of a multipart body. -/
def respond {F : Type} (site : Site) (memory : Memory) (fs : FileSystem F) (request : Request)
    (boundary : String) : Logged (Except Overflow (Response F) × Memory) :=
  match methodAnswer? request.method with
  | some answer => do
    let page ← answer
    return (.ok page, memory)
  | none =>
    match site.data.get? request.uri.path with
    | some data => do
      let page ← data.render request.isHead
      return (.ok page, memory)
    | none =>
      match site.findMount request.uri.path with
      | none => do
        let page ← Http.notFound
        return (.ok page, memory)
      | some (place, mount, below) =>
        match splitSegments below with
        | none => do
          note .debug ("Rejecting undecodable path " ++ Text.quoted request.uri.path)
          let page ← Http.notFound
          return (.ok page, memory)
        | some segments => do
          let (answer, cache) ←
            respondBelow fs mount (memory[place]?.getD []) segments request boundary
          return (answer, memory.set place cache)

end StaticSite.Site
