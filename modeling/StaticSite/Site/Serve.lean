/-
  SERVING: from a path below a root to an answer.

  A directory is listed, or the client is sent to its path with a slash at the end.  A file is
  opened; if the client has it already it is told so, else it gets what its Range header selects.
  A stored response is sent as it stands.  What a file system said about a path is asked once and
  holds for the whole answer.

  Numbered structure:
    §1  targets: what is known of a path
    §2  files and directories
    §3  stored responses
    §4  `servePath`
-/
import StaticSite.Http.Date
import StaticSite.Site.Error
import StaticSite.Site.Listing
import StaticSite.Stream.Prepared

namespace StaticSite.Site

open Http (Request Response)

/-! ## §1 Targets -/

/-- What is known of a path when it is about to be served.  It is never asked for again: a file
    that changes while it is sent is still described by this. -/
structure Target where
  path : FilePath
  /-- Nothing if the path cannot be looked at, for whatever reason. -/
  stat : Option Stat
  media : MediaType

variable {F : Type} (fs : FileSystem F)

/-- Looks at a path. -/
def snapshot (media : MediaType) (path : FilePath) : Target := ⟨path, fs.stat? path, media⟩

/-! ## §2 Files and directories -/

/-- The request target with a slash behind the path. -/
def withSlash (uri : Http.Uri) : String :=
  match uri.query with
  | some query => uri.path ++ "/?" ++ query
  | none => uri.path ++ "/"

/-- The header that tells clients that they may ask for ranges. -/
def acceptRanges : Stream.Field := ("accept-ranges", "bytes")

/-- The refusal of a file that may not be opened. -/
def forbiddenFile (path : FilePath) : Logged (Response F) := do
  note .warning ("Permission denied opening " ++ path)
  let page ← Http.forbidden
  let headers ← Stream.setAll page.headers [acceptRanges]
  return { page with headers := headers }

/-- The answer with content that was prepared; a HEAD request gets none of it. -/
def renderContent (stat : Stat) (request : Request) (content : Logged (Stream.Prepared F)) :
    Logged (Response F) := do
  let prepared ← content
  let own ← Stream.setAll []
    [acceptRanges, ("last-modified", Http.formatDate stat.modified.modifiedSeconds)]
  let body := match prepared.producer with
    | some producer => if request.isHead then .empty else .stream producer
    | none => .empty
  return ⟨prepared.status, own ++ prepared.headers, body⟩

/-- The answer with an open file. -/
def renderOpen (file : F) (stat : Stat) (media : MediaType) (request : Request)
    (boundary : String) : Except Overflow (Logged (Response F)) :=
  let modified := stat.modified.modifiedSeconds
  if Http.isNotModified (request.headers.text? "if-modified-since") modified then
    .ok (Http.notModified (Http.formatDate modified))
  else
    renderContent stat request
      <$> Stream.prepare (request.headers.text? "range") boundary media stat.size file

/-- Whether a request path says that it is one of a directory. -/
def endsWithSlash (path : String) : Bool := path.toList.getLast? == some '/'

/-- The answer with a directory: its listing, or the way to it. -/
def renderDirectory (root : Root) (n : Node) (request : Request) : Logged (Response F) :=
  if endsWithSlash request.uri.path then renderListing fs root n none request
  else Http.redirect (withSlash request.uri)

/-- The answer with a file that was looked at. -/
def renderFile (t : Target) (stat : Stat) (request : Request) (boundary : String) :
    Logged (Except Failure (Response F)) :=
  match fs.openFile t.path with
  | .error .permissionDenied => do
    let page ← forbiddenFile t.path
    return .ok page
  | .error e => pure (.error (.reported (.io t.path e)))
  | .ok file =>
    match renderOpen file stat t.media request boundary with
    | .error _ => pure (.error .overflow)
    | .ok answer => do
      let page ← answer
      return .ok page

/-- The answer with a node, its type being given: not found, a directory, or a file. -/
def renderNode (root : Root) (n : Node) (media : MediaType) (request : Request)
    (boundary : String) : Logged (Except Failure (Response F)) :=
  let t := snapshot fs media n.path
  match t.stat with
  | none => do
    let page ← Http.notFound
    return .ok page
  | some stat =>
    if stat.isDir then do
      let page ← renderDirectory fs root n request
      return .ok page
    else renderFile fs t stat request boundary

/-! ## §3 Stored responses -/

/-- The answer that a file holds. -/
def renderStored (path : FilePath) (request : Request) :
    Logged (Except Failure (Response F)) :=
  match fs.contents path with
  | .error .permissionDenied => do
    note .warning ("Permission denied reading " ++ path)
    let page ← Http.forbidden
    return .ok page
  | .error .notFound => do
    let page ← Http.notFound
    return .ok page
  | .error e => pure (.error (.reported (.io path e)))
  | .ok bytes =>
    match parseStored bytes with
    | .error fault => pure (.error (.reported (.malformedStored path fault)))
    | .ok stored => pure (.ok (stored.render request.isHead))

/-! ## §4 Paths -/

/-- The answer to a request for a path below a root, and the types remembered after it. -/
def servePath (root : Root) (cache : MediaCache) (segments : List String) (request : Request)
    (boundary : String) : Logged (Except Failure (Response F) × MediaCache) := do
  let outcome ← traverse fs root segments
  match outcome with
  | .node n =>
    let (media, cache) := root.mediaForPath cache n.path
    let answer ← renderNode fs root n media request boundary
    return (answer, cache)
  | .listing n =>
    let page ← renderListing fs root n none request
    return (.ok page, cache)
  | .processed .stored n =>
    let answer ← renderStored fs n.path request
    return (answer, cache)
  | .processed .source n =>
    let (media, cache) := root.mediaForPath cache n.path
    let answer ← renderNode fs root n ((Processor.media? .source).getD media) request boundary
    return (answer, cache)
  | .notFound | .insecure =>
    let page ← Http.notFound
    return (.ok page, cache)

end StaticSite.Site
