/-
  RESOLUTION: from the segments of a request path to a file.

  The walk goes down from a root one segment at a time.  A segment that could leave its directory
  is refused before anything is looked up.  The empty segment, which a slash at the end leaves,
  asks for an index file and else for a listing.  Any other segment is looked up under its own
  name first and then with the ignored extensions, in their order; of the siblings that `*`
  matches, the first name wins.  A file with a registered extension goes to its processor.

  Only the last segment may give a listing or a processor; what is found before must be a
  directory, or the next segment finds nothing.

  Numbered structure:
    §1  nodes and outcomes
    §2  candidates: index files and siblings
    §3  `resolveSegment` and `traverse`
-/
import StaticSite.Files.System
import StaticSite.Log.Note
import StaticSite.Site.Root
import StaticSite.Text.Quoted

namespace StaticSite.Site

/-! ## §1 Nodes and outcomes -/

/-- A path that was found to exist. -/
structure Node where
  path : FilePath
  isDir : Bool
deriving DecidableEq, Repr

/-- What a segment, or a whole path, leads to. -/
inductive Resolution
  /-- A file or a directory. -/
  | node (n : Node)
  /-- A directory asked for with a slash at the end, without an index file. -/
  | listing (n : Node)
  /-- A file for a processor. -/
  | processed (processor : Processor) (n : Node)
  | notFound
  /-- The segment tried to leave its directory. -/
  | insecure
deriving DecidableEq, Repr

/-- The node of an outcome, if it has one. -/
def Resolution.node? : Resolution → Option Node
  | .node n => some n
  | .listing n => some n
  | .processed _ n => some n
  | .notFound => none
  | .insecure => none

/-- Whether a segment must never be joined to a directory. -/
def isInsecure (segment : String) : Bool := segment == ".." || segment.toList.contains '/'

variable {F : Type} (fs : FileSystem F) (root : Root)

/-- The node of the root directory. -/
def rootNode : Node := ⟨root.path, ((fs.stat? root.path).map Stat.isDir).getD false⟩

/-- The node below a directory under a name, if it exists. -/
def child? (dir : Node) (name : String) : Option Node :=
  let path := dir.path.join name
  (fs.stat? path).map fun s => ⟨path, s.isDir⟩

/-! ## §2 Candidates -/

/-- The regular file below a directory under a name, if there is one. -/
def indexFile? (dir : Node) (name : String) : Option Node :=
  let path := dir.path.join name
  match fs.stat? path with
  | some s => if s.isFile then some ⟨path, s.isDir⟩ else none
  | none => none

/-- The first index file of a directory. -/
def findIndex? (dir : Node) : Option Node := root.indexNames.findSome? (indexFile? fs dir)

/-- The ignored extension that stands for all. -/
def anyExtension : String := "*"

/-- The first sibling whose name is the segment, a dot and more. -/
def wildcardSibling? (dir : Node) (segment : String) : Option Node :=
  match fs.sortedNames dir.path with
  | .error _ => none
  | .ok names =>
    (names.filter fun name => (segment ++ ".").toList.isPrefixOf name.toList).findSome?
      (child? fs dir)

/-- The sibling that one ignored extension gives.  The empty extension gives none: it would be the
    name that was looked up already. -/
def sibling? (dir : Node) (segment ext : String) : Option Node :=
  if ext = "" then none
  else if ext = anyExtension then wildcardSibling? fs dir segment
  else child? fs dir (segment ++ ext)

/-- The sibling of the first ignored extension that gives one. -/
def findSibling? (dir : Node) (segment : String) : Option Node :=
  root.ignoredExts.findSome? (sibling? fs dir segment)

/-! ## §3 Segments and paths -/

/-- A node that was found, or the processor that its name has. -/
def dispatch (n : Node) : Resolution :=
  match root.processors.lookup n.path.fileName with
  | some processor => .processed processor n
  | none => .node n

/-- What a segment leads to from a node; only directories have anything below them. -/
def resolveSegment (dir : Node) (segment : String) : Resolution :=
  if !dir.isDir then .notFound
  else if isInsecure segment then .insecure
  else if segment = "" then
    match findIndex? fs root dir with
    | some n => dispatch root n
    | none => .listing dir
  else match child? fs dir segment with
    | some n => dispatch root n
    | none =>
      match findSibling? fs root dir segment with
      | some n => dispatch root n
      | none => .notFound

/-- The warning about a segment that tried to leave its directory. -/
def blocked (segment : String) : Logged Resolution := do
  note .warning ("Blocked path traversal segment " ++ Text.quoted segment)
  return .insecure

/-- What segments lead to from a node. -/
def traverseFrom (n : Node) : List String → Logged Resolution
  | [] => pure (.node n)
  | [last] =>
    match resolveSegment fs root n last with
    | .insecure => blocked last
    | outcome => pure outcome
  | segment :: rest =>
    match resolveSegment fs root n segment with
    | .node next => traverseFrom next rest
    | .insecure => blocked segment
    | _ => pure .notFound

/-- What the segments of a request path lead to; no segments mean the root itself. -/
def traverse (segments : List String) : Logged Resolution :=
  traverseFrom fs root (rootNode fs root) segments

end StaticSite.Site
