/-
  FILE TREES: a file system held in memory.

  A tree is a table of nodes; directories name nodes by their places in the table.  A file that is
  removed stays in the table, so a handle to it keeps its content, and a file that is overwritten
  stays the same node, so a handle to it sees the new content.

  Paths are walked as the host does it: each component is looked up in a directory that may be
  entered; a link is replaced by its target, read from the directory that holds it; at most forty
  links are followed.  The walk ends because each step uses up a component or a link.

  Numbered structure:
    §1  nodes
    §2  the walk
    §3  the file system of a tree
    §4  changing a tree
-/
import StaticSite.Files.System

namespace StaticSite.Files

/-! ## §1 Nodes -/

/-- What may be done with a node. -/
inductive Access
  | full
  /-- A directory may be entered but not listed. -/
  | traverse
  /-- A file may not be opened, a directory neither listed nor entered. -/
  | denied
deriving DecidableEq, Repr

/-- The place of a node in the table. -/
abbrev Handle := Nat

/-- A node of a tree. -/
inductive Node
  | directory (access : Access) (entries : List (Text.Bytes × Handle))
  | file (access : Access) (content : Text.Bytes) (modified : Instant)
  | link (target : Text.Bytes)
  | socket
deriving Inhabited

/-- The first and the last second that are kept as a time of change: 34 bits from 1901 on. -/
def firstStored : Int := -0x80000000
def lastStored : Int := 0x37FFFFFFF

/-- A time of change as it is kept: outside the range, and at its ends, it is the nearer end. -/
def storedTime (t : Instant) : Instant :=
  if t.seconds ≤ firstStored then ⟨firstStored, 0⟩
  else if lastStored ≤ t.seconds then ⟨lastStored, 0⟩
  else t

/-- A regular file, changed at a time. -/
def Node.regular (access : Access) (content : Text.Bytes) (modified : Instant) : Node :=
  .file access content (storedTime modified)

/-- A file system in memory; the node in place 0 is the directory that all paths start from. -/
structure Tree where
  nodes : Array Node

/-- A tree with nothing in it. -/
def Tree.empty : Tree := ⟨#[.directory .full []]⟩

/-- The directory that paths start from. -/
def Tree.top : Handle := 0

/-- The node of a handle. -/
def Tree.node (t : Tree) (h : Handle) : Node := t.nodes[h]?.getD .socket

/-- The node that a directory has under a name. -/
def entry? (entries : List (Text.Bytes × Handle)) (name : Text.Bytes) : Option Handle :=
  (entries.find? fun e => e.1 == name).map fun e => e.2

/-! ## §2 The walk -/

/-- The byte between components. -/
def slash : UInt8 := 0x2F

/-- The components of a path. -/
def componentsOf (path : Text.Bytes) : List Text.Bytes :=
  (Text.fields slash path).filter fun c => !c.isEmpty

/-- The components `.` and `..`. -/
def here : Text.Bytes := [0x2E]
def above : Text.Bytes := [0x2E, 0x2E]

/-- The longest component. -/
def longestName : Nat := 255

/-- How many links a walk follows. -/
def linkLimit : Nat := 40

/-- Walks components from a directory to the node they lead to; `chain` holds the directories above
    it, innermost first.  One who is `privileged` may enter every directory. -/
def Tree.walk (t : Tree) (privileged : Bool) (links : Nat) (chain : List Handle) (at_ : Handle) :
    List Text.Bytes → Except IoError Handle
  | [] => .ok at_
  | name :: rest =>
    match t.node at_ with
    | .directory access entries =>
      if access == .denied && !privileged then .error .permissionDenied
      else if name = here then t.walk privileged links chain at_ rest
      else if name = above then
        match chain with
        | parent :: others => t.walk privileged links others parent rest
        | [] => t.walk privileged links [] at_ rest
      else if name.length > longestName then .error .nameTooLong
      else match entry? entries name with
        | none => .error .notFound
        | some next =>
          match t.node next with
          | .link target =>
            match links with
            | 0 => .error .linkLoop
            | links + 1 =>
              let onwards := componentsOf target
                ++ (if rest.isEmpty && target.getLast? == some slash then [here] else []) ++ rest
              if target.head? == some slash then t.walk privileged links [] Tree.top onwards
              else t.walk privileged links chain at_ onwards
          | .directory _ _ => t.walk privileged links (at_ :: chain) next rest
          | _ => if rest.isEmpty then .ok next else .error .notADirectory
    | _ => .error .notADirectory
termination_by components => (links, components.length)

/-- Whether a path says that it leads to a directory. -/
def wantsDirectory (path : Text.Bytes) : Bool := path.getLast? == some slash

/-- The longest path, counted with the byte that ends it. -/
def longestPath : Nat := 4096

/-- The node that a path leads to. -/
def Tree.find (t : Tree) (path : FilePath) : Except IoError Handle :=
  let bytes := Text.utf8 path
  if bytes.contains 0 then .error .nulInName
  else if bytes.isEmpty then .error .notFound
  else if bytes.length ≥ longestPath then .error .nameTooLong
  else match t.walk false linkLimit [] Tree.top (componentsOf bytes) with
    | .error e => .error e
    | .ok found =>
      match t.node found with
      | .directory _ _ => .ok found
      | _ => if wantsDirectory bytes then .error .notADirectory else .ok found

/-! ## §3 The file system of a tree -/

/-- The beginning of 1970. -/
def epoch : Instant := ⟨0, 0⟩

/-- What is known of a node. -/
def Node.stat : Node → Stat
  | .directory _ _ => ⟨.directory, 0, epoch⟩
  | .file _ content modified => ⟨.regular, UInt64.ofNat content.length, modified⟩
  | .link _ => ⟨.other, 0, epoch⟩
  | .socket => ⟨.other, 0, epoch⟩

/-- The bytes of a node, or why it cannot be read. -/
def Node.read : Node → Except IoError Text.Bytes
  | .directory access _ => .error (if access == .full then .isADirectory else .permissionDenied)
  | .file access content _ => if access == .denied then .error .permissionDenied else .ok content
  | .link _ => .error .linkLoop
  | .socket => .error .noDevice

/-- The bytes that a handle gives now. -/
def Tree.content (t : Tree) (h : Handle) : Text.Bytes :=
  match t.node h with
  | .file _ content _ => content
  | _ => []

/-- The file system of a tree; opening a file gives its handle. -/
def Tree.system (t : Tree) : FileSystem Handle where
  stat path := (t.find path).map fun h => (t.node h).stat
  list path := do
    match t.node (← t.find path) with
    | .directory .full entries => .ok (entries.map fun e => e.1)
    | .directory _ _ => .error .permissionDenied
    | _ => .error .notADirectory
  openFile path := do
    let h ← t.find path
    let _ ← (t.node h).read
    return h
  contents path := do (t.node (← t.find path)).read

/-! ## §4 Changing a tree -/

/-- Puts a new node into the table. -/
def Tree.add (t : Tree) (node : Node) : Tree × Handle := (⟨t.nodes.push node⟩, t.nodes.size)

/-- Replaces a node. -/
def Tree.set (t : Tree) (h : Handle) (node : Node) : Tree := ⟨t.nodes.setIfInBounds h node⟩

/-- Names a node in a directory, in place of what had the name. -/
def Tree.bind (t : Tree) (dir : Handle) (name : Text.Bytes) (child : Handle) : Tree :=
  match t.node dir with
  | .directory access entries =>
    t.set dir (.directory access ((entries.filter fun e => e.1 != name) ++ [(name, child)]))
  | _ => t

/-- The node that a name leads to from a directory, links being followed. -/
def Tree.follow (t : Tree) (chain : List Handle) (dir : Handle) (name : Text.Bytes) :
    Option Handle :=
  match t.walk true linkLimit chain dir [name] with
  | .ok found => some found
  | .error _ => none

/-- Lets everybody enter and list a directory. -/
def Tree.unlock (t : Tree) (h : Handle) : Tree :=
  match t.node h with
  | .directory _ entries => t.set h (.directory .full entries)
  | _ => t

/-- The directory of the given components below another one, made where it is missing.  Whoever
    puts something into a directory unlocks it and those above it. -/
def Tree.ensure (t : Tree) (chain : List Handle) (dir : Handle) :
    List Text.Bytes → Tree × List Handle × Handle
  | [] => (t, chain, dir)
  | name :: rest =>
    match t.follow chain dir name with
    | some found => (t.unlock found).ensure (dir :: chain) found rest
    | none =>
      let (t, made) := t.add (.directory .full [])
      (t.bind dir name made).ensure (dir :: chain) made rest

/-- Puts a node at a path, making the directories above it.  A regular file that is there already
    is overwritten in place, and a directory that is there stays as it is. -/
def Tree.put (t : Tree) (path : Text.Bytes) (node : Node) : Tree :=
  let components := componentsOf path
  match components.getLast? with
  | none => t
  | some name =>
    let (t, chain, dir) := t.ensure [] Tree.top components.dropLast
    match t.follow chain dir name, node with
    | some found, .file _ _ _ =>
      match t.node found with
      | .file _ _ _ => t.set found node
      | _ => let (t, made) := t.add node; t.bind dir name made
    | some found, .directory _ _ =>
      match t.node found with
      | .directory _ _ => t
      | _ => let (t, made) := t.add node; t.bind dir name made
    | _, _ => let (t, made) := t.add node; t.bind dir name made

/-- The node at a path, links being followed, whoever may enter the directories above. -/
def Tree.locate (t : Tree) (path : Text.Bytes) : Option Handle :=
  match t.walk true linkLimit [] Tree.top (componentsOf path) with
  | .ok found => some found
  | .error _ => none

/-- Adds bytes to the end of a file; its time of change stays. -/
def Tree.append (t : Tree) (path bytes : Text.Bytes) : Tree :=
  match t.locate path with
  | none => t
  | some found =>
    match t.node found with
    | .file access content modified => t.set found (.file access (content ++ bytes) modified)
    | _ => t

/-- Takes the name at the end of a path away, links not being followed there. -/
def Tree.remove (t : Tree) (path : Text.Bytes) : Tree :=
  let components := componentsOf path
  match components.getLast? with
  | none => t
  | some name =>
    match t.walk true linkLimit [] Tree.top components.dropLast with
    | .error _ => t
    | .ok dir =>
      match t.node dir with
      | .directory access entries =>
        t.set dir (.directory access (entries.filter fun e => e.1 != name))
      | _ => t

end StaticSite.Files
