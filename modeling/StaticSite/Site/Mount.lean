/-
  MOUNTS: which root a request path belongs to.

  A mount is a path without a slash at its end, empty for the whole site.  It covers a request
  path that is equal to it or goes on with a slash.  The mounts of a site stand in the order of
  their length, the longest first, and among equally long ones as they were configured; so the
  first that covers a path is the longest that does.
-/
import StaticSite.Config.Basic
import StaticSite.Http.Page

namespace StaticSite

namespace Site

/-- A root and the request paths that lead to it. -/
structure Mount where
  /-- The path, without a slash at its end. -/
  at_ : String
  root : Root

/-- A path with one slash in front and none behind, or nothing if it is all slashes. -/
def normalizeMount (path : String) : String :=
  let isSlash (c : Char) : Bool := c == '/'
  match ((path.toList.dropWhile isSlash).reverse.dropWhile isSlash).reverse with
  | [] => ""
  | trimmed => String.ofList ('/' :: trimmed)

/-- The part of a request path below a mount, if the mount covers it. -/
def Mount.strip? (m : Mount) (path : String) : Option String :=
  match Text.dropStart? m.at_.toList path.toList with
  | some [] => some ""
  | some ('/' :: rest) => some (String.ofList ('/' :: rest))
  | _ => none

/-- The mount and the path below it are the request path. -/
theorem Mount.append_of_strip? {m : Mount} {path below : String} (h : m.strip? path = some below) :
    m.at_ ++ below = path := by
  unfold Mount.strip? at h
  split at h
  · next heq =>
    cases h
    apply String.toList_inj.1
    simp [Text.dropStart?_eq_some_iff.1 heq]
  · next heq =>
    cases h
    apply String.toList_inj.1
    simp [Text.dropStart?_eq_some_iff.1 heq]
  · cases h

/-- The mount of a section of the configuration. -/
def Mount.ofConfig (m : Config.Mount) : Mount := ⟨normalizeMount m.at_, m.toRoot⟩

/-- Mounts in the order in which they are tried. -/
def orderMounts (mounts : List Mount) : List Mount :=
  mounts.mergeSort fun a b => b.at_.utf8ByteSize ≤ a.at_.utf8ByteSize

end Site

/-- A site: what is served, and how. -/
structure Site where
  config : Config
  mounts : List Site.Mount
  data : Dict Http.FixedData

namespace Site

/-- The fixed answer of a section of the configuration. -/
def fixedData (d : Config.Data) : String × Http.FixedData := (d.path, ⟨d.contentType, Text.utf8 d.body⟩)

/-- The site of a configuration; of two fixed answers to one path the later stays. -/
def ofConfig (config : Config) : Site where
  config := config
  mounts := orderMounts (config.mounts.map Mount.ofConfig)
  data := Dict.ofList (config.data.map fixedData)

/-- The first of some mounts that covers a path: its place, itself, and the path below it. -/
def findMountFrom (place : Nat) (path : String) : List Mount → Option (Nat × Mount × String)
  | [] => none
  | m :: rest =>
    match m.strip? path with
    | some below => some (place, m, below)
    | none => findMountFrom (place + 1) path rest

/-- The mount that covers a path. -/
def findMount (site : Site) (path : String) : Option (Nat × Mount × String) :=
  findMountFrom 0 path site.mounts

end Site

end StaticSite
