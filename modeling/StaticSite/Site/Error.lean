/-
  SERVING ERRORS: failures that a request cannot answer for itself.

  An error is reported: it is noted, and the client is told that there was one.  An overflow is not;
  where a length is no word, the task of the connection ends and nothing is answered.
-/
import StaticSite.Files.Error
import StaticSite.Files.Path
import StaticSite.Site.Stored
import StaticSite.Word

namespace StaticSite.Site

/-- Why serving failed. -/
inductive ServeError
  /-- A file could not be read, for another reason than permissions. -/
  | io (path : FilePath) (e : IoError)
  /-- A file that should hold a stored response does not. -/
  | malformedStored (path : FilePath) (fault : StoredFault)
  /-- An address to listen on that is none. -/
  | address (text : String)
deriving DecidableEq, Repr

/-- The wording of a failure. -/
def ServeError.message : ServeError → String
  | .io path e => "I/O error on " ++ path ++ ": " ++ e.message
  | .malformedStored path fault => "malformed asis file " ++ path ++ ": " ++ fault.message
  | .address text => "invalid address: " ++ text

/-- Why there is no response to send as it stands. -/
inductive Failure
  /-- The client is told that serving failed. -/
  | reported (e : ServeError)
  /-- The client is told nothing. -/
  | overflow
deriving DecidableEq, Repr

end StaticSite.Site
