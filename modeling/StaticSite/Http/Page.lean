/-
  PAGES: the answers that carry no file.

  Refusals, redirects, the answer to OPTIONS, the note that nothing has changed, pages of HTML and
  fixed data.  Where a part of such an answer is not allowed in a header, the bare status is
  answered instead, and the failure is noted.
-/
import StaticSite.Http.Response
import StaticSite.Log.Note

namespace StaticSite.Http

variable {F : Type}

/-- The methods that are served. -/
def allowedMethods : String := "GET, HEAD, OPTIONS"

/-- A response with the given fields, or the bare status and a note. -/
def buildOr (what : String) (status : Nat) (fields : List (HeaderName × String)) (body : Body F) :
    Logged (Response F) :=
  match Response.build? status fields body with
  | some response => pure response
  | none => do
    note .error ("Failed to build " ++ what ++ " response: " ++ badValueMessage)
    return ⟨status, [], .empty⟩

/-- A length as a header says it. -/
def lengthText (bytes : Text.Bytes) : String := toString bytes.length

/-- A page of plain text. -/
def textPage (status : Nat) (text : String) (further : List (HeaderName × String)) :
    Logged (Response F) :=
  buildOr (toString status) status
    ([("content-type", "text/plain"), ("content-length", lengthText (Text.utf8 text))] ++ further)
    (.full (Text.utf8 text))

/-- Nothing has changed since the date that the client named. -/
def notModified (lastModified : String) : Logged (Response F) :=
  buildOr "304" 304 [("last-modified", lastModified), ("accept-ranges", "bytes")] .empty

/-- The resource may not be read. -/
def forbidden : Logged (Response F) := textPage 403 "403 Forbidden" []

/-- There is no such resource. -/
def notFound : Logged (Response F) := textPage 404 "404 Not Found" []

/-- The method is not served. -/
def methodNotAllowed : Logged (Response F) :=
  textPage 405 "405 Method Not Allowed" [("allow", allowedMethods)]

/-- Serving failed. -/
def internalError : Logged (Response F) := textPage 500 "500 Internal Server Error" []

/-- The methods that are served, and nothing else. -/
def options : Logged (Response F) := buildOr "OPTIONS" 204 [("allow", allowedMethods)] .empty

/-- The resource is found elsewhere. -/
def redirect (target : String) : Logged (Response F) :=
  buildOr "302" 302 [("location", target), ("content-length", "0")] .empty

/-- Bytes at hand; a HEAD request gets their length only. -/
def dataPage (what contentType : String) (bytes : Text.Bytes) (isHead : Bool) :
    Logged (Response F) :=
  buildOr what 200 [("content-type", contentType), ("content-length", lengthText bytes)]
    (if isHead then .empty else .full bytes)

/-- A page of HTML. -/
def htmlPage (content : String) (isHead : Bool) : Logged (Response F) :=
  dataPage "HTML" "text/html; charset=utf-8" (Text.utf8 content) isHead

/-- A fixed resource of the site. -/
structure FixedData where
  contentType : String
  bytes : Text.Bytes

/-- The answer with a fixed resource. -/
def FixedData.render (d : FixedData) (isHead : Bool) : Logged (Response F) :=
  dataPage "data" d.contentType d.bytes isHead

end StaticSite.Http
