/-
  REQUESTS: a method, a target, and headers.
-/
import StaticSite.Http.Header
import StaticSite.Http.Uri

namespace StaticSite.Http

/-- A request, its body left out. -/
structure Request where
  method : String
  uri : Uri
  headers : Headers

/-- Whether only the headers of the answer are wanted. -/
def Request.isHead (r : Request) : Bool := r.method == "HEAD"

/-- A header field that is still text: its name must be a token, its value allowed. -/
def readField (field : String × String) : Option (HeaderName × HeaderValue) :=
  match headerName? field.1.toList, HeaderValue.ofString? field.2 with
  | some name, some value => some (name, value)
  | _, _ => none

/-- The request with the given parts, if all of them are well-formed. -/
def Request.build? (method target : String) (fields : List (String × String)) : Option Request :=
  if isToken method.toList then
    match Uri.parse? target, fields.mapM readField with
    | some uri, some headers => some ⟨method, uri, headers⟩
    | _, _ => none
  else none

end StaticSite.Http
