/-
  RESPONSES: a status, headers, and a body that is empty, at hand, or streamed from a file.
-/
import StaticSite.Http.Header
import StaticSite.Stream.Feed

namespace StaticSite.Http

open StaticSite.Stream

/-- The body of a response. -/
inductive Body (F : Type)
  | empty
  | full (bytes : Text.Bytes)
  | stream (producer : Producer F)

/-- The answer to a request; `F` is the kind of file that a streamed body reads. -/
structure Response (F : Type) where
  status : Nat
  headers : Headers
  body : Body F

variable {F : Type}

/-- The bytes of a body, as far as they come, why they stop if they do, and what is noted. -/
def Body.read [ByteSource F] : Body F → Delivery
  | .empty => ⟨[], none, [], []⟩
  | .full bytes => ⟨[bytes], none, [], []⟩
  | .stream producer => (Feed.ofProducer producer).drain

/-- The same body over another kind of file. -/
def Body.mapFile {G : Type} (f : F → G) : Body F → Body G
  | .empty => .empty
  | .full bytes => .full bytes
  | .stream producer => .stream (producer.mapFile f)

/-- The same response over another kind of file. -/
def Response.mapFile {G : Type} (f : F → G) (r : Response F) : Response G :=
  ⟨r.status, r.headers, r.body.mapFile f⟩

/-- Adds a header whose value is given as text; nothing if the value is not allowed. -/
def Headers.append? (headers : Headers) (field : HeaderName × String) : Option Headers :=
  (HeaderValue.ofString? field.2).map fun value => headers.append field.1 value

/-- A response with the given fields in order; nothing if a value is not allowed. -/
def Response.build? (status : Nat) (fields : List (HeaderName × String)) (body : Body F) :
    Option (Response F) :=
  (fields.foldlM Headers.append? []).map fun headers => ⟨status, headers, body⟩

end StaticSite.Http
