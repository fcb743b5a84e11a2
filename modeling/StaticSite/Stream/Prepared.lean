/-
  PREPARED CONTENT: status, content headers and body for what a request wants of a file.

  Without a Range header, or with one that cannot be read, the whole file is sent.  One range
  gives that slice; several give a multipart body with a part for each that selects something.
  When nothing is selected the answer says how long the file is, and no producer is made: the file
  is closed at once.  When the length of a multipart body is no word there is no answer at all.
-/
import StaticSite.Http.Header
import StaticSite.Log.Note
import StaticSite.Media.Basic
import StaticSite.Range.Header
import StaticSite.Stream.Producer

namespace StaticSite.Stream

/-- Status, content headers and, unless nothing is sent, the producer of the body. -/
structure Prepared (F : Type) where
  status : Nat
  headers : Http.Headers
  producer : Option (Producer F)

variable {F : Type}

/-- A header that is still a text. -/
abbrev Field := Http.HeaderName × String

/-- Sets headers in turn; a value that is not allowed is dropped with a warning. -/
def setAll (headers : Http.Headers) : List Field → Logged Http.Headers
  | [] => pure headers
  | (name, text) :: rest =>
    match Http.HeaderValue.ofString? text with
    | some value => setAll (headers.insert name value) rest
    | none => do
      note .warning ("Dropping invalid " ++ name ++ " header value: " ++ Http.badValueMessage)
      setAll headers rest

/-- A length as a header says it. -/
def lengthField (size : UInt64) : Field := ("content-length", toString size.toNat)

/-- Length, type and, if there is one, encoding of what is sent. -/
def contentFields (media : MediaType) (size : UInt64) : List Field :=
  [lengthField size, ("content-type", media.contentType)]
    ++ media.encoding.toList.map fun encoding => ("content-encoding", encoding)

/-- Content with the given fields. -/
def Prepared.make (status : Nat) (fields : List Field) (producer : Option (Producer F)) :
    Logged (Prepared F) := do
  let headers ← setAll [] fields
  return ⟨status, headers, producer⟩

/-- The whole file. -/
def prepareWhole (media : MediaType) (total : UInt64) (file : F) : Logged (Prepared F) :=
  Prepared.make 200 (contentFields media total) (some (.whole file total))

/-- One slice of the file. -/
def prepareSingle (spec : Range.Spec) (media : MediaType) (total : UInt64) (file : F) :
    Except Overflow (Logged (Prepared F)) := do
  let range ← spec.resolve total
  if range.isSatisfiable then
    let contentRange ← range.contentRange total
    return Prepared.make 206 (("content-range", contentRange) :: contentFields media range.size)
      (some (.single file range.offset range.size))
  else
    return Prepared.make 416
      (("content-range", Range.unsatisfiedContentRange total) :: contentFields media 0) none

/-- Several slices, in a multipart body. -/
def prepareMultiple (specs : List Range.Spec) (boundary : String) (media : MediaType)
    (total : UInt64) (file : F) : Except Overflow (Logged (Prepared F)) := do
  match ← Range.Plan.build specs total media.contentType boundary with
  | some plan =>
    return Prepared.make 206
      [("content-type", plan.contentType), lengthField plan.contentLength]
      (some (.multiple file plan.parts))
  | none =>
    return Prepared.make 416
      [lengthField 0, ("content-range", Range.unsatisfiedContentRange total)] none

/-- What a request with the given Range header gets of a file of `total` bytes; `boundary` divides
    the parts of a multipart body.  Where a length overflows, nothing is prepared or noted. -/
def prepare (rangeHeader : Option String) (boundary : String) (media : MediaType) (total : UInt64)
    (file : F) : Except Overflow (Logged (Prepared F)) :=
  match rangeHeader with
  | none => .ok (prepareWhole media total file)
  | some header =>
    match Range.parseHeader header with
    | .error e => .ok do
      note .debug ("Ignoring malformed Range header " ++ Text.quoted header ++ ": " ++ e.message)
      prepareWhole media total file
    | .ok [spec] => prepareSingle spec media total file
    | .ok specs => prepareMultiple specs boundary media total file

end StaticSite.Stream
