/-
  MULTIPART LAYOUT: several ranges in one body, laid out before a byte is sent.

  Each range that selects something becomes a part: a separator that announces it, and the slice
  of the resource.  A closing separator without a slice ends the body.  Because the layout is
  computed first, the length of the body is known when the headers are written.  There is no layout
  for a body that is longer than a word says: its length overflows.
-/
import StaticSite.Range.Basic

namespace StaticSite.Range

/-- A stretch of a multipart body: a text, and the slice of the resource that follows it. -/
structure Part where
  separator : String
  offset : UInt64
  size : UInt64
deriving DecidableEq, Repr

/-- The layout of a multipart body. -/
structure Plan where
  boundary : String
  parts : List Part
  contentLength : UInt64
deriving DecidableEq, Repr

/-- The text in front of the slice of a range, given its Content-Range. -/
def separator (boundary contentType contentRange : String) : String :=
  "\r\n--" ++ boundary ++ "\r\nContent-type: " ++ contentType ++ "\r\nContent-range: "
    ++ contentRange ++ "\r\n\r\n"

/-- The text at the end of the body. -/
def closing (boundary : String) : String := "\r\n--" ++ boundary ++ "--\r\n"

/-- The bytes that a part adds to the body. -/
def Part.length (part : Part) : Except Overflow UInt64 :=
  Word.ofNat (part.separator.utf8ByteSize + part.size.toNat)

/-- The part of a spec, if it selects something. -/
def partOf? (total : UInt64) (contentType boundary : String) (spec : Spec) :
    Except Overflow (Option Part) := do
  let range ← spec.resolve total
  if range.isSatisfiable then
    let contentRange ← range.contentRange total
    return some ⟨separator boundary contentType contentRange, range.offset, range.size⟩
  else return none

/-- The parts of the specs that select something, in the order they were requested. -/
def partsOf (total : UInt64) (contentType boundary : String) :
    List Spec → Except Overflow (List Part)
  | [] => .ok []
  | spec :: rest => do
    let found ← partOf? total contentType boundary spec
    let others ← partsOf total contentType boundary rest
    return found.toList ++ others

/-- The bytes of some parts behind so many others. -/
def lengthFrom (length : UInt64) : List Part → Except Overflow UInt64
  | [] => .ok length
  | part :: rest => do
    let own ← part.length
    let length ← Word.sum length own
    lengthFrom length rest

/-- The layout for the specs, or none if no spec selects anything. -/
def Plan.build (specs : List Spec) (total : UInt64) (contentType boundary : String) :
    Except Overflow (Option Plan) := do
  match ← partsOf total contentType boundary specs with
  | [] => return none
  | slices =>
    let parts := slices ++ [⟨closing boundary, 0, 0⟩]
    let length ← lengthFrom 0 parts
    return some ⟨boundary, parts, length⟩

/-- The media type of the body. -/
def Plan.contentType (plan : Plan) : String :=
  "multipart/byteranges; boundary=\"" ++ plan.boundary ++ "\""

end StaticSite.Range
