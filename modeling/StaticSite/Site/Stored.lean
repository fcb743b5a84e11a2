/-
  STORED RESPONSES: files that hold a whole answer.

  Such a file begins with a status line, `HTTP/1.1 200 OK` or `Status: 200`; header lines follow,
  then a blank line, and all the rest is the body.  Lines end with a line feed, before which a
  carriage return may stand; the blank line that ends the head is the first of its kind, CR LF CR
  LF or LF LF.

  Numbered structure:
    §1  faults
    §2  head and body
    §3  lines
    §4  status line and header lines
-/
import StaticSite.Decimal
import StaticSite.Http.Response
import StaticSite.Text.Blank
import StaticSite.Text.Quoted
import StaticSite.Text.Split

namespace StaticSite.Site

/-! ## §1 Faults -/

/-- Why a file is no stored response. -/
inductive StoredFault
  | noBlankLine
  | notText (e : Text.Utf8Error)
  | badStatusLine (line : String)
  | noColon (line : String)
  | badName (name : String)
  | badValue (name : Http.HeaderName)
deriving DecidableEq, Repr

/-- The wording of a fault. -/
def StoredFault.message : StoredFault → String
  | .noBlankLine => "missing blank line after headers"
  | .notText e => "headers are not UTF-8: " ++ e.message
  | .badStatusLine line => "bad status line: " ++ Text.quoted line
  | .noColon line => "header line without colon: " ++ Text.quoted line
  | .badName name => "bad header name " ++ Text.quoted name ++ ": " ++ Http.badNameMessage
  | .badValue name => "bad value for " ++ name ++ ": " ++ Http.badValueMessage

/-- A whole answer, read from a file. -/
structure StoredResponse where
  status : Nat
  headers : Http.Headers
  body : Text.Bytes

/-! ## §2 Head and body -/

/-- Cuts at the first blank line; `before` holds the bytes walked over, last one first. -/
def splitHeadFrom (before : Text.Bytes) : Text.Bytes → Option (Text.Bytes × Text.Bytes)
  | 13 :: 10 :: 13 :: 10 :: rest => some (before.reverse, rest)
  | 10 :: 10 :: rest => some (before.reverse, rest)
  | b :: rest => splitHeadFrom (b :: before) rest
  | [] => none

/-- The bytes before the first blank line, and those behind it. -/
def splitHead (bytes : Text.Bytes) : Option (Text.Bytes × Text.Bytes) := splitHeadFrom [] bytes

/-! ## §3 Lines -/

/-- A line without the carriage return at its end. -/
def dropReturn (line : List Char) : List Char :=
  match line.getLast? with
  | some '\r' => line.dropLast
  | _ => line

/-- The lines of pieces between line feeds; behind the last piece no line feed stands, so it is
    taken as it is, and left out if it is empty. -/
def linesOfPieces : List (List Char) → List (List Char)
  | [] => []
  | [last] => if last.isEmpty then [] else [last]
  | piece :: rest => dropReturn piece :: linesOfPieces rest

/-- The lines of a text. -/
def linesOf (text : List Char) : List (List Char) := linesOfPieces (Text.fields '\n' text)

/-! ## §4 Status line and header lines -/

/-- A decimal number below 2^16, which may have a plus sign. -/
def readCode (word : List Char) : Option Nat :=
  let digits := match word with
    | '+' :: rest => rest
    | rest => rest
  if !digits.isEmpty && digits.all Char.isDigit && natOfDigits digits < UInt16.size then
    some (natOfDigits digits)
  else none

/-- The word of a status line that gives the status. -/
def statusWord (line : List Char) : Option (List Char) :=
  match Text.dropStart? "Status:".toList line with
  | some rest => (Text.words rest)[0]?
  | none => if "HTTP/".toList.isPrefixOf line then (Text.words line)[1]? else none

/-- The status that a line gives: three digits, not below 100. -/
def readStatus (line : List Char) : Except StoredFault Nat :=
  match (statusWord line).bind readCode with
  | some code =>
    if 100 ≤ code ∧ code ≤ 999 then .ok code else .error (.badStatusLine (String.ofList line))
  | none => .error (.badStatusLine (String.ofList line))

/-- A header line: a name and a value around the first colon, blanks at their ends ignored. -/
def readHeader (line : List Char) : Except StoredFault (Http.HeaderName × Http.HeaderValue) :=
  match Text.cut? ':' line with
  | none => .error (.noColon (String.ofList line))
  | some (name, value) =>
    match Http.headerName? (Text.trim name) with
    | none => .error (.badName (String.ofList name))
    | some token =>
      match Http.HeaderValue.ofBytes? (Text.encode (Text.trim value)) with
      | none => .error (.badValue token)
      | some value => .ok (token, value)

/-- The headers of a response, from its lines; lines with nothing but blanks are skipped. -/
def readHeaders (lines : List (List Char)) : Except StoredFault Http.Headers :=
  (lines.filter fun line => !(Text.trim line).isEmpty).mapM readHeader

/-- Reads a stored response. -/
def parseStored (bytes : Text.Bytes) : Except StoredFault StoredResponse :=
  match splitHead bytes with
  | none => .error .noBlankLine
  | some (head, body) =>
    match Text.decode head with
    | .error e => .error (.notText e)
    | .ok text =>
      let lines := linesOf text
      match readStatus (lines.head?.getD []), readHeaders lines.tail with
      | .error e, _ => .error e
      | .ok _, .error e => .error e
      | .ok status, .ok headers => .ok ⟨status, headers, body⟩

/-- The answer that a stored response is; a HEAD request gets its headers only. -/
def StoredResponse.render {F : Type} (r : StoredResponse) (isHead : Bool) : Http.Response F :=
  ⟨r.status, r.headers, if isHead then .empty else .full r.body⟩

end StaticSite.Site
