/-
  ACCESS LOG: a line for each request.

  The common format has the client, the time, the request line, the status and the length of the
  body; the combined format adds where the request came from, what made it, and how long the
  answer took.  What is not known is a hyphen.
-/
import StaticSite.Calendar
import StaticSite.Decimal
import StaticSite.Config.Basic
import StaticSite.Http.Request
import StaticSite.Http.Response

namespace StaticSite.Log

/-- What is logged of a request. -/
structure AccessEntry where
  remote : String
  /-- Seconds since 1970. -/
  time : Int
  method : String
  path : String
  query : Option String
  version : String
  status : Nat
  /-- The length of the body, as far as it was declared. -/
  bodyBytes : Option UInt64
  referer : Option String
  userAgent : Option String
  microseconds : UInt64
deriving DecidableEq, Repr

/-- The time of an entry, such as `06/Nov/1994:08:49:37 +0000`. -/
def timeText (time : Int) : String :=
  let m := Moment.ofSeconds time
  String.ofList (padded 2 m.date.day ++ '/' :: shortMonthName m.date.month ++ '/' ::
    yearText m.date.year ++ ':' :: m.clockText ++ " +0000".toList)

/-- The request line of an entry. -/
def AccessEntry.requestLine (e : AccessEntry) : String :=
  let query := match e.query with
    | some q => "?" ++ q
    | none => ""
  e.method ++ " " ++ e.path ++ query ++ " HTTP/" ++ e.version

/-- The entry in the common format. -/
def AccessEntry.common (e : AccessEntry) : String :=
  let bytes := match e.bodyBytes with
    | some n => toString n.toNat
    | none => "-"
  e.remote ++ " - - [" ++ timeText e.time ++ "] \"" ++ e.requestLine ++ "\" " ++ toString e.status
    ++ " " ++ bytes

/-- The entry in the combined format. -/
def AccessEntry.combined (e : AccessEntry) : String :=
  e.common ++ " \"" ++ e.referer.getD "-" ++ "\" \"" ++ e.userAgent.getD "-" ++ "\" "
    ++ toString e.microseconds.toNat ++ "us"

/-- The entry as it is written. -/
def AccessEntry.line (e : AccessEntry) : Config.AccessFormat → String
  | .combined => e.combined
  | .common => e.common

/-- The versions of the protocol. -/
inductive Version
  | http09
  | http10
  | http11
  | http2
  | http3
deriving DecidableEq, Repr

/-- A version as the request line names it. -/
def Version.label : Version → String
  | .http09 => "0.9"
  | .http10 => "1.0"
  | .http11 => "1.1"
  | .http2 => "2"
  | .http3 => "3"

/-- The number that a header declares: digits, with a plus sign if it has one, below 2^64. -/
def declaredLength? (text : String) : Option UInt64 :=
  let ds := match text.toList with
    | '+' :: ds => ds
    | ds => ds
  if !ds.isEmpty && ds.all Char.isDigit && natOfDigits ds < UInt64.size then
    some (UInt64.ofNat (natOfDigits ds))
  else none

/-- The entry of a request and its response. -/
def accessEntry {F : Type} (request : Http.Request) (version : Version)
    (response : Http.Response F) (peer : String) (time : Int) (microseconds : UInt64) :
    AccessEntry where
  remote := peer
  time := time
  method := request.method
  path := request.uri.path
  query := request.uri.query
  version := version.label
  status := response.status
  bodyBytes := (response.headers.text? "content-length").bind declaredLength?
  referer := request.headers.text? "referer"
  userAgent := request.headers.text? "user-agent"
  microseconds := microseconds

end StaticSite.Log
