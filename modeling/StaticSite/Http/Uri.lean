/-
  REQUEST TARGETS: what a request asks for.

  A target is a path with an optional query, an absolute URI, a bare authority, or an asterisk.
  Of an absolute URI only path and query are kept; a fragment is dropped.  Nothing is decoded here:
  escapes stay as they were sent, and characters outside ASCII are taken as they are; control
  characters are refused.
-/
import StaticSite.Text.Split
import StaticSite.Text.Utf8

namespace StaticSite.Http

/-- The path and the query of a request target.  A bare authority has an empty path. -/
structure Uri where
  path : String
  query : Option String
deriving DecidableEq, Repr

/-- Path and query as they were sent. -/
def Uri.text (uri : Uri) : String :=
  match uri.query with
  | some query => uri.path ++ "?" ++ query
  | none => uri.path

namespace Uri

/-! ## Characters -/

/-- Whether a code point lies in one of the ranges. -/
def within (ranges : List (Nat × Nat)) (c : Char) : Bool :=
  ranges.any fun r => r.1 ≤ c.toNat && c.toNat ≤ r.2

/-- The characters of a path. -/
def isPathChar (c : Char) : Bool :=
  within [(0x21, 0x22), (0x24, 0x3B), (0x3D, 0x3D), (0x40, 0x5F), (0x61, 0x7E)] c || 0x80 ≤ c.toNat

/-- The characters of a query. -/
def isQueryChar (c : Char) : Bool :=
  within [(0x21, 0x21), (0x24, 0x3B), (0x3D, 0x3D), (0x3F, 0x7E)] c || 0x80 ≤ c.toNat

/-- The characters of a scheme. -/
def isSchemeChar (c : Char) : Bool :=
  c.isAlphanum || c == '+' || c == '-' || c == '.' || c == '~'

/-- The punctuation that may stand in an authority beside letters and digits. -/
def authorityMarks : List Char :=
  ['!', '$', '&', '\x27', '(', ')', '*', '+', ',', '-', '.', ':', ';', '=', '@', '[', ']', '_', '~']

/-! ## Path and query -/

/-- Reads path, query and fragment; an empty path stands for the root. -/
def readPath (s : List Char) : Option Uri :=
  let s := (s.takeWhile (· != '#'))
  let (path, query) := match Text.cut? '?' s with
    | some (path, query) => (path, some query)
    | none => (s, none)
  if path.all isPathChar && (query.getD []).all isQueryChar then
    some ⟨if path.isEmpty then "/" else String.ofList path, query.map String.ofList⟩
  else none

/-! ## Authority -/

/-- What has been seen of an authority. -/
structure Seen where
  colons : Nat
  opened : Bool
  closed : Bool
  percent : Bool
  /-- Whether the character before was an `@`. -/
  afterAt : Bool

/-- The most colons before a bracket closes. -/
def mostColons : Nat := 8

/-- Takes note of a character of an authority, or refuses it.  Colons and escapes count only
    outside the user part and outside brackets. -/
def Seen.step (seen : Seen) (c : Char) : Option Seen :=
  let seen : Seen := { seen with afterAt := c == '@' }
  if c == ':' then
    if seen.colons ≥ mostColons then none else some { seen with colons := seen.colons + 1 }
  else if c == '[' then
    if seen.percent || seen.opened then none else some { seen with opened := true }
  else if c == ']' then
    if !seen.opened || seen.closed then none
    else some { seen with closed := true, colons := 0, percent := false }
  else if c == '@' then some { seen with colons := 0, percent := false }
  else if c == '%' then some { seen with percent := true }
  else if c.isAlphanum || authorityMarks.contains c then some seen
  else none

/-- Whether what was seen is an authority. -/
def Seen.isComplete (seen : Seen) : Bool :=
  seen.opened == seen.closed && seen.colons ≤ 1 && !seen.afterAt && !seen.percent

/-- The characters that end an authority. -/
def endsAuthority (c : Char) : Bool := c == '/' || c == '?' || c == '#'

/-- Reads an authority, possibly empty: what follows it. -/
def readAuthority (s : List Char) : Option (List Char) :=
  let authority := s.takeWhile fun c => !endsAuthority c
  match authority.foldlM Seen.step ⟨0, false, false, false, false⟩ with
  | some seen => if seen.isComplete then some (s.drop authority.length) else none
  | none => none

/-! ## Whole targets -/

/-- The longest scheme. -/
def longestScheme : Nat := 64

/-- Whether there is a scheme, and what follows it; a refusal if it is too long. -/
def readScheme (s : List Char) : Option (Bool × List Char) :=
  let scheme := s.takeWhile isSchemeChar
  match s.drop scheme.length with
  | ':' :: '/' :: '/' :: rest => if scheme.length ≤ longestScheme then some (true, rest) else none
  | _ => some (false, s)

/-- The longest target, in bytes. -/
def longestTarget : Nat := 65534

/-- Reads a target that does not begin with a slash. -/
def readFull (s : List Char) : Option Uri :=
  match readScheme s with
  | none => none
  | some (absolute, rest) =>
    match readAuthority rest with
    | none => none
    | some after =>
      if absolute then if after.length = rest.length then none else readPath after
      else if after.isEmpty then some ⟨"", none⟩ else none

/-- The request target that a text denotes. -/
def parse? (text : String) : Option Uri :=
  match text.toList with
  | [] => none
  | ['*'] => some ⟨"*", none⟩
  | '/' :: rest => if text.utf8ByteSize > longestTarget then none else readPath ('/' :: rest)
  | s => if text.utf8ByteSize > longestTarget then none else readFull s

end Uri

end StaticSite.Http
