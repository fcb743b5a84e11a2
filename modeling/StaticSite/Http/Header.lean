/-
  HEADERS: names, values, and their order.

  A header name is a token in lower case.  A header value is a byte string without control
  characters other than the tab; the type carries the proof, so no response can hold a value that
  would break the header block.  Headers keep the order in which they were set, and a name may
  stand several times.
-/
import StaticSite.Text.Utf8

namespace StaticSite.Http

/-! ## Names -/

/-- The punctuation that may stand in a token. -/
def tokenMarks : List Char :=
  ['!', '#', '$', '%', '&', '\x27', '*', '+', '-', '.', '^', '_', '\x60', '|', '~']

/-- The characters of a token. -/
def isTokenChar (c : Char) : Bool := c.isAlphanum || tokenMarks.contains c

/-- Whether a text is a token: not empty, and nothing but token characters. -/
def isToken (s : List Char) : Bool := !s.isEmpty && s.all isTokenChar

/-- The name of a header, in lower case. -/
abbrev HeaderName := String

/-- The longest name a header may have. -/
def longestName : Nat := 65535

/-- A name as it was written, in lower case; nothing if it is no token. -/
def headerName? (s : List Char) : Option HeaderName :=
  if isToken s && s.length ≤ longestName then some (String.ofList (s.map Char.toLower)) else none

/-! ## Values -/

/-- The bytes allowed in a value: no control characters, but the tab. -/
def isValueByte (b : UInt8) : Bool := (32 ≤ b && b != 127) || b == 9

/-- The value of a header. -/
structure HeaderValue where
  bytes : Text.Bytes
  allowed : bytes.all isValueByte = true

/-- The value with the given bytes, if they are allowed. -/
def HeaderValue.ofBytes? (bytes : Text.Bytes) : Option HeaderValue :=
  if h : bytes.all isValueByte = true then some ⟨bytes, h⟩ else none

/-- A value that was made of bytes holds these bytes. -/
theorem HeaderValue.bytes_of_ofBytes? {bytes : Text.Bytes} {v : HeaderValue}
    (h : HeaderValue.ofBytes? bytes = some v) : v.bytes = bytes := by
  unfold HeaderValue.ofBytes? at h
  split at h
  · cases h; rfl
  · cases h

/-- The value with the given text, if it is allowed. -/
def HeaderValue.ofString? (s : String) : Option HeaderValue :=
  HeaderValue.ofBytes? (Text.utf8 s)

/-- The value as text: only if all of it is ASCII. -/
def HeaderValue.text? (v : HeaderValue) : Option String :=
  if v.bytes.all fun b => b < 127 then some (String.ofList (v.bytes.map fun b => Char.ofNat b.toNat))
  else none

/-- The complaint about a value that is not allowed. -/
def badValueMessage : String := "failed to parse header value"

/-- The complaint about a name that is no token. -/
def badNameMessage : String := "invalid HTTP header name"

/-! ## Header lists -/

/-- Headers in the order they were set. -/
abbrev Headers := List (HeaderName × HeaderValue)

namespace Headers

/-- The first value of a name. -/
def get? (hs : Headers) (name : HeaderName) : Option HeaderValue :=
  (hs.find? fun h => h.1 == name).map fun h => h.2

/-- The first value of a name as text; a value that is no text counts as absent. -/
def text? (hs : Headers) (name : HeaderName) : Option String :=
  (hs.get? name).bind HeaderValue.text?

/-- Sets the only value of a name. -/
def insert (hs : Headers) (name : HeaderName) (value : HeaderValue) : Headers :=
  (hs.filter fun h => h.1 != name) ++ [(name, value)]

/-- Adds a value of a name to those it has. -/
def append (hs : Headers) (name : HeaderName) (value : HeaderValue) : Headers :=
  hs ++ [(name, value)]

theorem get?_insert_self (hs : Headers) (name : HeaderName) (value : HeaderValue) :
    (hs.insert name value).get? name = some value := by
  have h : (hs.filter fun h => h.1 != name).find? (fun h => h.1 == name) = none := by
    simp [List.find?_eq_none]
  simp [get?, insert, List.find?_append, h]

theorem get?_insert_ne (hs : Headers) {name other : HeaderName} (value : HeaderValue)
    (h : other ≠ name) : (hs.insert name value).get? other = hs.get? other := by
  have hne : (name == other) = false := by simp [Ne.symm h]
  have hkeep : (hs.filter fun h => h.1 != name).find? (fun h => h.1 == other)
      = hs.find? fun h => h.1 == other := by
    induction hs with
    | nil => rfl
    | cons first rest ih =>
      by_cases hf : first.1 = name
      · simp [hf, Ne.symm h, ih]
      · by_cases ho : first.1 = other <;> simp [hf, ho, ih, h]
  simp [get?, insert, List.find?_append, hkeep, hne]

end Headers

end StaticSite.Http
