/-
  JSON: the reader of JSON documents.

  `readJson` takes a whole text to a value, or to nothing if the text is no JSON document.  At most
  127 arrays and objects may stand inside one another.  Of two members with one name the later
  counts, and members are kept in the order of their names.

  The three readers that call each other spend one unit of fuel a call.  A call is preceded by a
  character read since the last one but one, so twice the length of the text is enough.
-/
import StaticSite.Config.Json.Numbers
import StaticSite.Text.Digit

namespace StaticSite.Config.Json

/-- The four characters allowed between tokens. -/
def isSpace (c : Char) : Bool := c == ' ' || c == '\t' || c == '\n' || c == '\r'

/-- Drops the space in front. -/
def skipSpace (s : List Char) : List Char := s.dropWhile isSpace

/-! ## Strings -/

/-- The value of four hexadecimal digits. -/
def hex4? (a b c d : Char) : Option Nat := do
  return (((← Text.digit? 16 a) * 16 + (← Text.digit? 16 b)) * 16 + (← Text.digit? 16 c)) * 16
    + (← Text.digit? 16 d)

/-- The character that a letter after a backslash stands for. -/
def escaped? : Char → Option Char
  | '"' => some '"'
  | '\\' => some '\\'
  | '/' => some '/'
  | 'b' => some '\x08'
  | 'f' => some '\x0c'
  | 'n' => some '\n'
  | 'r' => some '\r'
  | 't' => some '\t'
  | _ => none

/-- Reads a string behind its opening quote; `done` holds what was read, last character first.
    Code points above U+FFFF are written as two escapes, and half of such a pair is refused. -/
def readString (done : List Char) : List Char → Option (String × List Char)
  | '"' :: rest => some (String.ofList done.reverse, rest)
  | '\\' :: 'u' :: a :: b :: c :: d :: '\\' :: 'u' :: e :: f :: g :: h :: rest =>
    match hex4? a b c d with
    | none => none
    | some n =>
      if 0xD800 ≤ n ∧ n < 0xDC00 then
        match hex4? e f g h with
        | some m =>
          if 0xDC00 ≤ m ∧ m < 0xE000 then
            readString (Char.ofNat (0x10000 + (n - 0xD800) * 0x400 + (m - 0xDC00)) :: done) rest
          else none
        | none => none
      else if 0xDC00 ≤ n ∧ n < 0xE000 then none
      else readString (Char.ofNat n :: done) ('\\' :: 'u' :: e :: f :: g :: h :: rest)
  | '\\' :: 'u' :: a :: b :: c :: d :: rest =>
    match hex4? a b c d with
    | none => none
    | some n => if 0xD800 ≤ n ∧ n < 0xE000 then none else readString (Char.ofNat n :: done) rest
  | '\\' :: c :: rest =>
    match escaped? c with
    | some x => readString (x :: done) rest
    | none => none
  | c :: rest => if c == '\\' || c.toNat < 0x20 then none else readString (c :: done) rest
  | [] => none

/-! ## Values -/

mutual

/-- Reads a value; `depth` arrays and objects may still be opened. -/
def readValue : Nat → Nat → List Char → Option (Value × List Char)
  | 0, _, _ => none
  | fuel + 1, depth, s =>
    match skipSpace s with
    | '\x7b' :: rest =>
      if depth ≤ 1 then none
      else match skipSpace rest with
        | '\x7d' :: rest => some (.table [], rest)
        | rest => readMembers fuel (depth - 1) [] rest
    | '[' :: rest =>
      if depth ≤ 1 then none
      else match skipSpace rest with
        | ']' :: rest => some (.array [], rest)
        | rest => readItems fuel (depth - 1) [] rest
    | '"' :: rest => (readString [] rest).map fun p => (.string p.1, p.2)
    | 't' :: 'r' :: 'u' :: 'e' :: rest => some (.bool true, rest)
    | 'f' :: 'a' :: 'l' :: 's' :: 'e' :: rest => some (.bool false, rest)
    | 'n' :: 'u' :: 'l' :: 'l' :: rest => some (.null, rest)
    | rest => readNumber rest

/-- Reads the items of an array up to its end; `done` holds the items read, last one first. -/
def readItems : Nat → Nat → List Value → List Char → Option (Value × List Char)
  | 0, _, _, _ => none
  | fuel + 1, depth, done, s =>
    match readValue fuel depth s with
    | none => none
    | some (item, rest) =>
      match skipSpace rest with
      | ',' :: rest => readItems fuel depth (item :: done) rest
      | ']' :: rest => some (.array (item :: done).reverse, rest)
      | _ => none

/-- Reads the members of an object up to its end; `done` holds the members read. -/
def readMembers : Nat → Nat → Dict Value → List Char → Option (Value × List Char)
  | 0, _, _, _ => none
  | fuel + 1, depth, done, s =>
    match skipSpace s with
    | '"' :: rest =>
      match readString [] rest with
      | none => none
      | some (key, rest) =>
        match skipSpace rest with
        | ':' :: rest =>
          match readValue fuel depth rest with
          | none => none
          | some (value, rest) =>
            match skipSpace rest with
            | ',' :: rest => readMembers fuel depth (done.insert key value) rest
            | '\x7d' :: rest => some (.table (done.insert key value), rest)
            | _ => none
        | _ => none
    | _ => none

end

/-- How many arrays and objects may be open at once, plus one. -/
def depthLimit : Nat := 128

end Json

/-- The value that a JSON text denotes. -/
def readJson (text : String) : Option Value :=
  let s := text.toList
  match Json.readValue (2 * s.length + 2) Json.depthLimit s with
  | some (value, rest) => if (Json.skipSpace rest).isEmpty then some value else none
  | none => none

end StaticSite.Config
