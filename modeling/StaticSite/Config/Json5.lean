/-
  JSON5: the reader of JSON5 documents.

  `readJson5` takes a whole text to a value, or to nothing if the text is no JSON5 document.  Of two
  members with one name the later counts, and members are kept in the order of their names.  The
  items of an array and the members of an object may end in a comma.

  The readers that call each other spend one unit of fuel a call.  A call is preceded by a
  character read since the last one but one, so twice the length of the text is enough.
-/
import StaticSite.Config.Json5.Lexemes
import StaticSite.Config.Json5.Numbers

namespace StaticSite.Config

namespace Json5

/-- Reads the name of a member: a name, or a string. -/
def readKey : List Char → Option (String × List Char)
  | '"' :: rest => readString '"' rest
  | '\x27' :: rest => readString '\x27' rest
  | s => readName s

mutual

/-- Reads a value. -/
def readValue : Nat → List Char → Option (Value × List Char)
  | 0, _ => none
  | fuel + 1, s =>
    match s with
    | 'n' :: 'u' :: 'l' :: 'l' :: rest => some (.null, rest)
    | 't' :: 'r' :: 'u' :: 'e' :: rest => some (.bool true, rest)
    | 'f' :: 'a' :: 'l' :: 's' :: 'e' :: rest => some (.bool false, rest)
    | '"' :: rest => (readString '"' rest).map fun p => (.string p.1, p.2)
    | '\x27' :: rest => (readString '\x27' rest).map fun p => (.string p.1, p.2)
    | '\x7b' :: rest => (skipSpace rest).bind (readMembers fuel [])
    | '[' :: rest => (skipSpace rest).bind (readItems fuel [])
    | s => readNumber s

/-- Reads the items of an array up to its end; `done` holds the items read, last one first. -/
def readItems : Nat → List Value → List Char → Option (Value × List Char)
  | 0, _, _ => none
  | fuel + 1, done, s =>
    match s with
    | ']' :: rest => some (.array done.reverse, rest)
    | s =>
      match readValue fuel s with
      | none => none
      | some (item, rest) =>
        match skipSpace rest with
        | some (',' :: rest) => (skipSpace rest).bind (readItems fuel (item :: done))
        | some (']' :: rest) => some (.array (item :: done).reverse, rest)
        | _ => none

/-- Reads the members of an object up to its end; `done` holds the members read. -/
def readMembers : Nat → Dict Value → List Char → Option (Value × List Char)
  | 0, _, _ => none
  | fuel + 1, done, s =>
    match s with
    | '\x7d' :: rest => some (.table done, rest)
    | s =>
      match readKey s with
      | none => none
      | some (key, rest) =>
        match skipSpace rest with
        | some (':' :: rest) =>
          match (skipSpace rest).bind (readValue fuel) with
          | none => none
          | some (value, rest) =>
            match skipSpace rest with
            | some (',' :: rest) => (skipSpace rest).bind (readMembers fuel (done.insert key value))
            | some ('\x7d' :: rest) => some (.table (done.insert key value), rest)
            | _ => none
        | _ => none

end

end Json5

/-- The value that a JSON5 text denotes. -/
def readJson5 (text : String) : Option Value :=
  match Json5.skipSpace text.toList with
  | none => none
  | some s =>
    match Json5.readValue (2 * s.length + 2) s with
    | some (value, rest) => if Json5.skipSpace rest = some [] then some value else none
    | none => none

end StaticSite.Config
