/-
  RON: the reader of RON documents.

  A document is one value, with lines in front that enable extensions of the format.  Parentheses
  hold the fields of a record, each with its name, or the items of a tuple; a name in front of
  them does not count.  A value may stand inside `Some`, and where there is none, `None` or an
  empty pair of parentheses stands.  A name alone is no value either.

  A record is a table, and so is a map, whose keys have to be texts; of two entries with one key
  the later counts, but a string always outdoes a single character.  Tuples and lists are arrays.

  At most 128 of them stand inside one another, `Some` included.  The readers that call each other
  spend one unit of fuel a call.  Of three calls in a row one reads a character first, so three
  times the length of the text is enough.
-/
import StaticSite.Config.Ron.Numbers

namespace StaticSite.Config

namespace Ron

/-! ## Extensions -/

/-- An extension that a document may enable. -/
inductive Extension
  | unwrapNewtypes
  | implicitSome
  | unwrapVariantNewtypes
deriving DecidableEq, Repr

/-- The extension with a name. -/
def Extension.ofName? : String → Option Extension
  | "unwrap_newtypes" => some .unwrapNewtypes
  | "implicit_some" => some .implicitSome
  | "unwrap_variant_newtypes" => some .unwrapVariantNewtypes
  | _ => none

/-- Drops words in front of a text, and the space behind each of them. -/
def dropWords? : List String → List Char → Option (List Char)
  | [], s => some s
  | word :: more, s => ((Text.dropStart? word.toList s).bind skipSpace).bind (dropWords? more)

/-- Reads the names of extensions, with commas between them; the last may have one too. -/
def readExtensions : Nat → List Char → Option (List Extension × List Char)
  | 0, _ => none
  | fuel + 1, s => do
    let (name, rest) ← readName s
    let extension ← Extension.ofName? name
    match ← skipSpace rest with
    | ',' :: rest =>
      let rest ← skipSpace rest
      if rest.head?.any isNamePart then
        (readExtensions fuel rest).map fun p => (extension :: p.1, p.2)
      else return ([extension], rest)
    | rest => return ([extension], rest)

/-- Reads the lines in front of a document that enable extensions; each takes a character. -/
def readAttributes : Nat → List Char → Option (List Extension × List Char)
  | 0, _ => none
  | fuel + 1, s =>
    match s with
    | '#' :: _ => do
      let rest ← dropWords? ["#", "!", "[", "enable", "("] s
      let (extensions, rest) ← readExtensions (rest.length + 1) rest
      let rest ← dropWords? [")", "]"] rest
      (readAttributes fuel rest).map fun p => (extensions ++ p.1, p.2)
    | s => some ([], s)

/-! ## Values -/

/-- Whether the text behind an opening parenthesis begins with the name of a field. -/
def beginsField (s : List Char) : Bool :=
  match readName s with
  | some (_, rest) =>
    match skipSpace rest with
    | some (':' :: _) => true
    | _ => false
  | none => false

/-- The table with entries of which some have a single character for a key. -/
def tableOf (entries : List (Quoted × Value)) : Value :=
  let (characters, strings) := entries.partition fun e => e.1.isCharacter
  .table (Dict.ofList ((characters ++ strings).map fun e => (e.1.text, e.2)))

/-- Reads the key of an entry: in a record the name of a field, in a map a text in quotes. -/
def readKey (inRecord : Bool) (s : List Char) : Option (Quoted × List Char) :=
  if inRecord then (readName s).map fun p => (.string p.1, p.2) else readQuoted s

/-- Drops a comma and the space around it: whether there was one, and the rest. -/
def readComma (s : List Char) : Option (Bool × List Char) :=
  match skipSpace s with
  | some (',' :: rest) => (skipSpace rest).map fun rest => (true, rest)
  | some rest => some (false, rest)
  | none => none

/-- The words that are values. -/
def readWord? (s : List Char) : Option (Value × List Char) :=
  let words : List (List Char × Value) :=
    [("true".toList, .bool true), ("false".toList, .bool false), ("None".toList, .null),
      ("inf".toList, .float (1.0 / 0.0)), ("NaN".toList, .float (0.0 / 0.0))]
  words.findSome? fun w => (dropWord? w.1 s).map fun rest => (w.2, rest)

/-- Reads a value that holds no other and stands behind no name. -/
def readLeaf (s : List Char) : Option (Value × List Char) :=
  match s with
  | [] => none
  | c :: _ =>
    if c == '+' || c == '-' || c == '.' || c.isDigit then readNumber s
    else (readQuoted s).map fun p => (.string p.1.text, p.2)

mutual

/-- Reads a value; `depth` more may stand around others, and `bare` says that `Some` needs no
    parentheses. -/
def readValue (bare : Bool) : Nat → Nat → List Char → Option (Value × List Char)
  | 0, _, _ => none
  | fuel + 1, depth, s =>
    match readWord? s with
    | some found => some found
    | none =>
      match dropWord? "Some".toList s with
      | some rest =>
        match skipSpace rest with
        | some ('(' :: rest) =>
          if depth = 0 then none
          else match (skipSpace rest).bind (readValue bare fuel (depth - 1)) with
            | none => none
            | some (value, rest) =>
              match readComma rest with
              | some (_, ')' :: rest) => some (value, rest)
              | _ => none
        | some rest => if bare && depth ≠ 0 then readValue bare fuel (depth - 1) rest else none
        | none => none
      | none =>
        match s with
        | '(' :: ')' :: rest => some (.null, rest)
        | '(' :: rest => readGroup bare fuel depth rest
        | '[' :: rest =>
          if depth = 0 then none
          else (skipSpace rest).bind (readItems bare fuel (depth - 1) ']' [])
        | '\x7b' :: rest =>
          if depth = 0 then none
          else (skipSpace rest).bind (readEntries bare fuel (depth - 1) false [])
        | s =>
          match readName s with
          | some (_, rest) =>
            match skipSpace rest with
            | some ('(' :: rest) => readGroup bare fuel depth rest
            | some rest => some (.null, rest)
            | none => none
          | none => readLeaf s

/-- Reads a record or a tuple behind its opening parenthesis. -/
def readGroup (bare : Bool) : Nat → Nat → List Char → Option (Value × List Char)
  | 0, _, _ => none
  | fuel + 1, depth, s =>
    if depth = 0 then none
    else match skipSpace s with
      | none => none
      | some s =>
        if beginsField s then readEntries bare fuel (depth - 1) true [] s
        else readItems bare fuel (depth - 1) ')' [] s

/-- Reads items up to a closing mark; `done` holds the items read, last one first. -/
def readItems (bare : Bool) :
    Nat → Nat → Char → List Value → List Char → Option (Value × List Char)
  | 0, _, _, _, _ => none
  | fuel + 1, depth, close, done, s =>
    match s with
    | [] => none
    | c :: rest =>
      if c == close then some (.array done.reverse, rest)
      else match readValue bare fuel depth (c :: rest) with
        | none => none
        | some (item, rest) =>
          match readComma rest with
          | some (true, rest) => readItems bare fuel depth close (item :: done) rest
          | some (false, c :: rest) =>
            if c == close then some (.array (item :: done).reverse, rest) else none
          | _ => none

/-- Reads the entries of a record or a map up to its end; `done` holds the entries read, last one
    first. -/
def readEntries (bare : Bool) :
    Nat → Nat → Bool → List (Quoted × Value) → List Char → Option (Value × List Char)
  | 0, _, _, _, _ => none
  | fuel + 1, depth, inRecord, done, s =>
    let close := if inRecord then ')' else '\x7d'
    match s with
    | [] => none
    | c :: rest =>
      if c == close then some (tableOf done.reverse, rest)
      else match readKey inRecord (c :: rest) with
        | none => none
        | some (key, rest) =>
          match skipSpace rest with
          | some (':' :: rest) =>
            match (skipSpace rest).bind (readValue bare fuel depth) with
            | none => none
            | some (value, rest) =>
              match readComma rest with
              | some (true, rest) =>
                readEntries bare fuel depth inRecord ((key, value) :: done) rest
              | some (false, c :: rest) =>
                if c == close then some (tableOf ((key, value) :: done).reverse, rest) else none
              | _ => none
          | _ => none

end

/-- How many values may stand around another. -/
def depthLimit : Nat := 128

end Ron

/-- The value that a RON text denotes. -/
def readRon (text : String) : Option Value := do
  let s ← Ron.skipSpace text.toList
  let (extensions, s) ← Ron.readAttributes (s.length + 1) s
  let bare := extensions.contains .implicitSome
  let (value, rest) ← Ron.readValue bare (3 * s.length + 3) Ron.depthLimit s
  if (← Ron.skipSpace rest).isEmpty then some value else none

end StaticSite.Config
