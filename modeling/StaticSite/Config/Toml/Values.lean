/-
  TOML KEYS AND VALUES.

  A key is one part or several with dots between them; a part is a run of letters, digits,
  hyphens and underscores, or a quoted string of one line.  Arrays may run over several lines, with
  remarks between their items, and may end in a comma; tables in braces may not.

  Fewer than eighty parts make a key, and fewer than eighty arrays and tables stand inside one
  another.  The readers that call each other spend one unit of fuel a call; of two calls one reads
  a character first, so twice the length of the text is enough.
-/
import StaticSite.Config.Toml.Moments
import StaticSite.Config.Toml.Numbers
import StaticSite.Config.Toml.Strings
import StaticSite.Config.Toml.Tree

namespace StaticSite.Config.Toml

/-- One more than the parts that a key may have, and than the nesting of a value. -/
def nestingLimit : Nat := 80

/-- Drops gaps, line ends and remarks in front; `inside` says that a remark has begun.  A character
    that may not stand in a remark ends it. -/
def skipRemarks (inside : Bool) : List Char → List Char
  | '\n' :: rest => skipRemarks false rest
  | '\r' :: '\n' :: rest => skipRemarks false rest
  | c :: rest =>
    if inside then if isPlain c then skipRemarks true rest else c :: rest
    else if isGap c then skipRemarks false rest
    else if c == '#' then skipRemarks true rest
    else c :: rest
  | [] => []

/-! ## Keys -/

/-- The characters of a part of a key that is not quoted. -/
def isBareKey (c : Char) : Bool := c.isAlphanum || c == '-' || c == '_'

/-- Reads one part of a key. -/
def readKeyPart : List Char → Option (String × List Char)
  | '"' :: rest => (readBasic [] rest).map fun p => (String.ofList p.1, p.2)
  | '\x27' :: rest => (readLiteral rest).map fun p => (String.ofList p.1, p.2)
  | s =>
    match s.span isBareKey with
    | ([], _) => none
    | (name, rest) => some (String.ofList name, rest)

/-- Reads the parts of a key, with gaps around them. -/
def readKeyParts : Nat → List Char → Option (List String × List Char)
  | 0, _ => none
  | fuel + 1, s =>
    match readKeyPart (s.dropWhile isGap) with
    | none => none
    | some (part, rest) =>
      match rest.dropWhile isGap with
      | '.' :: rest => (readKeyParts fuel rest).map fun p => (part :: p.1, p.2)
      | rest => some ([part], rest)

/-- Reads a key. -/
def readKey (s : List Char) : Option (List String × List Char) :=
  (readKeyParts (s.length + 1) s).filter fun p => p.1.length < nestingLimit

/-! ## Values -/

/-- Reads a value that is neither an array nor a table. -/
def readScalar : List Char → Option (Value × List Char)
  | 't' :: 'r' :: 'u' :: 'e' :: rest => some (.bool true, rest)
  | 'f' :: 'a' :: 'l' :: 's' :: 'e' :: rest => some (.bool false, rest)
  | s =>
    match readString s with
    | some (text, rest) => some (.string (String.ofList text), rest)
    | none =>
      match readMoment s with
      | some (text, rest) => some (.moment text, rest)
      | none => readNumber s

mutual

/-- Reads a value; `depth` arrays and tables may still be opened. -/
def readValue : Nat → Nat → List Char → Option (Value × List Char)
  | 0, _, _ => none
  | fuel + 1, depth, s =>
    match s with
    | '[' :: rest =>
      if depth = 0 then none else readItems fuel (depth - 1) [] (skipRemarks false rest)
    | '\x7b' :: rest =>
      if depth = 0 then none
      else match rest.dropWhile isGap with
        | '\x7d' :: rest => some (.table [], rest)
        | rest => readPairs fuel (depth - 1) [] rest
    | s => readScalar s

/-- Reads the items of an array up to its end; `done` holds the items read, last one first. -/
def readItems : Nat → Nat → List Value → List Char → Option (Value × List Char)
  | 0, _, _, _ => none
  | fuel + 1, depth, done, s =>
    match s with
    | ']' :: rest => some (.array done.reverse, rest)
    | s =>
      match readValue fuel depth s with
      | none => none
      | some (item, rest) =>
        match skipRemarks false rest with
        | ',' :: rest => readItems fuel depth (item :: done) (skipRemarks false rest)
        | ']' :: rest => some (.array (item :: done).reverse, rest)
        | _ => none

/-- Reads the keys and values of a table up to its end; `done` holds those read, last one first. -/
def readPairs : Nat → Nat → List (List String × Value) → List Char → Option (Value × List Char)
  | 0, _, _, _ => none
  | fuel + 1, depth, done, s =>
    match readKey s with
    | some (key, '=' :: rest) =>
      match readValue fuel depth (rest.dropWhile isGap) with
      | none => none
      | some (v, rest) =>
        match rest.dropWhile isGap with
        | ',' :: rest => readPairs fuel depth ((key, v) :: done) rest
        | '\x7d' :: rest => (inlineTable? ((key, v) :: done).reverse).map fun table => (table, rest)
        | _ => none
    | _ => none

end

/-- Reads the value of a line. -/
def readWholeValue (s : List Char) : Option (Value × List Char) :=
  readValue (2 * s.length + 2) (nestingLimit - 1) s

end StaticSite.Config.Toml
