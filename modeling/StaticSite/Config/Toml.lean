/-
  TOML: the reader of TOML documents.

  A document is read in two steps: its text gives statements, one a line, and the statements give
  the tree of tables.  `readToml` is their composition; a text that is no TOML document gives
  nothing.

  A date can also be written as a table whose first key is `momentKey`.  `readToml` leaves such a
  table as it is, and `readDatedToml` puts the date in its place.
-/
import StaticSite.Config.Toml.Values

namespace StaticSite.Config

namespace Toml

/-- The rest of a line: gaps, a remark, and the line end or the end of the text. -/
def endLine? (s : List Char) : Option (List Char) :=
  let rest := match s.dropWhile isGap with
    | '#' :: remark => remark.dropWhile isPlain
    | rest => rest
  match rest with
  | [] => some []
  | rest => dropNewline? rest

/-- Reads a statement up to the end of its line. -/
def readStatement (s : List Char) : Option (Statement × List Char) :=
  match s with
  | '[' :: '[' :: rest =>
    match readKey rest with
    | some (key, ']' :: ']' :: rest) => (endLine? rest).map fun rest => (.nextHeader key, rest)
    | _ => none
  | '[' :: rest =>
    match readKey rest with
    | some (key, ']' :: rest) => (endLine? rest).map fun rest => (.header key, rest)
    | _ => none
  | s =>
    match readKey s with
    | some (key, '=' :: rest) =>
      match readWholeValue (rest.dropWhile isGap) with
      | some (v, rest) => (endLine? rest).map fun rest => (.assign key v, rest)
      | none => none
    | _ => none

/-- Reads statements up to the end of the text; every one takes a character at least. -/
def readStatements : Nat → List Char → Option (List Statement)
  | 0, _ => none
  | fuel + 1, s =>
    match skipRemarks false s with
    | [] => some []
    | s =>
      match readStatement s with
      | some (statement, rest) => (readStatements fuel rest).map (statement :: ·)
      | none => none

/-- The statements of a document; a mark of byte order in front of it does not count. -/
def statements? (text : String) : Option (List Statement) :=
  let s := match text.toList with
    | '\ufeff' :: rest => rest
    | s => s
  readStatements (s.length + 1) s

end Toml

/-- The value that a TOML text denotes. -/
def readToml (text : String) : Option Value := (Toml.statements? text).bind Toml.valueOf?

/-! ## Tables that stand for dates -/

/-- Whether a table with these entries stands for a date: the first key tells. -/
def standsForDate : List (String × Value) → Bool
  | (key, _) :: _ => key == momentKey
  | [] => false

/-- The date that a table stands for: its first value has to be the text of one, and what comes
    after that does not count. -/
def dateOf? : List (String × Value) → Option Value
  | (_, .string text) :: _ => (Toml.momentOf? text).map .moment
  | _ => none

mutual

/-- A value with dates in place of the tables that stand for them; nothing if a table should, and
    holds no date. -/
def Value.dated? : Value → Option Value
  | .array items => (datedAll? items).map .array
  | .table es => if standsForDate es then dateOf? es else (datedEntries? es).map .table
  | v => some v

/-- The values of an array, with dates in place of the tables that stand for them. -/
def datedAll? : List Value → Option (List Value)
  | [] => some []
  | v :: rest => v.dated?.bind fun v => (datedAll? rest).map (v :: ·)

/-- The entries of a table, with dates in place of the tables that stand for them. -/
def datedEntries? : List (String × Value) → Option (List (String × Value))
  | [] => some []
  | (key, v) :: rest => v.dated?.bind fun v => (datedEntries? rest).map ((key, v) :: ·)

end

/-- The value that a TOML text denotes, with dates in place of the tables that stand for them. -/
def readDatedToml (text : String) : Option Value := (readToml text).bind Value.dated?

end StaticSite.Config
