/-
  INI: the reader of INI files.

  A file consists of lines: a header opens a section, a setting gives a key its text, a remark
  does not count.  Settings in front of all headers are entries of the whole table, and every
  section is a table of its own.  A section that is opened again starts anew: only the settings
  behind its last header count.  All values are texts.

  A backslash begins an escape in names, keys and values alike, so it can also take away what
  would end them.  A header may stand anywhere between settings; a remark only at the very start
  of its line.

  Numbered structure:
    §1  escapes, and text up to a mark
    §2  lines
    §3  the value of a file
-/
import StaticSite.Config.Value
import StaticSite.Text.Blank
import StaticSite.Text.Digit

namespace StaticSite.Config

namespace Ini

/-! ## §1 Text up to a mark -/

/-- The character with a code of four hexadecimal digits; the first may be a plus sign. -/
def characterOf? (code : List Char) : Option Char :=
  let ds := match code with
    | '+' :: ds => ds
    | ds => ds
  let n := Text.valueOf 16 ds
  if ds.all (Text.isDigit 16) && n.isValidChar then some (Char.ofNat n) else none

/-- The character that a letter after a backslash stands for; most stand for themselves. -/
def escaped : Char → Char
  | '0' => '\x00'
  | 'a' => '\x07'
  | 'b' => '\x08'
  | 't' => '\t'
  | 'r' => '\r'
  | 'n' => '\n'
  | c => c

/-- Reads up to a mark or the end of the text; the mark is left.  A backslash at the end of a line
    joins it with the next one. -/
def readUpTo (isMark : Char → Bool) : List Char → Option (List Char × List Char)
  | '\\' :: '\n' :: rest => readUpTo isMark rest
  | '\\' :: 'x' :: a :: b :: c :: d :: rest =>
    match characterOf? [a, b, c, d] with
    | some x => (readUpTo isMark rest).map fun p => (x :: p.1, p.2)
    | none => none
  | '\\' :: c :: rest =>
    if c == 'x' then none else (readUpTo isMark rest).map fun p => (escaped c :: p.1, p.2)
  | c :: rest =>
    if c == '\\' then none
    else if isMark c then some ([], c :: rest)
    else (readUpTo isMark rest).map fun p => (c :: p.1, p.2)
  | [] => some ([], [])

/-- Reads up to a mark, which has to be there and is dropped. -/
def readPast (isMark : Char → Bool) (s : List Char) : Option (List Char × List Char) :=
  match readUpTo isMark s with
  | some (text, _ :: rest) => some (text, rest)
  | _ => none

/-- Whether a character ends a line. -/
def isLineEnd (c : Char) : Bool := c == '\n' || c == '\r'

/-! ## §2 Lines -/

/-- A line of a file. -/
inductive Line
  /-- The lines that follow belong to the section with this name. -/
  | header (name : String)
  | setting (key text : String)
deriving DecidableEq, Repr

/-- A text without the blanks around it. -/
def trimmedText (s : List Char) : String := String.ofList (Text.trim s)

/-- Reads a value up to the end of its line.  It may begin with a part in quotes, and goes on
    behind them. -/
def readValue (s : List Char) : Option (String × List Char) :=
  match s.dropWhile fun c => Text.isBlank c && !isLineEnd c with
  | [] => some ("", [])
  | c :: rest =>
    if c == '"' || c == '\x27' then
      match readPast (· == c) rest with
      | none => none
      | some (quoted, rest) =>
        (readUpTo isLineEnd rest).map fun p => (trimmedText (quoted ++ p.1), p.2)
    else (readUpTo isLineEnd (c :: rest)).map fun p => (trimmedText p.1, p.2)

/-- Reads a setting; there has to be a key. -/
def readSetting (s : List Char) : Option (Line × List Char) :=
  match readPast (fun c => c == '=' || c == ':') s with
  | none => none
  | some (key, rest) =>
    let key := trimmedText key
    if key.isEmpty then none else (readValue rest).map fun p => (.setting key p.1, p.2)

/-- Reads a header behind its opening bracket. -/
def readHeader (s : List Char) : Option (Line × List Char) :=
  (readPast (· == ']') s).map fun p => (.header (trimmedText p.1), p.2)

/-- Drops blanks in front; `atStart` says whether what follows is at the start of a line. -/
def skipBlanks (atStart : Bool) : List Char → Bool × List Char
  | c :: rest => if Text.isBlank c then skipBlanks (c == '\n') rest else (atStart, c :: rest)
  | [] => (atStart, [])

/-- Whether a character begins a remark. -/
def isRemark (c : Char) : Bool := c == ';' || c == '#'

/-- Reads lines up to the end of the text; every one takes a character at least. -/
def readLines : Nat → Bool → List Char → Option (List Line)
  | 0, _, _ => none
  | fuel + 1, atStart, s =>
    match skipBlanks atStart s with
    | (_, []) => some []
    | (atStart, c :: rest) =>
      if isRemark c then
        if atStart then readLines fuel true ((rest.dropWhile (· != '\n')).drop 1) else none
      else
        match if c == '[' then readHeader rest else readSetting (c :: rest) with
        | some (line, rest) => (readLines fuel false rest).map (line :: ·)
        | none => none

/-- The lines of a file. -/
def lines? (text : String) : Option (List Line) :=
  let s := text.toList
  readLines (s.length + 1) true s

/-! ## §3 The value of a file -/

/-- The settings in front of the first header, and the sections behind it, in order. -/
def grouped : List Line → List (String × Value) × List (String × Value)
  | [] => ([], [])
  | .setting key text :: rest =>
    let (settings, sections) := grouped rest
    ((key, .string text) :: settings, sections)
  | .header name :: rest =>
    let (settings, sections) := grouped rest
    ([], (name, .table (Dict.ofList settings)) :: sections)

/-- The table that lines make up; a section outdoes a setting of its name. -/
def tableOf (lines : List Line) : Value :=
  let (settings, sections) := grouped lines
  .table (Dict.ofList (settings ++ sections))

example : lines? "a = 'b' c\n# remark\n[ d ]\ne:\\x0041\\\nf" =
    some [.setting "a" "b c", .header "d", .setting "e" "Af"] := by decide +kernel

example : lines? " # remark" = none ∧ lines? "= a" = none := by decide +kernel

end Ini

/-- The value that the text of an INI file denotes. -/
def readIni (text : String) : Option Value := (Ini.lines? text).map Ini.tableOf

end StaticSite.Config
