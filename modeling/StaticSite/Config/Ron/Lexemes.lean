/-
  RON LEXEMES: space and remarks, names, strings and characters.

  A remark runs to the end of its line, or is a block; blocks may stand inside one another.  A name
  is a run of letters, digits and underscores, or behind `r#` also of points and signs.  A string
  has escapes, or is taken as it is if it stands behind an `r`; as many `#` as stand in front of
  its opening quote then stand behind the closing one.

  Numbered structure:
    §1  space and remarks
    §2  names
    §3  strings and characters
-/
import StaticSite.Config.Value
import StaticSite.Text.Digit
import StaticSite.Text.Split

namespace StaticSite.Config.Ron

/-! ## §1 Space and remarks -/

/-- The four characters allowed between lexemes. -/
def isSpace (c : Char) : Bool := c == ' ' || c == '\t' || c == '\n' || c == '\r'

/-- What a place in a text lies in: no remark, one of a line, or so many blocks. -/
inductive Place
  | outside
  | line
  /-- Inside of one block more than the number. -/
  | block (around : Nat)
deriving DecidableEq, Repr

/-- Where the end of a block leads to. -/
def Place.leave : Place → Place
  | .block (around + 1) => .block around
  | _ => .outside

/-- Drops space and remarks in front; nothing if a block is not closed, or a slash begins no
    remark. -/
def skipFrom : Place → List Char → Option (List Char)
  | .outside, '/' :: '/' :: rest => skipFrom .line rest
  | .outside, '/' :: '*' :: rest => skipFrom (.block 0) rest
  | .outside, c :: rest =>
    if isSpace c then skipFrom .outside rest else if c == '/' then none else some (c :: rest)
  | .line, c :: rest => skipFrom (if c == '\n' then .outside else .line) rest
  | .block around, '/' :: '*' :: rest => skipFrom (.block (around + 1)) rest
  | .block around, '*' :: '/' :: rest => skipFrom (Place.block around).leave rest
  | .block around, _ :: rest => skipFrom (.block around) rest
  | .block _, [] => none
  | _, [] => some []

/-- Drops space and remarks in front. -/
def skipSpace (s : List Char) : Option (List Char) := skipFrom .outside s

/-! ## §2 Names -/

/-- Whether a character may stand in a name. -/
def isNamePart (c : Char) : Bool := c.isAlphanum || c == '_'

/-- Whether a character may stand in a name behind `r#`. -/
def isRawNamePart (c : Char) : Bool := isNamePart c || c == '.' || c == '+' || c == '-'

/-- Reads a name; an `r` that begins a string is none. -/
def readName : List Char → Option (String × List Char)
  | 'r' :: '"' :: _ => none
  | 'r' :: '#' :: rest =>
    match rest.span isRawNamePart with
    | ([], _) => none
    | (name, rest) => some (String.ofList name, rest)
  | c :: rest =>
    if c.isDigit || !isNamePart c then none
    else
      let (name, rest) := (c :: rest).span isNamePart
      some (String.ofList name, rest)
  | [] => none

/-- What follows a word in front of a text, if the word stands there and ends there. -/
def dropWord? (word : List Char) (s : List Char) : Option (List Char) :=
  (Text.dropStart? word s).filter fun rest => !(rest.head?.any isNamePart)

/-! ## §3 Strings and characters -/

/-- The character with a number, if there is one. -/
def characterOf? (n : Nat) : Option Char := if n.isValidChar then some (Char.ofNat n) else none

/-- A run of one to six hexadecimal digits up to a closing brace. -/
def readBraced (s : List Char) : Option (Char × List Char) :=
  match s.span (Text.isDigit 16) with
  | (ds, '\x7d' :: rest) =>
    if 1 ≤ ds.length ∧ ds.length ≤ 6 then (characterOf? (Text.valueOf 16 ds)).map fun c => (c, rest)
    else none
  | _ => none

/-- The character that a character after a backslash stands for. -/
def escaped? : Char → Option Char
  | '\x27' => some '\x27'
  | '"' => some '"'
  | '\\' => some '\\'
  | 'n' => some '\n'
  | 'r' => some '\r'
  | 't' => some '\t'
  | '0' => some '\x00'
  | _ => none

/-- Reads an escape behind its backslash. -/
def readEscape : List Char → Option (Char × List Char)
  | 'x' :: a :: b :: rest => do
    let n := (← Text.digit? 16 a) * 16 + (← Text.digit? 16 b)
    return (Char.ofNat n, rest)
  | 'u' :: '\x7b' :: rest => readBraced rest
  | c :: rest => (escaped? c).map fun x => (x, rest)
  | [] => none

/-- Reads a string with escapes behind its opening quote; every character of it takes at least one
    of the text. -/
def readString : Nat → List Char → Option (List Char × List Char)
  | 0, _ => none
  | _ + 1, '"' :: rest => some ([], rest)
  | fuel + 1, '\\' :: rest =>
    match readEscape rest with
    | some (c, rest) => (readString fuel rest).map fun p => (c :: p.1, p.2)
    | none => none
  | fuel + 1, c :: rest => (readString fuel rest).map fun p => (c :: p.1, p.2)
  | _ + 1, [] => none

/-- Reads a string as it is, up to an ending. -/
def readUpTo (ending : List Char) : List Char → Option (List Char × List Char)
  | [] => none
  | c :: rest =>
    match Text.dropStart? ending (c :: rest) with
    | some rest => some ([], rest)
    | none => (readUpTo ending rest).map fun p => (c :: p.1, p.2)

/-- Reads a string without escapes behind its `r`. -/
def readRaw (s : List Char) : Option (List Char × List Char) :=
  match s.span (· == '#') with
  | (marks, '"' :: rest) => readUpTo ('"' :: marks) rest
  | _ => none

/-- Reads a character behind its opening quote. -/
def readCharacter : List Char → Option (Char × List Char)
  | '\\' :: rest =>
    match readEscape rest with
    | some (c, '\x27' :: rest) => some (c, rest)
    | _ => none
  | c :: '\x27' :: rest => if c == '\x27' then none else some (c, rest)
  | _ => none

/-- A text in quotes: a string, or a single character. -/
inductive Quoted
  | string (s : String)
  | character (c : Char)
deriving DecidableEq, Repr

/-- The text in the quotes. -/
def Quoted.text : Quoted → String
  | .string s => s
  | .character c => c.toString

/-- Whether the text is a single character in single quotes. -/
def Quoted.isCharacter : Quoted → Bool
  | .string _ => false
  | .character _ => true

/-- Reads a text in quotes. -/
def readQuoted : List Char → Option (Quoted × List Char)
  | '"' :: rest =>
    (readString (rest.length + 1) rest).map fun p => (.string (String.ofList p.1), p.2)
  | 'r' :: rest => (readRaw rest).map fun p => (.string (String.ofList p.1), p.2)
  | '\x27' :: rest => (readCharacter rest).map fun p => (.character p.1, p.2)
  | _ => none

example : readQuoted "r#\"a\"b\"# c".toList = some (.string "a\"b", [' ', 'c']) := by decide +kernel

example : readQuoted "\"\\u\x7be9\x7d\\x41\"".toList = some (.string "éA", []) := by decide +kernel

example : skipSpace "/* a /* b */ c */ d // e".toList = some "d // e".toList := by decide +kernel

end StaticSite.Config.Ron
