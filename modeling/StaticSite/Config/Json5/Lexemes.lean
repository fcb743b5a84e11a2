/-
  JSON5 LEXEMES: space and remarks, strings, and names.

  Between lexemes there may be space, line ends, and remarks of a line or a block.  A string stands
  in double or single quotes on one line; a backslash at a line's end joins it with the next one.
  A name is a run of letters, digits and marks that does not begin with a digit.

  In strings and names alike four hexadecimal digits may give a character by its number, and two
  such numbers one beyond FFFF₁₆.  Both are therefore read into `Piece`s first, and `textOf?` puts
  the pairs together.

  Numbered structure:
    §1  space and remarks
    §2  pieces of text
    §3  strings
    §4  names
-/
import StaticSite.Config.Json
import StaticSite.Text.Letters

namespace StaticSite.Config.Json5

/-! ## §1 Space and remarks -/

/-- Whether a character ends a line. -/
def isLineEnd (c : Char) : Bool := c == '\n' || c == '\r' || c == '\u2028' || c == '\u2029'

/-- The code points that count as space, outside the range 2000₁₆–200A₁₆. -/
def loneSpaces : List Nat := [0x09, 0x0B, 0x0C, 0x20, 0xA0, 0x1680, 0x202F, 0x205F, 0x3000, 0xFEFF]

/-- Whether a character is space or ends a line. -/
def isSpace (c : Char) : Bool :=
  let n := c.toNat
  isLineEnd c || (0x2000 ≤ n && n ≤ 0x200A) || loneSpaces.contains n

/-- What a place in a text lies in: no remark, or one of a line or a block. -/
inductive Place
  | outside
  | line
  | block
deriving DecidableEq, Repr

/-- Drops space and remarks in front; nothing if a block of remarks is not closed. -/
def skipFrom : Place → List Char → Option (List Char)
  | .outside, '/' :: '/' :: rest => skipFrom .line rest
  | .outside, '/' :: '*' :: rest => skipFrom .block rest
  | .outside, c :: rest => if isSpace c then skipFrom .outside rest else some (c :: rest)
  | .line, c :: rest => skipFrom (if isLineEnd c then .outside else .line) rest
  | .block, '*' :: '/' :: rest => skipFrom .outside rest
  | .block, _ :: rest => skipFrom .block rest
  | .block, [] => none
  | _, [] => some []

/-- Drops space and remarks in front. -/
def skipSpace (s : List Char) : Option (List Char) := skipFrom .outside s

/-! ## §2 Pieces of text -/

/-- A piece of a string or name: a character as it is, or a number of 16 bits. -/
inductive Piece
  | char (c : Char)
  | unit (n : Nat)
deriving DecidableEq, Repr

/-- Whether a number is the first, or the second, of a pair. -/
def isFirstOfPair (n : Nat) : Bool := 0xD800 ≤ n && n < 0xDC00
def isSecondOfPair (n : Nat) : Bool := 0xDC00 ≤ n && n < 0xE000

/-- The text that pieces make up; nothing if half of a pair stands alone. -/
def textOf? : List Piece → Option (List Char)
  | [] => some []
  | .char c :: rest => (textOf? rest).map (c :: ·)
  | .unit n :: .unit m :: rest =>
    if isFirstOfPair n then
      if isSecondOfPair m then
        (textOf? rest).map (Char.ofNat (0x10000 + (n - 0xD800) * 0x400 + (m - 0xDC00)) :: ·)
      else none
    else if isSecondOfPair n then none
    else (textOf? (.unit m :: rest)).map (Char.ofNat n :: ·)
  | .unit n :: rest =>
    if isFirstOfPair n || isSecondOfPair n then none
    else (textOf? rest).map (Char.ofNat n :: ·)

/-! ## §3 Strings -/

/-- The character that a character after a backslash stands for, if it stands for one: a digit is
    none but the zero, `x` and `u` need their digits, and all others that have no meaning of their
    own are themselves. -/
def escaped? : Char → Option Char
  | 'b' => some '\x08'
  | 'f' => some '\x0c'
  | 'n' => some '\n'
  | 'r' => some '\r'
  | 't' => some '\t'
  | 'v' => some '\x0b'
  | '0' => some '\x00'
  | c => if c.isDigit || c == 'x' || c == 'u' then none else some c

/-- Reads the pieces of a string behind its opening quote. -/
def readPieces (quote : Char) : List Char → Option (List Piece × List Char)
  | '\\' :: '\r' :: '\n' :: rest => readPieces quote rest
  | '\\' :: 'x' :: a :: b :: rest =>
    match Json.hex4? '0' '0' a b with
    | some n => (readPieces quote rest).map fun p => (.char (Char.ofNat n) :: p.1, p.2)
    | none => none
  | '\\' :: 'u' :: a :: b :: c :: d :: rest =>
    match Json.hex4? a b c d with
    | some n => (readPieces quote rest).map fun p => (.unit n :: p.1, p.2)
    | none => none
  | '\\' :: c :: rest =>
    if isLineEnd c then readPieces quote rest
    else match escaped? c with
      | some x => (readPieces quote rest).map fun p => (.char x :: p.1, p.2)
      | none => none
  | c :: rest =>
    if c == quote then some ([], rest)
    else if c == '\\' || isLineEnd c then none
    else (readPieces quote rest).map fun p => (.char c :: p.1, p.2)
  | [] => none

/-- Reads a string behind its opening quote. -/
def readString (quote : Char) (s : List Char) : Option (String × List Char) :=
  match readPieces quote s with
  | some (pieces, rest) => (textOf? pieces).map fun text => (String.ofList text, rest)
  | none => none

/-! ## §4 Names -/

/-- Whether a character may begin a name. -/
def isNameStart (c : Char) : Bool := c == '$' || c == '_' || Text.isLetter c

/-- Whether a character may stand in a name; two of them join letters without being seen. -/
def isNamePart (c : Char) : Bool :=
  isNameStart c || Text.isWordMark c || c == '\u200c' || c == '\u200d'

/-- The pieces of a name in front of a text. -/
def namePieces : List Char → List Piece × List Char
  | '\\' :: 'u' :: a :: b :: c :: d :: rest =>
    match Json.hex4? a b c d with
    | some n =>
      let (pieces, rest) := namePieces rest
      (.unit n :: pieces, rest)
    | none => ([], '\\' :: 'u' :: a :: b :: c :: d :: rest)
  | c :: rest =>
    if isNamePart c then
      let (pieces, rest) := namePieces rest
      (.char c :: pieces, rest)
    else ([], c :: rest)
  | [] => ([], [])

/-- Reads a name. -/
def readName (s : List Char) : Option (String × List Char) :=
  let begins := match s with
    | c :: _ => c == '\\' || isNameStart c
    | [] => false
  match namePieces s with
  | ([], _) => none
  | (pieces, rest) =>
    if begins then (textOf? pieces).map fun text => (String.ofList text, rest) else none

example : readString '\x27' "a\\u00e9\\\nb\\x41\\'' c".toList =
    some ("aébA'", [' ', 'c']) := by decide +kernel

example : readName "$a1-".toList = some ("$a1", ['-']) ∧ readName "1a".toList = none := by
  decide +kernel

end StaticSite.Config.Json5
