/-
  YAML CURSOR: a place in a text, by line and column.

  In this format the column of a character counts, and so does whether only blanks stand in front
  of it on its line.  A `Cursor` is what is left of a text together with these; moving it over
  characters keeps them right.  A line ends in a line feed, a carriage return, or both; a zero
  character ends the text.

  Numbered structure:
    §1  classes of characters
    §2  `Cursor` and its moves
    §3  the rest of a line, and marks of documents
-/

namespace StaticSite.Config.Yaml

/-! ## §1 Classes of characters -/

/-- Whether a character ends a line. -/
def isBreak (c : Char) : Bool := c == '\n' || c == '\r'

/-- Whether a character is a space or a tab. -/
def isGap (c : Char) : Bool := c == ' ' || c == '\t'

/-- Whether a character is a gap or ends a line. -/
def isSpace (c : Char) : Bool := isGap c || isBreak c

/-- The characters that brackets and braces are built with. -/
def isFlowMark (c : Char) : Bool := c == ',' || c == '[' || c == ']' || c == '\x7b' || c == '\x7d'

/-- The characters of the names of directives and of tags' handles. -/
def isWordPart (c : Char) : Bool := c.isAlphanum || c == '_' || c == '-'

/-- Whether a text begins with a gap or a line end, or is empty. -/
def beginsWithSpace (s : List Char) : Bool := s.head?.all isSpace

/-- Whether a text begins with a line end, or is empty. -/
def beginsWithBreak (s : List Char) : Bool := s.head?.all isBreak

/-! ## §2 The cursor -/

/-- A place in a text. -/
structure Cursor where
  /-- The text from here on. -/
  rest : List Char
  line : Nat
  column : Nat
  /-- The number of characters before this place. -/
  index : Nat
  /-- Whether only gaps stand before this place on its line. -/
  inMargin : Bool
deriving Repr

namespace Cursor

/-- The start of a text, which ends at its first zero character. -/
def start (text : String) : Cursor := ⟨text.toList.takeWhile (· != '\x00'), 0, 0, 0, true⟩

/-- More steps than can be taken from here, a character each. -/
def fuel (c : Cursor) : Nat := c.rest.length + 1

/-- The next character. -/
def next? (c : Cursor) : Option Char := c.rest.head?

/-- Whether the next character is a given one. -/
def sees (c : Cursor) (mark : Char) : Bool := c.next? == some mark

/-- Moves over characters of which none ends a line. -/
def skip (c : Cursor) (n : Nat) : Cursor :=
  { c with
    rest := c.rest.drop n, column := c.column + n, index := c.index + n
    inMargin := c.inMargin && (c.rest.take n).all isGap }

/-- Moves over a run of characters of which none ends a line: the run, and the place behind it. -/
def skipWhile (c : Cursor) (p : Char → Bool) : List Char × Cursor :=
  let run := c.rest.takeWhile fun x => p x && !isBreak x
  (run, c.skip run.length)

/-- Moves over gaps. -/
def skipGaps (c : Cursor) : Cursor := (c.skipWhile isGap).2

/-- Moves over the end of a line, if it is here. -/
def skipBreak (c : Cursor) : Cursor :=
  match c.rest with
  | '\r' :: '\n' :: rest => ⟨rest, c.line + 1, 0, c.index + 2, true⟩
  | x :: rest => if isBreak x then ⟨rest, c.line + 1, 0, c.index + 1, true⟩ else c
  | [] => c

/-- Moves up to the end of the line. -/
def skipLine (c : Cursor) : Cursor := (c.skipWhile fun _ => true).2

/-- Whether the line ends here. -/
def atLineEnd (c : Cursor) : Bool := beginsWithBreak c.rest

/-! ## §3 The rest of a line -/

/-- Moves over gaps and a remark, which needs a gap in front: the gaps, and the place behind. -/
def skipRemark (c : Cursor) : Option (List Char × Cursor) :=
  let (gaps, c) := c.skipWhile isGap
  if c.sees '#' then if gaps.isEmpty then none else some (gaps, c.skipLine)
  else some (gaps, c)

/-- Moves over gaps and a remark, behind which the line has to end. -/
def skipToLineEnd (c : Cursor) : Option Cursor :=
  match c.skipRemark with
  | some (_, c) => if c.atLineEnd then some c else none
  | none => none

/-- Whether three marks in a row stand here, at the start of a line, and nothing joins them. -/
def atMarks (c : Cursor) (mark : Char) : Bool :=
  c.column == 0 && c.rest.take 3 == [mark, mark, mark] && beginsWithSpace (c.rest.drop 3)

/-- Whether the mark of a document's start or end stands here. -/
def atDocumentMark (c : Cursor) : Bool := c.atMarks '-' || c.atMarks '.'

end Cursor

end StaticSite.Config.Yaml
