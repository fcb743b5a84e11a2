/-
  YAML PROPERTIES: anchors, tags and directives.

  An anchor names a node, and an alias stands for the node with its name.  A tag says what kind of
  value a node is: `!<…>` in full, `!suffix`, or with a handle, `!!suffix` or `!handle!suffix`.  A
  directive stands in front of a document and makes a handle stand for the start of tags.

  Characters of a tag may be written as bytes in hexadecimal digits.  One byte is a character of
  ASCII, and two bytes are the two halves of a character's number; more are refused.
-/
import StaticSite.Config.Yaml.Cursor
import StaticSite.Config.Yaml.Token
import StaticSite.Text.Digit

namespace StaticSite.Config.Yaml

/-! ## Anchors and aliases -/

/-- Whether a character may stand in the name of an anchor. -/
def isAnchorPart (c : Char) : Bool := !isSpace c && !isFlowMark c && c != '\ufeff'

/-- Reads a name behind the mark of an anchor or alias. -/
def readAnchorName (c : Cursor) : Option (String × Cursor) :=
  match (c.skip 1).skipWhile isAnchorPart with
  | ([], _) => none
  | (name, c) => some (String.ofList name, c)

/-! ## The characters of tags -/

/-- Whether a character may stand in a tag that is written in full. -/
def isTagPart (c : Char) : Bool := isWordPart c || "#;/?:@&=+$,.!~*'()[]%".toList.contains c

/-- Whether a character may stand in a tag behind its handle. -/
def isSuffixPart (c : Char) : Bool := isTagPart c && !isFlowMark c && c != '!'

/-- The byte that two hexadecimal digits behind a percent sign are. -/
def byteOf? : List Char → Option Nat
  | '%' :: a :: b :: _ => do return (← Text.digit? 16 a) * 16 + (← Text.digit? 16 b)
  | _ => none

/-- Reads a character written as bytes: the character, and how many characters it takes. -/
def readBytes (s : List Char) : Option (Char × Nat) := do
  let first ← byteOf? s
  if first < 0x80 then return (Char.ofNat first, 3)
  else if 0xC0 ≤ first ∧ first < 0xE0 then
    let second ← byteOf? (s.drop 3)
    let n := first * 0x100 + second
    if 0x80 ≤ second ∧ second < 0xC0 ∧ n.isValidChar then return (Char.ofNat n, 6) else none
  else none

/-- Reads characters of a class, of which some may be written as bytes. -/
def readTagText (isPart : Char → Bool) : Nat → Cursor → Option (List Char × Cursor)
  | 0, _ => none
  | fuel + 1, c =>
    match c.next? with
    | none => some ([], c)
    | some x =>
      if !isPart x then some ([], c)
      else if x == '%' then
        match readBytes c.rest with
        | some (x, n) => (readTagText isPart fuel (c.skip n)).map fun p => (x :: p.1, p.2)
        | none => none
      else (readTagText isPart fuel (c.skip 1)).map fun p => (x :: p.1, p.2)

/-! ## Tags -/

/-- Reads an exclamation mark, a word, and one more mark if it is there. -/
def readHandle (c : Cursor) : Option (List Char × Cursor) :=
  if c.sees '!' then
    let (word, c) := (c.skip 1).skipWhile isWordPart
    if c.sees '!' then some ('!' :: word ++ ['!'], c.skip 1) else some ('!' :: word, c)
  else none

/-- Whether a text is a handle, with a mark at either end. -/
def isHandle (s : List Char) : Bool := 2 ≤ s.length && s.getLast? == some '!'

/-- Reads a tag that is written in full. -/
def readFullTag (c : Cursor) : Option (Token × Cursor) :=
  match readTagText isTagPart c.fuel (c.skip 2) with
  | some (text, c) => if c.sees '>' then some (.tag "" (String.ofList text), c.skip 1) else none
  | none => none

/-- Reads a tag with a handle or without. -/
def readShortTag (c : Cursor) : Option (Token × Cursor) := do
  let (handle, c) ← readHandle c
  let (suffix, c) ← readTagText isSuffixPart c.fuel c
  if isHandle handle then
    if suffix.isEmpty then none
    else return (.tag (String.ofList handle) (String.ofList suffix), c)
  else
    let suffix := handle.drop 1 ++ suffix
    if suffix.isEmpty then return (.tag "" "!", c)
    else return (.tag "!" (String.ofList suffix), c)

/-- Reads a tag, behind which a space has to follow, or a mark of brackets or braces inside them. -/
def readTag (inFlow : Bool) (c : Cursor) : Option (Token × Cursor) :=
  match if (c.rest.drop 1).head? == some '<' then readFullTag c else readShortTag c with
  | some (tag, c) =>
    if beginsWithSpace c.rest || (inFlow && c.next?.any isFlowMark) then some (tag, c) else none
  | none => none

/-! ## Directives -/

/-- Reads one to nine digits. -/
def skipNumber (c : Cursor) : Option Cursor :=
  let (ds, c) := c.skipWhile Char.isDigit
  if 1 ≤ ds.length ∧ ds.length ≤ 9 then some c else none

/-- Reads the version of the format that a document is written in. -/
def readVersion (c : Cursor) : Option (Token × Cursor) := do
  let c ← skipNumber c.skipGaps
  if c.sees '.' then return (.versionDirective, ← skipNumber (c.skip 1)) else none

/-- Reads the start of tags that a handle stands for. -/
def readTagStart (c : Cursor) : Option (List Char × Cursor) :=
  if c.sees '!' then (readTagText isTagPart c.fuel (c.skip 1)).map fun p => ('!' :: p.1, p.2)
  else if c.next?.any isSuffixPart then readTagText isTagPart c.fuel c
  else none

/-- Reads a handle and the start of tags that it stands for. -/
def readTagDirective (c : Cursor) : Option (Token × Cursor) := do
  let (handle, c) ← readHandle c.skipGaps
  if isHandle handle || handle == ['!'] then
    let (start, c) ← readTagStart c.skipGaps
    if beginsWithSpace c.rest then
      return (.tagDirective (String.ofList handle) (String.ofList start), c)
    else none
  else none

/-- Reads a directive and the end of its line; one that is not known is passed over. -/
def readDirective (c : Cursor) : Option (Token × Cursor) := do
  let (name, c) := (c.skip 1).skipWhile isWordPart
  if name.isEmpty || !beginsWithSpace c.rest then none
  else
    let (token, c) ← match String.ofList name with
      | "YAML" => readVersion c
      | "TAG" => readTagDirective c
      | _ => some (.tagDirective "" "", c.skipLine)
    return (token, (← c.skipToLineEnd).skipBreak)

end StaticSite.Config.Yaml
