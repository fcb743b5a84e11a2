/-
  YAML LAYOUT: from the text of a document to its tokens.

  Two things make this more than cutting a text into words.  Indentation: a stack of columns tells
  where blocks of lines begin and end.  And keys: what stands before a colon is a key, but that is
  seen only at the colon.  So every node that could be a key is remembered with its place among the
  tokens, and when the colon comes the token for a key is put there.

  `Draft` holds the state of reading, with the tokens found so far, last one first.  Each of its
  operations is one rule of the format; `Draft.step?` reads the next token by them.

  Numbered structure:
    §1  the state
    §2  columns
    §3  possible keys
    §4  space between tokens
    §5  tokens that mark structure
    §6  tokens with a text
    §7  the tokens of a text
-/
import StaticSite.Config.Yaml.Properties
import StaticSite.Config.Yaml.Scalars

namespace StaticSite.Config.Yaml

/-! ## §1 The state -/

/-- A column that lines begin in. -/
structure Indent where
  column : Int
  /-- Whether a block of lines begins there; if not, the column only bounds the text of a value. -/
  isBlock : Bool
deriving DecidableEq, Repr

/-- A node that may turn out to be a key. -/
structure PossibleKey where
  /-- The number of tokens before it. -/
  place : Nat
  line : Nat
  column : Nat
  index : Nat
  /-- Whether it has to be a key, because it begins a line of a block of keys. -/
  isRequired : Bool
deriving DecidableEq, Repr

/-- A document that is being read. -/
structure Draft where
  cursor : Cursor
  /-- The tokens found, last one first. -/
  done : List Token
  /-- The columns of the blocks that are open, inner ones first. -/
  indents : List Indent
  /-- What may be a key, for the place that is read and for each bracket and brace around it. -/
  keys : List (Option PossibleKey)
  /-- Whether a key may begin here. -/
  keyAllowed : Bool
  /-- The number of brackets and braces that are open. -/
  depth : Nat
  /-- The index at which a colon needs no space behind it. -/
  adjacentAt : Nat
  /-- Whether a brace has been opened since the last pair without braces was closed. -/
  sawBrace : Bool
  /-- For each open bracket, whether a pair without braces is open in it. -/
  pairOpen : List Bool

namespace Draft

/-- The state in front of a text. -/
def start (text : String) : Draft :=
  ⟨.start text, [], [], [none], true, 0, 0, false, []⟩

/-- Whether a bracket or brace is open. -/
def inFlow (d : Draft) : Bool := 0 < d.depth

/-- The column that the innermost open block begins in, -1 if none is open. -/
def indent (d : Draft) : Int := (d.indents.head?.map (·.column)).getD (-1)

/-- Adds a token. -/
def emit (d : Draft) (token : Token) : Draft := { d with done := token :: d.done }

/-- Puts a token behind the first so many. -/
def emitAt (d : Draft) (place : Nat) (token : Token) : Draft :=
  { d with done := d.done.insertIdx (d.done.length - place) token }

/-- Moves to a place in the text. -/
def moveTo (d : Draft) (c : Cursor) : Draft := { d with cursor := c }

/-- Says whether a key may begin next. -/
def allowKey (d : Draft) (allowed : Bool) : Draft := { d with keyAllowed := allowed }

/-! ## §2 Columns -/

/-- Drops the columns that lie to the right of one, innermost first; the blocks among them end. -/
def dropIndents (column : Int) : List Indent → List Token → List Indent × List Token
  | [], done => ([], done)
  | i :: rest, done =>
    if column < i.column then
      dropIndents column rest (if i.isBlock then .blockEnd :: done else done)
    else (i :: rest, done)

/-- Ends the blocks to the right of a column; inside brackets and braces none ends. -/
def unroll (d : Draft) (column : Int) : Draft :=
  if d.inFlow then d
  else
    let (indents, done) := dropIndents column d.indents d.done
    { d with indents, done }

/-- Drops the columns that begin no block. -/
def unrollBounds (d : Draft) : Draft :=
  { d with indents := d.indents.dropWhile fun i => !i.isBlock }

/-- Begins a block in a column, if that lies to the right of the block that is open; its token
    stands behind the first so many.  A column that begins no block makes room for it. -/
def roll (d : Draft) (column : Nat) (place : Nat) (token : Token) : Draft :=
  if d.inFlow then d
  else
    let d :=
      if d.indent ≤ column then
        match d.indents with
        | ⟨_, false⟩ :: rest => { d with indents := rest }
        | _ => d
      else d
    if d.indent < column then { d.emitAt place token with indents := ⟨column, true⟩ :: d.indents }
    else d

/-- Bounds the text of a value: it has to stand to the right of its block. -/
def bound (d : Draft) : Draft :=
  match d.indents with
  | ⟨column, true⟩ :: _ =>
    if d.inFlow then d else { d with indents := ⟨column + 1, false⟩ :: d.indents }
  | _ => d

/-! ## §3 Possible keys -/

/-- How far behind a key its colon may stand. -/
def keyReach : Nat := 1024

/-- What may be a key in the place that is read. -/
def key? (d : Draft) : Option PossibleKey := d.keys.head?.join

/-- Remembers that a key may begin here. -/
def saveKey (d : Draft) : Draft :=
  if d.keyAllowed then
    let c := d.cursor
    let isRequired :=
      !d.inFlow && d.indent == c.column && (d.indents.head?.any fun i => i.isBlock)
    { d with keys := some ⟨d.done.length, c.line, c.column, c.index, isRequired⟩ :: d.keys.drop 1 }
  else d

/-- Forgets what might have been a key; nothing if it had to be one. -/
def dropKey? (d : Draft) : Option Draft :=
  if d.key?.any (·.isRequired) then none else some { d with keys := none :: d.keys.drop 1 }

/-- Whether a key can no longer get its colon: that stands on another line, or too far behind. -/
def isStale (d : Draft) (key : PossibleKey) : Bool :=
  key.line < d.cursor.line || key.index + keyReach < d.cursor.index

/-- Forgets the keys that can no longer get a colon; nothing if one had to be a key.  Inside
    brackets and braces there is no such limit. -/
def dropStale? (d : Draft) : Option Draft :=
  if d.inFlow then some d
  else
    let stale (key : Option PossibleKey) : Bool := key.any d.isStale
    if d.keys.any fun key => stale key && key.any (·.isRequired) then none
    else some { d with keys := d.keys.map fun key => if stale key then none else key }

/-! ## §4 Space between tokens -/

/-- Moves over gaps, line ends and remarks.  Behind a line end a key may begin.  A line with a tab
    where its indentation should be has to be empty. -/
def skipSpace : Nat → Draft → Option Draft
  | 0, _ => none
  | fuel + 1, d =>
    let c := d.cursor
    match c.next? with
    | none => some d
    | some x =>
      if x == '\t' && !d.indents.isEmpty && c.inMargin && c.column < d.indent then
        c.skipToLineEnd.bind fun c => skipSpace fuel (d.moveTo c)
      else if isGap x then skipSpace fuel (d.moveTo (c.skip 1))
      else if isBreak x then
        skipSpace fuel ((d.moveTo c.skipBreak).allowKey (d.keyAllowed || !d.inFlow))
      else if x == '#' then skipSpace fuel (d.moveTo c.skipLine)
      else some d

/-- Moves to the next token. -/
def toNext? (d : Draft) : Option Draft := skipSpace d.cursor.fuel d

/-- Moves over gaps and a remark on this line. -/
def skipRemark? (d : Draft) : Option Draft := d.cursor.skipRemark.map fun p => d.moveTo p.2

/-- Moves over spaces, line ends and remarks; tabs are left. -/
def skipSpaces : Nat → Draft → Draft
  | 0, d => d
  | fuel + 1, d =>
    let c := d.cursor
    match c.next? with
    | none => d
    | some x =>
      if x == ' ' then skipSpaces fuel (d.moveTo (c.skip 1))
      else if isBreak x then
        skipSpaces fuel ((d.moveTo c.skipBreak).allowKey (d.keyAllowed || !d.inFlow))
      else if x == '#' then skipSpaces fuel (d.moveTo c.skipLine)
      else d

/-! ## §5 Tokens that mark structure -/

/-- The end of the text. -/
def readEnd? (d : Draft) : Option Draft :=
  if d.keys.any fun key => key.any (·.isRequired) then none
  else some (({ d with keys := d.keys.map fun _ => none }.unroll (-1)).emit .streamEnd)

/-- A directive. -/
def readDirective? (d : Draft) : Option Draft := do
  let d ← (d.unroll (-1)).dropKey?
  let (token, c) ← readDirective d.cursor
  return ((d.allowKey false).moveTo c).emit token

/-- The mark of a document's start, or of its end, behind which the line ends. -/
def readDocumentMark? (d : Draft) (token : Token) : Option Draft := do
  let d ← (d.unroll (-1)).dropKey?
  let d := ((d.allowKey false).moveTo (d.cursor.skip 3)).emit token
  if token = .documentEnd then return d.moveTo (← d.cursor.skipToLineEnd) else return d

/-- How many brackets and braces may be open at once. -/
def depthLimit : Nat := 255

/-- An opening bracket or brace. -/
def openFlow? (d : Draft) (isMapping : Bool) : Option Draft := do
  let d := d.saveKey.bound
  if d.depth = depthLimit then none
  else
    let d := { d with
      keys := none :: d.keys, depth := d.depth + 1, keyAllowed := true
      sawBrace := isMapping || d.sawBrace
      pairOpen := if isMapping then d.pairOpen else false :: d.pairOpen }
    let d ← (d.moveTo (d.cursor.skip 1)).skipRemark?
    return d.emit (if isMapping then .flowMappingStart else .flowSequenceStart)

/-- Closes a pair without braces, if one is open in the innermost bracket. -/
def closePair (d : Draft) : Draft :=
  match d.pairOpen with
  | true :: rest => { d.emit .flowMappingEnd with sawBrace := false, pairOpen := false :: rest }
  | _ => d

/-- A closing bracket or brace; a colon may follow at once. -/
def closeFlow? (d : Draft) (isMapping : Bool) : Option Draft := do
  let d ← d.dropKey?
  let d := { d with
    keys := if d.inFlow then d.keys.drop 1 else d.keys, depth := d.depth - 1, keyAllowed := false }
  let d := if isMapping then d else
    let d := d.closePair
    { d with pairOpen := d.pairOpen.drop 1 }
  let d ← (d.moveTo (d.cursor.skip 1)).skipRemark?
  let d := if d.inFlow then { d with adjacentAt := d.cursor.index } else d
  return d.emit (if isMapping then .flowMappingEnd else .flowSequenceEnd)

/-- A comma. -/
def readComma? (d : Draft) : Option Draft := do
  let d := ((← d.dropKey?).allowKey true).closePair
  return (← (d.moveTo (d.cursor.skip 1)).skipRemark?).emit .flowEntry

/-- A hyphen in front of an item. -/
def readHyphen? (d : Draft) : Option Draft :=
  if d.inFlow || !d.keyAllowed then none
  else do
    let column := d.cursor.column
    let d := (d.moveTo (d.cursor.skip 1)).roll column d.done.length .blockSequenceStart
    let (gaps, c) ← d.cursor.skipRemark
    if gaps.contains '\t' && c.sees '-' && beginsWithSpace (c.rest.drop 1) then none
    else
      let d := d.moveTo c
      let d := if c.next?.any fun x => isBreak x || isFlowMark x then d.bound else d
      return ((← d.dropKey?).allowKey true).emit .blockEntry

/-- A question mark in front of a key. -/
def readQuestion? (d : Draft) : Option Draft :=
  if !d.inFlow && !d.keyAllowed then none
  else do
    let d := if d.inFlow then { d with sawBrace := true }
      else d.roll d.cursor.column d.done.length .blockMappingStart
    let d := (← d.dropKey?).allowKey !d.inFlow
    let d := d.moveTo (d.cursor.skip 1)
    let behind := skipSpaces d.cursor.fuel d
    if behind.cursor.sees '\t' || !(d.cursor.next?.any fun x => x == ' ' || isBreak x) then none
    else return behind.emit .key

/-- Puts the token for a key before the node that has become one. -/
def insertKey? (d : Draft) (key : PossibleKey) (isPair : Bool) (line : Nat) : Option Draft :=
  let d := d.emitAt key.place .key
  if isPair && key.line < line then none
  else
    let d := if isPair then d.emitAt key.place .flowMappingStart else d
    let d := (d.roll key.column key.place .blockMappingStart).bound
    some ({ d with keys := none :: d.keys.drop 1 }.allowKey false)

/-- A colon in front of a value.  In a bracket it opens a pair, if no brace has been opened. -/
def readColon? (d : Draft) : Option Draft := do
  let column := d.cursor.column
  let line := d.cursor.line
  let isPair := !d.pairOpen.isEmpty && !d.sawBrace
  let d := if isPair then { d with pairOpen := true :: d.pairOpen.drop 1 } else d
  let d := d.moveTo (d.cursor.skip 1)
  let c ← if d.cursor.sees '\t' then
      match d.cursor.skipRemark with
      | some (gaps, c) =>
        if !gaps.contains ' ' && c.next?.any isWordPart then none else some c
      | none => none
    else some d.cursor
  let d := d.moveTo c
  match d.key? with
  | some key => return (← d.insertKey? key isPair line).emit .value
  | none =>
    let d := if isPair then d.emit .flowMappingStart else d
    if d.inFlow then return (d.bound.allowKey false).emit .value
    else if !d.keyAllowed then none
    else
      return ((d.roll column d.done.length .blockMappingStart).bound.allowKey true).emit .value

/-! ## §6 Tokens with a text -/

/-- A node that may be a key and behind which none may begin. -/
def readNode? (d : Draft) (read : Cursor → Option (Token × Cursor)) : Option Draft :=
  let d := d.saveKey.allowKey false
  (read d.cursor).map fun p => (d.moveTo p.2).emit p.1

/-- A plain text.  A key may begin behind it if its last line has ended. -/
def readPlain? (d : Draft) : Option Draft :=
  let d := (d.saveKey.allowKey false).unrollBounds
  (readPlain d.inFlow d.indent d.cursor).map fun p =>
    ((d.moveTo p.2).allowKey p.2.inMargin).emit (.scalar true p.1)

/-- A text in quotes; inside brackets and braces a colon may follow at once. -/
def readQuoted? (d : Draft) (quote : Char) : Option Draft := do
  let d := d.saveKey.allowKey false
  let (text, c) ← readQuoted quote d.inFlow d.indent d.cursor
  let d ← (d.moveTo c).toNext?
  return { d with adjacentAt := d.cursor.index }.emit (.scalar false text)

/-- A block of lines. -/
def readBlock? (d : Draft) (fold : Bool) : Option Draft :=
  let d := (d.saveKey.allowKey true).unrollBounds
  (readBlock fold d.indent d.cursor).map fun p => (d.moveTo p.2).emit (.scalar false p.1)

/-! ## §7 The tokens of a text -/

/-- Whether a colon here separates a key from its value. -/
def atColon (d : Draft) : Bool :=
  d.cursor.sees ':' && (endsKey d.inFlow (d.cursor.rest.drop 1)
    || (d.inFlow && d.cursor.index == d.adjacentAt))

/-- Reads the token that begins with a character. -/
def readMarked? (d : Draft) (first : Char) : Option Draft :=
  let isAlone := beginsWithSpace (d.cursor.rest.drop 1)
  match first with
  | '[' => d.openFlow? false
  | '\x7b' => d.openFlow? true
  | ']' => d.closeFlow? false
  | '\x7d' => d.closeFlow? true
  | ',' => d.readComma?
  | '*' => d.readNode? fun c => (readAnchorName c).map fun p => (.alias p.1, p.2)
  | '&' => d.readNode? fun c => (readAnchorName c).map fun p => (.anchor p.1, p.2)
  | '!' => d.readNode? (readTag d.inFlow)
  | '\x27' => d.readQuoted? '\x27'
  | '"' => d.readQuoted? '"'
  | '%' | '@' | '\x60' => none
  | '-' => if isAlone then d.readHyphen? else d.readPlain?
  | '?' => if isAlone then d.readQuestion? else d.readPlain?
  | ':' => if d.atColon then d.readColon? else d.readPlain?
  | '|' => if d.inFlow then d.readPlain? else d.readBlock? false
  | '>' => if d.inFlow then d.readPlain? else d.readBlock? true
  | _ => d.readPlain?

/-- Reads the next token. -/
def step? (d : Draft) : Option Draft := do
  let d ← (← d.toNext?).dropStale?
  let d := d.unroll d.cursor.column
  match d.cursor.next? with
  | none => d.readEnd?
  | some first =>
    if d.cursor.column = 0 && first == '%' then d.readDirective?
    else if d.cursor.atMarks '-' then d.readDocumentMark? .documentStart
    else if d.cursor.atMarks '.' then d.readDocumentMark? .documentEnd
    else if d.cursor.column < d.indent then none
    else d.readMarked? first

/-- Reads tokens up to the end of the text; every other one takes a character at least. -/
def readAll : Nat → Draft → Option (List Token)
  | 0, _ => none
  | fuel + 1, d =>
    match d.step? with
    | none => none
    | some d => if d.done.head? = some .streamEnd then some d.done.reverse else readAll fuel d

end Draft

/-- The tokens of a text. -/
def tokens? (text : String) : Option (List Token) :=
  let d := Draft.start text
  d.readAll (d.cursor.fuel + 1)

example : tokens? "a: [b, c]\n" = some [.blockMappingStart, .key, .scalar true "a", .value,
    .flowSequenceStart, .scalar true "b", .flowEntry, .scalar true "c", .flowSequenceEnd,
    .blockEnd, .streamEnd] := by decide +kernel

end StaticSite.Config.Yaml
