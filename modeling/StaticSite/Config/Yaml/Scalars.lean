/-
  YAML SCALARS: the written forms of a text.

  A text may stand as it is, in single or double quotes, or in a block of indented lines.  A line
  end inside the first three is FOLDED: one is read as a space, and of several all but the first
  count.  A block keeps its line ends, or folds those between two lines that do not begin with a
  gap; how it ends is for its header to say.

  Every reader starts at the first character of its form and gives the text and the place behind
  it.  `indent` is the column that the surrounding lines begin in, -1 if there are none.

  Numbered structure:
    §1  folding
    §2  plain text
    §3  text in quotes
    §4  blocks
-/
import StaticSite.Config.Yaml.Cursor
import StaticSite.Text.Digit

namespace StaticSite.Config.Yaml

/-! ## §1 Folding -/

/-- So many line ends, folded. -/
def folded (breaks : Nat) : List Char :=
  if breaks = 1 then [' '] else List.replicate (breaks - 1) '\n'

/-- What lies between two words of a text: gaps on one line, or the ends of lines. -/
inductive Between
  | gaps (run : List Char)
  | breaks (count : Nat)
deriving DecidableEq, Repr

/-- What is read for it. -/
def Between.text : Between → List Char
  | .gaps run => run
  | .breaks count => folded count

/-! ## §2 Plain text -/

/-- Whether a colon in front of a text separates a key from its value. -/
def endsKey (inFlow : Bool) (behind : List Char) : Bool :=
  beginsWithSpace behind || (inFlow && behind.head?.any isFlowMark)

/-- The plain characters up to a space, the end of a key, or a mark of brackets or braces. -/
def plainRun (inFlow : Bool) : List Char → List Char
  | [] => []
  | c :: rest =>
    if isSpace c || (c == ':' && endsKey inFlow rest) || (inFlow && isFlowMark c) then []
    else c :: plainRun inFlow rest

/-- Moves over the gaps and line ends between two words; a line with a tab where its indentation
    should be has to be empty. -/
def skipBetween (limit : Int) : Nat → Between → Cursor → Option (Between × Cursor)
  | 0, _, _ => none
  | fuel + 1, between, c =>
    match c.next? with
    | none => some (between, c)
    | some x =>
      if isBreak x then
        let count := match between with
          | .gaps _ => 1
          | .breaks count => count + 1
        skipBetween limit fuel (.breaks count) c.skipBreak
      else if isGap x then
        match between with
        | .gaps run =>
          let (more, c) := c.skipWhile isGap
          skipBetween limit fuel (.gaps (run ++ more)) c
        | .breaks count =>
          if x == '\t' && c.column < limit then
            c.skipToLineEnd.bind (skipBetween limit fuel (.breaks count))
          else skipBetween limit fuel (.breaks count) (c.skip 1)
      else some (between, c)

/-- Reads the words of a plain text; `between` lies before the next one. -/
def readWords (inFlow : Bool) (limit : Int) :
    Nat → Between → Cursor → Option (List Char × Cursor)
  | 0, _, _ => none
  | fuel + 1, between, c =>
    if c.atDocumentMark || c.sees '#' then some ([], c)
    else if inFlow && c.sees '-' && (c.rest.drop 1).head?.any isFlowMark then none
    else
      let run := plainRun inFlow c.rest
      if run.isEmpty then some ([], c)
      else
        let c := c.skip run.length
        if c.next?.any isSpace then
          match skipBetween limit c.fuel (.gaps []) c with
          | none => none
          | some (behind, c) =>
            if !inFlow && c.column < limit then some (between.text ++ run, c)
            else (readWords inFlow limit fuel behind c).map fun p =>
              (between.text ++ run ++ p.1, p.2)
        else some (between.text ++ run, c)

/-- Reads a plain text, which stands to the right of the surrounding lines. -/
def readPlain (inFlow : Bool) (indent : Int) (c : Cursor) : Option (String × Cursor) :=
  if inFlow && c.column < indent + 1 then none
  else (readWords inFlow (indent + 1) c.fuel (.gaps []) c).map fun p => (String.ofList p.1, p.2)

/-! ## §3 Text in quotes -/

/-- The text up to a space or the closing single quote, and how many characters it takes; a quote
    inside is written twice. -/
def singleRun : List Char → List Char × Nat
  | '\x27' :: '\x27' :: rest =>
    let (text, n) := singleRun rest
    ('\x27' :: text, n + 2)
  | c :: rest =>
    if c == '\x27' || isSpace c then ([], 0)
    else
      let (text, n) := singleRun rest
      (c :: text, n + 1)
  | [] => ([], 0)

/-- The character that a character after a backslash stands for. -/
def escaped? : Char → Option Char
  | '0' => some '\x00'
  | 'a' => some '\x07'
  | 'b' => some '\x08'
  | 't' => some '\t'
  | '\t' => some '\t'
  | 'n' => some '\n'
  | 'v' => some '\x0b'
  | 'f' => some '\x0c'
  | 'r' => some '\r'
  | 'e' => some '\x1b'
  | ' ' => some ' '
  | '"' => some '"'
  | '/' => some '/'
  | '\\' => some '\\'
  | 'N' => some '\u0085'
  | '_' => some '\u00a0'
  | 'L' => some '\u2028'
  | 'P' => some '\u2029'
  | _ => none

/-- The character with a number in hexadecimal digits. -/
def characterOf? (ds : List Char) : Option Char :=
  let n := Text.valueOf 16 ds
  if ds.all (Text.isDigit 16) && n.isValidChar then some (Char.ofNat n) else none

/-- One more character in front of a run that takes so many characters more. -/
def moreRun (c : Option Char) (taken : Nat) (run : Option (List Char × Nat)) :
    Option (List Char × Nat) := do
  let c ← c
  let (text, n) ← run
  return (c :: text, n + taken)

/-- The text up to a space, the closing double quote or a backslash at the end of a line, and how
    many characters it takes. -/
def doubleRun : List Char → Option (List Char × Nat)
  | '\\' :: 'x' :: a :: b :: rest => moreRun (characterOf? [a, b]) 4 (doubleRun rest)
  | '\\' :: 'u' :: a :: b :: c :: d :: rest =>
    moreRun (characterOf? [a, b, c, d]) 6 (doubleRun rest)
  | '\\' :: 'U' :: a :: b :: c :: d :: e :: f :: g :: h :: rest =>
    moreRun (characterOf? [a, b, c, d, e, f, g, h]) 10 (doubleRun rest)
  | '\\' :: c :: rest =>
    if isBreak c then some ([], 0) else moreRun (escaped? c) 2 (doubleRun rest)
  | c :: rest =>
    if c == '"' || isSpace c then some ([], 0)
    else if c == '\\' then none
    else moreRun (some c) 1 (doubleRun rest)
  | [] => some ([], 0)

/-- Moves over the gaps and line ends between two words in quotes; no tab stands where the
    indentation should be. -/
def skipBetweenQuoted (indent : Int) : Nat → Between → Cursor → Option (Between × Cursor)
  | 0, _, _ => none
  | fuel + 1, between, c =>
    match c.next? with
    | none => some (between, c)
    | some x =>
      if isBreak x then
        let count := match between with
          | .gaps _ => 1
          | .breaks count => count + 1
        skipBetweenQuoted indent fuel (.breaks count) c.skipBreak
      else if isGap x then
        match between with
        | .gaps run => skipBetweenQuoted indent fuel (.gaps (run ++ [x])) (c.skip 1)
        | .breaks count =>
          if x == '\t' && c.column < indent then none
          else skipBetweenQuoted indent fuel (.breaks count) (c.skip 1)
      else some (between, c)

/-- Reads a text in quotes behind the opening one, up to and over the closing one. -/
def readQuotedWords (quote : Char) (indent : Int) :
    Nat → Cursor → Option (List Char × Cursor)
  | 0, _ => none
  | fuel + 1, c =>
    if c.atDocumentMark || c.rest.isEmpty || c.column < indent then none
    else
      match if quote == '"' then doubleRun c.rest else some (singleRun c.rest) with
      | none => none
      | some (run, n) =>
        let c := c.skip n
        -- a backslash takes the end of its line away: only the line ends behind it count
        let (joined, c) := if quote == '"' && c.sees '\\' then (true, (c.skip 1).skipBreak)
          else (false, c)
        if c.sees quote then some (run, c.skip 1)
        else
          match skipBetweenQuoted indent c.fuel (if joined then .breaks 0 else .gaps []) c with
          | none => none
          | some (between, c) =>
            let gap := match joined, between with
              | true, .breaks count => List.replicate count '\n'
              | _, between => between.text
            (readQuotedWords quote indent fuel c).map fun p => (run ++ gap ++ p.1, p.2)

/-- Whether something that may follow a text in quotes stands here; `line` is where it began. -/
def mayFollowQuoted (inFlow : Bool) (line : Nat) (c : Cursor) : Bool :=
  match c.next? with
  | none => true
  | some x =>
    isBreak x || (inFlow && (x == ',' || x == '\x7d' || x == ']'))
      || (x == ':' && (inFlow || c.line == line))

/-- Reads a text in quotes, and the gaps and the remark behind it. -/
def readQuoted (quote : Char) (inFlow : Bool) (indent : Int) (c : Cursor) :
    Option (String × Cursor) :=
  match readQuotedWords quote indent c.fuel (c.skip 1) with
  | none => none
  | some (text, behind) =>
    match behind.skipRemark with
    | some (_, behind) =>
      if mayFollowQuoted inFlow c.line behind then some (String.ofList text, behind) else none
    | none => none

/-! ## §4 Blocks -/

/-- What becomes of the line ends behind the last line of a block. -/
inductive Chomping
  | strip
  | clip
  | keep
deriving DecidableEq, Repr

/-- The chomping that a sign stands for. -/
def Chomping.ofSign? : Char → Option Chomping
  | '+' => some .keep
  | '-' => some .strip
  | _ => none

/-- The header of a block behind its mark: how it ends, and by how many columns it is indented, in
    either order; nothing if the columns are none. -/
def readBlockHeader (c : Cursor) : Option (Chomping × Option Nat × Cursor) :=
  let sign (c : Cursor) : Option Chomping := c.next?.bind Chomping.ofSign?
  let digit (c : Cursor) : Option Nat := c.next?.bind (Text.digit? 10)
  match sign c, digit c with
  | some chomping, _ =>
    let c := c.skip 1
    match digit c with
    | some 0 => none
    | some n => some (chomping, some n, c.skip 1)
    | none => some (chomping, none, c)
  | none, some 0 => none
  | none, some n =>
    let c := c.skip 1
    match sign c with
    | some chomping => some (chomping, some n, c.skip 1)
    | none => some (.clip, some n, c)
  | none, none => some (.clip, none, c)

/-- Moves over empty lines and the indentation of the next line: the number of line ends. -/
def skipIndent (indent : Nat) : Nat → Nat → Cursor → Nat × Cursor
  | 0, breaks, c => (breaks, c)
  | fuel + 1, breaks, c =>
    let spaces := (c.rest.take (indent - c.column)).takeWhile (· == ' ')
    let c := c.skip spaces.length
    if c.next?.any isBreak then skipIndent indent fuel (breaks + 1) c.skipBreak else (breaks, c)

/-- Moves over the empty lines in front of a block and the spaces of its first line: the number of
    line ends, and the greatest column that spaces lead to. -/
def skipFirstIndent : Nat → Nat → Nat → Cursor → Nat × Nat × Cursor
  | 0, breaks, widest, c => (breaks, widest, c)
  | fuel + 1, breaks, widest, c =>
    let (_, c) := c.skipWhile (· == ' ')
    let widest := max widest c.column
    if c.next?.any isBreak then skipFirstIndent fuel (breaks + 1) widest c.skipBreak
    else (breaks, widest, c)

/-- What stands before a line of a block: the line end of the line before it, if there is one, and
    so many empty lines. -/
structure BlockGap where
  hasBreak : Bool
  empty : Nat

/-- The line ends as they are. -/
def BlockGap.kept (g : BlockGap) : List Char :=
  List.replicate ((if g.hasBreak then 1 else 0) + g.empty) '\n'

/-- The line ends, folded. -/
def BlockGap.folded (g : BlockGap) : List Char :=
  if g.empty = 0 then [' '] else List.replicate g.empty '\n'

/-- Reads the lines of a block: its text, what stands behind the last line, and the place there.
    `afterGap` says that the line before began with a gap. -/
def readBlockLines (fold : Bool) (indent : Nat) :
    Nat → BlockGap → Bool → Cursor → List Char × BlockGap × Cursor
  | 0, gap, _, c => ([], gap, c)
  | fuel + 1, gap, afterGap, c =>
    if c.column ≠ indent || c.rest.isEmpty || (indent = 0 && c.atDocumentMark) then ([], gap, c)
    else
      let onGap := c.next?.any isGap
      let front := if fold && gap.hasBreak && !afterGap && !onGap then gap.folded else gap.kept
      let (line, c) := c.skipWhile fun _ => true
      if c.rest.isEmpty then (front ++ line, ⟨false, 0⟩, c)
      else
        let (empty, c) := skipIndent indent c.fuel 0 c.skipBreak
        let (text, rest) := readBlockLines fold indent fuel ⟨true, empty⟩ onGap c
        (front ++ line ++ text, rest)

/-- The text of a block in which no line stands before the end of the document: `breaks` empty
    lines behind its header, whose own line may have no end. -/
def emptyBlock (chomping : Chomping) (headerEnds : Bool) (breaks : Nat) : List Char :=
  match chomping with
  | .strip => []
  | .clip => if headerEnds then ['\n'] else []
  | .keep => if headerEnds then List.replicate (max 1 breaks) '\n' else []

/-- Reads a block from its mark on; `>` folds its lines. -/
def readBlock (fold : Bool) (indent : Int) (c : Cursor) : Option (String × Cursor) := do
  let (chomping, columns, c) ← readBlockHeader (c.skip 1)
  let c ← c.skipToLineEnd
  let headerEnds := !c.rest.isEmpty
  let c := c.skipBreak
  if c.sees '\t' then none
  else
    let (breaks, inner, c) := match columns with
      | some n =>
        let inner := (max indent 0).toNat + n
        let (breaks, c) := skipIndent inner c.fuel 0 c
        (breaks, inner, c)
      | none =>
        let (breaks, widest, c) := skipFirstIndent c.fuel 0 0 c
        (breaks, max widest (indent + 1).toNat, c)
    if c.rest.isEmpty then return (String.ofList (emptyBlock chomping headerEnds breaks), c)
    else if c.column < inner && indent < c.column then none
    else
      let (text, gap, c) := readBlockLines fold inner c.fuel ⟨false, breaks⟩ false c
      let lastBreak := if gap.hasBreak then ['\n'] else []
      let atEnd := if c.rest.isEmpty && max inner 1 ≤ c.column then ['\n'] else []
      let tail := match chomping with
        | .strip => []
        | .clip => lastBreak ++ atEnd
        | .keep => lastBreak ++ atEnd ++ List.replicate gap.empty '\n'
      return (String.ofList (text ++ tail), c)

example : (readBlock true 2 (.start ">-\n   a\n   b\n\n   c\n")).map (·.1) = some "a b\nc" := by
  decide +kernel

example : (readQuoted '"' false 0 (.start "\"a\\x41\n b\"")).map (·.1) = some "aA b" := by
  decide +kernel

end StaticSite.Config.Yaml
