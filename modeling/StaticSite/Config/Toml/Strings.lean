/-
  TOML STRINGS: the four kinds of quoted text.

  A string stands in double quotes, with escapes, or in single quotes, as it is; with one quote
  at each end it stays on its line, with three it may run over several.  A line end right behind
  three opening quotes does not count, and every line end inside is a single line feed.  In a
  string with escapes a backslash at the end of a line swallows the white space that follows.

  Each reader starts behind the opening quotes and gives the text and what follows the closing
  quotes.
-/
import StaticSite.Text.Digit

namespace StaticSite.Config.Toml

/-- The white space inside a line. -/
def isGap (c : Char) : Bool := c == ' ' || c == '\t'

/-- Characters that may stand in a document where nothing else is said: tab, and all that are no
    control characters of ASCII. -/
def isPlain (c : Char) : Bool := c == '\t' || (0x20 ≤ c.toNat && c.toNat != 0x7F)

/-- Drops a line end in front: a line feed, or a carriage return and a line feed. -/
def dropNewline? : List Char → Option (List Char)
  | '\n' :: rest => some rest
  | '\r' :: '\n' :: rest => some rest
  | _ => none

/-- Drops gaps and line ends in front; a carriage return alone is neither. -/
def skipLines : List Char → List Char
  | '\n' :: rest => skipLines rest
  | '\r' :: '\n' :: rest => skipLines rest
  | c :: rest => if isGap c then skipLines rest else c :: rest
  | [] => []

/-- The character with a code point written in hexadecimal digits. -/
def charOfHex? (ds : List Char) : Option Char :=
  let n := Text.valueOf 16 ds
  if ds.all (Text.isDigit 16) && (n < 0xD800 || (0xE000 ≤ n && n < 0x110000)) then
    some (Char.ofNat n)
  else none

/-- The character that a letter behind a backslash stands for. -/
def escaped? : Char → Option Char
  | 'b' => some '\x08'
  | 't' => some '\t'
  | 'n' => some '\n'
  | 'f' => some '\x0c'
  | 'r' => some '\r'
  | '"' => some '"'
  | '\\' => some '\\'
  | _ => none

/-- Reads an escape behind its backslash. -/
def readEscape : List Char → Option (Char × List Char)
  | 'u' :: rest =>
    if rest.length < 4 then none else (charOfHex? (rest.take 4)).map fun c => (c, rest.drop 4)
  | 'U' :: rest =>
    if rest.length < 8 then none else (charOfHex? (rest.take 8)).map fun c => (c, rest.drop 8)
  | c :: rest => (escaped? c).map fun x => (x, rest)
  | [] => none

/-- A backslash that ends its line, read behind the backslash: what stands on from there. -/
def foldedLine? (s : List Char) : Option (List Char) :=
  (dropNewline? (s.dropWhile isGap)).map skipLines

/-! ## What is left gets shorter -/

theorem length_dropNewline? {s rest : List Char} (h : dropNewline? s = some rest) :
    rest.length < s.length := by
  unfold dropNewline? at h
  split at h
  · cases h
    exact Nat.lt_succ_self _
  · cases h
    simp only [List.length_cons]
    omega
  · simp at h

theorem length_skipLines (s : List Char) : (skipLines s).length ≤ s.length := by
  fun_induction skipLines s with
  | case1 rest ih => simp; omega
  | case2 rest ih => simp; omega
  | case3 c rest _ _ hc ih => simp; omega
  | case4 => simp
  | case5 => simp

theorem length_readEscape {s rest : List Char} {c : Char} (h : readEscape s = some (c, rest)) :
    rest.length < s.length := by
  unfold readEscape at h
  split at h
  · split at h
    · simp at h
    · obtain ⟨x, -, hx⟩ := Option.map_eq_some_iff.1 h
      cases hx
      simp only [List.length_drop, List.length_cons]
      omega
  · split at h
    · simp at h
    · obtain ⟨x, -, hx⟩ := Option.map_eq_some_iff.1 h
      cases hx
      simp only [List.length_drop, List.length_cons]
      omega
  · obtain ⟨x, -, hx⟩ := Option.map_eq_some_iff.1 h
    cases hx
    exact Nat.lt_succ_self _
  · simp at h

theorem length_foldedLine? {s rest : List Char} (h : foldedLine? s = some rest) :
    rest.length < s.length := by
  obtain ⟨t, ht, rfl⟩ := Option.map_eq_some_iff.1 h
  have h1 := length_dropNewline? ht
  have h2 := length_skipLines t
  have h3 : (s.dropWhile isGap).length ≤ s.length := (List.dropWhile_suffix isGap).length_le
  omega

/-! ## The readers -/

/-- Reads a string in single quotes on one line. -/
def readLiteral : List Char → Option (List Char × List Char)
  | '\x27' :: rest => some ([], rest)
  | c :: rest => if isPlain c then (readLiteral rest).map fun p => (c :: p.1, p.2) else none
  | [] => none

/-- Reads a string in double quotes on one line; `done` holds what was read, last one first. -/
def readBasic (done : List Char) (s : List Char) : Option (List Char × List Char) :=
  match s with
  | [] => none
  | '"' :: rest => some (done.reverse, rest)
  | '\\' :: rest =>
    match _h : readEscape rest with
    | some (c, after) => readBasic (c :: done) after
    | none => none
  | c :: rest => if isPlain c then readBasic (c :: done) rest else none
termination_by s.length
decreasing_by
  · exact Nat.lt_succ_of_lt (length_readEscape ‹_›)
  · exact Nat.lt_succ_self _

/-- Closing quotes, three of them, with up to two that belong to the text in front. -/
def closing? (quote : Char) (s : List Char) : Option (List Char × List Char) :=
  let run := (s.takeWhile (· == quote)).length
  if run < 3 then none
  else
    let own := min (run - 3) 2
    some (List.replicate own quote, s.drop (own + 3))

/-- Reads a piece of a string of several lines: the text that it stands for, and the rest.  With
    `escapes` a backslash begins an escape or swallows the end of its line. -/
def readPiece (escapes : Bool) : List Char → Option (List Char × List Char)
  | '\n' :: rest => some (['\n'], rest)
  | '\r' :: '\n' :: rest => some (['\n'], rest)
  | c :: rest =>
    if escapes && c == '\\' then
      match foldedLine? rest with
      | some after => some ([], after)
      | none => (readEscape rest).map fun p => ([p.1], p.2)
    else if isPlain c then some ([c], rest) else none
  | [] => none

theorem length_readPiece {escapes : Bool} {s text rest : List Char}
    (h : readPiece escapes s = some (text, rest)) : rest.length < s.length := by
  unfold readPiece at h
  split at h
  · cases h
    exact Nat.lt_succ_self _
  · cases h
    simp only [List.length_cons]
    omega
  · split at h
    · split at h
      · cases h
        exact Nat.lt_succ_of_lt (length_foldedLine? ‹_›)
      · obtain ⟨p, hp, heq⟩ := Option.map_eq_some_iff.1 h
        cases heq
        exact Nat.lt_succ_of_lt (length_readEscape hp)
    · split at h
      · cases h
        exact Nat.lt_succ_self _
      · simp at h
  · simp at h

/-- Reads a string over several lines; `done` holds what was read, last one first. -/
def readLong (quote : Char) (escapes : Bool) (done s : List Char) :
    Option (List Char × List Char) :=
  match closing? quote s with
  | some (own, rest) => some (done.reverse ++ own, rest)
  | none =>
    match _h : readPiece escapes s with
    | some (text, rest) => readLong quote escapes (text.reverse ++ done) rest
    | none => none
termination_by s.length
decreasing_by exact length_readPiece _h

/-- Drops the line end that may stand behind three opening quotes. -/
def afterOpening (s : List Char) : List Char := (dropNewline? s).getD s

/-- Reads a string of any kind, with its opening quotes. -/
def readString : List Char → Option (List Char × List Char)
  | '"' :: '"' :: '"' :: rest => readLong '"' true [] (afterOpening rest)
  | '"' :: rest => readBasic [] rest
  | '\x27' :: '\x27' :: '\x27' :: rest => readLong '\x27' false [] (afterOpening rest)
  | '\x27' :: rest => readLiteral rest
  | _ => none

end StaticSite.Config.Toml
