/-
  MULTIPART BODIES READ BACK: a receiver finds the parts that were put in.

  The receiver knows the boundary and nothing else.  It reads from the front to the back: a
  delimiter with a line break behind it opens a part, whose header block goes up to the first blank
  line and whose payload up to the next delimiter; a delimiter with two hyphens and a line break
  behind it has to be the end (`entitiesBehind`).  The bounds of a part are read off its
  Content-Range (`contentRange?`).

  The payload may hold anything but the delimiter.  That the delimiter of the next part is not found
  too early rests on its first byte, a carriage return, which stands in it nowhere else: it cannot
  begin in the payload and end behind it (`Text.cutAt?_append_mark`).  That the blank line is not
  found too early rests on the two lines of the header block, of which neither holds a carriage
  return and the second is not empty (`cutAt?_blankLine`).

  Numbered structure:
    §1  the receiver
    §2  one part
    §3  the header block of a part
    §4  a whole body
-/
import StaticSite.Http.Header
import StaticSite.Proofs.Stream.Download
import StaticSite.Proofs.Text.Lexemes
import StaticSite.Proofs.Text.Marks

set_option linter.unusedVariables false

namespace StaticSite.Stream

open Range (Spec Plan)

/-! ## §1 The receiver -/

/-- A line break. -/
def lineBreak : Text.Bytes := [13, 10]

/-- What stands in front of every part, and of the end. -/
def delimiter (boundary : String) : Text.Bytes := Text.utf8 ("\r\n--" ++ boundary)

/-- A part of a body: its header block, and the payload behind the blank line. -/
structure Entity where
  block : Text.Bytes
  payload : Text.Bytes
deriving DecidableEq, Repr

/-- The parts behind a delimiter, if there is nothing else. -/
def entitiesBehind (delimiter : Text.Bytes) (s : Text.Bytes) : Option (List Entity) :=
  if s = Text.utf8 "--\r\n" then some []
  else
    match opens : Text.dropStart? lineBreak s with
    | none => none
    | some inside =>
      match blank : Text.cutAt? (lineBreak ++ lineBreak) inside with
      | none => none
      | some (block, rest) =>
        match closes : Text.cutAt? delimiter rest with
        | none => none
        | some (payload, behind) => (entitiesBehind delimiter behind).map (⟨block, payload⟩ :: ·)
termination_by s.length
decreasing_by
  have hs := Text.dropStart?_eq_some_iff.1 opens
  have hinside := Text.eq_of_cutAt? blank
  have hrest := Text.eq_of_cutAt? closes
  rw [hs, hinside, hrest]
  simp only [lineBreak, List.length_append, List.length_cons, List.length_nil]
  omega

/-- A number in decimal. -/
def number? (ds : List Char) : Option Nat :=
  if ds ≠ [] ∧ ds.all Char.isDigit then some (natOfDigits ds) else none

/-- The first and the last position and the total that a Content-Range names. -/
def positions? (value : List Char) : Option (Nat × Nat × Nat) := do
  let ends ← Text.dropStart? "bytes ".toList value
  let (first, rest) ← Text.cut? '-' ends
  let (last, total) ← Text.cut? '/' rest
  return (← number? first, ← number? last, ← number? total)

/-- The lines of a header block.  A carriage return is always that of a line break. -/
def linesOf? (block : List Char) : Option (List (List Char)) :=
  match Text.fields '\r' block with
  | [] => none
  | first :: others => (others.mapM (Text.dropStart? ['\n'])).map (first :: ·)

/-- What a line says if it is a Content-Range; names of headers are the same in either case. -/
def rangeOfLine? (line : List Char) : Option (Nat × Nat × Nat) := do
  let (name, value) ← Text.cut? ':' line
  if Http.headerName? name = some "content-range" then positions? (Text.trim value) else none

/-- The Content-Range in a header block. -/
def contentRange? (block : Text.Bytes) : Option (Nat × Nat × Nat) := do
  let text ← Text.decode? block
  let lines ← linesOf? text
  lines.findSome? rangeOfLine?

/-- A part as it is received: the bounds it says it has, and its bytes. -/
structure Received where
  first : Nat
  last : Nat
  total : Nat
  payload : Text.Bytes
deriving DecidableEq, Repr

def Entity.received? (entity : Entity) : Option Received := do
  let (first, last, total) ← contentRange? entity.block
  return ⟨first, last, total, entity.payload⟩

/-- The parts of a body, if all of it is what a multipart body has to be. -/
def received? (boundary : String) (body : Text.Bytes) : Option (List Received) := do
  let behind ← Text.dropStart? (delimiter boundary) body
  let entities ← entitiesBehind (delimiter boundary) behind
  entities.mapM Entity.received?

/-! ## §2 One part -/

variable {boundary : String}

theorem delimiter_eq (boundary : String) : delimiter boundary = 13 :: Text.utf8 ("\n--" ++ boundary) := by
  rw [delimiter, Text.utf8_append, Text.utf8_append]
  rfl

/-- The carriage return of a delimiter is its only one. -/
theorem not_mem_delimiter (free : '\r' ∉ boundary.toList) : 13 ∉ Text.utf8 ("\n--" ++ boundary) := by
  have absent : '\r' ∉ ("\n--" ++ boundary).toList := by
    rw [String.toList_append, List.mem_append, not_or]
    exact ⟨by decide, free⟩
  exact Text.not_mem_utf8 (by decide) absent

/-- A blank line behind two lines is found behind the second, as that is not empty. -/
theorem cutAt?_blankLine {first second : Text.Bytes} (hfirst : 13 ∉ first) (hsecond : 13 ∉ second)
    (some : second ≠ []) (rest : Text.Bytes) :
    Text.cutAt? (lineBreak ++ lineBreak)
      (first ++ (lineBreak ++ second) ++ (lineBreak ++ lineBreak ++ rest))
      = .some (first ++ (lineBreak ++ second), rest) := by
  obtain ⟨b, others, rfl⟩ := List.exists_cons_of_ne_nil some
  have hb : b ≠ 13 := fun h => hsecond (h ▸ List.mem_cons_self)
  -- neither the line break nor its second byte begins the blank line
  have single : ∀ tail, ¬([13, 10, 13, 10] : Text.Bytes) <+: 13 :: 10 :: b :: tail := by
    rintro tail ⟨behind, whole⟩
    simp only [List.cons_append, List.nil_append, List.cons.injEq, true_and] at whole
    exact hb whole.1.symm
  have feed : ∀ tail, ¬([13, 10, 13, 10] : Text.Bytes) <+: 10 :: tail := by
    rintro tail ⟨behind, whole⟩
    simp only [List.cons_append, List.cons.injEq] at whole
    exact absurd whole.1 (by decide)
  show Text.cutAt? [13, 10, 13, 10]
    (first ++ (13 :: 10 :: b :: others) ++ ([13, 10, 13, 10] ++ rest)) = _
  rw [List.append_assoc, Text.cutAt?_append_of_not_mem hfirst, List.cons_append, List.cons_append,
    List.cons_append, Text.cutAt?_cons (single _), Text.cutAt?_cons (feed _), ← List.cons_append,
    Text.cutAt?_append_of_not_mem hsecond, Text.cutAt?_mark_append (List.cons_ne_nil _ _)]
  simp only [Option.map_some, List.append_nil]
  rfl

/-- A part is found, and what stands behind its delimiter is left. -/
theorem entitiesBehind_part (free : '\r' ∉ boundary.toList) {block payload : Text.Bytes}
    (hblock : ∀ rest, Text.cutAt? (lineBreak ++ lineBreak)
      (block ++ (lineBreak ++ lineBreak ++ rest)) = some (block, rest))
    (hpayload : ¬delimiter boundary <:+: payload) (behind : Text.Bytes) :
    entitiesBehind (delimiter boundary) (lineBreak ++ (block ++ (lineBreak ++ lineBreak
        ++ (payload ++ (delimiter boundary ++ behind)))))
      = (entitiesBehind (delimiter boundary) behind).map (⟨block, payload⟩ :: ·) := by
  have opens : ∀ inside, Text.dropStart? lineBreak (lineBreak ++ inside) = some inside :=
    fun inside => Text.dropStart?_eq_some_iff.2 rfl
  have closes : Text.cutAt? (delimiter boundary) (payload ++ (delimiter boundary ++ behind))
      = some (payload, behind) := by
    rw [delimiter_eq] at hpayload ⊢
    exact Text.cutAt?_append_mark (not_mem_delimiter free) hpayload behind
  have goesOn : ∀ inside, ¬lineBreak ++ inside = Text.utf8 "--\r\n" := by
    intro inside h
    exact absurd (List.cons.inj h).1 (by decide)
  rw [entitiesBehind, if_neg (goesOn _)]
  split
  next h => rw [opens] at h; cases h
  next inside h =>
    rw [opens] at h
    cases h
    split
    next h => rw [hblock] at h; cases h
    next found rest h =>
      rw [hblock] at h
      cases h
      split
      next h => rw [closes] at h; cases h
      next found rest h =>
        rw [closes] at h
        cases h
        rfl

theorem entitiesBehind_end (delimiter : Text.Bytes) :
    entitiesBehind delimiter (Text.utf8 "--\r\n") = some [] := by
  rw [entitiesBehind, if_pos rfl]

/-! ## §3 The header block -/

/-- The header block of the part for a range. -/
def headerBlock (contentType : String) (total : Nat) (ends : Nat × Nat) : Text.Bytes :=
  Text.utf8 ("Content-type: " ++ contentType)
    ++ (lineBreak ++ Text.utf8 ("Content-range: " ++ rangeText ends.1 ends.2 total))

theorem toList_rangeText (a b total : Nat) : (rangeText a b total).toList
    = "bytes ".toList ++ (Nat.toDigits 10 a ++ '-' :: (Nat.toDigits 10 b ++ '/' :: Nat.toDigits 10 total)) := by
  simp [rangeText]

theorem number?_toDigits (n : Nat) : number? (Nat.toDigits 10 n) = some n := by
  have digits : (Nat.toDigits 10 n).all Char.isDigit = true :=
    List.all_eq_true.2 isDigit_of_mem_toDigits
  rw [number?, if_pos ⟨Nat.toDigits_ne_nil, digits⟩, natOfDigits_toDigits]

/-- A character that is no digit is not among the digits of a number. -/
theorem positions?_rangeText (a b total : Nat) :
    positions? (rangeText a b total).toList = some (a, b, total) := by
  have starts : ∀ ends, Text.dropStart? "bytes ".toList ("bytes ".toList ++ ends) = some ends :=
    fun ends => Text.dropStart?_eq_some_iff.2 rfl
  rw [toList_rangeText, positions?, starts]
  simp only [Option.bind_eq_bind, Option.bind_some,
    Text.cut?_append_cons (not_mem_toDigits (show '-'.isDigit = false by decide) a),
    Text.cut?_append_cons (not_mem_toDigits (show '/'.isDigit = false by decide) b),
    number?_toDigits]
  rfl

/-- A line is a name and a value, with the first colon between them. -/
theorem rangeOfLine?_append {name : List Char} (free : ':' ∉ name) (value : List Char) :
    rangeOfLine? (name ++ ':' :: value) =
      if Http.headerName? name = some "content-range" then positions? (Text.trim value) else none := by
  rw [rangeOfLine?, Text.cut?_append_cons free]
  rfl

/-- The blank behind the colon is no part of the value. -/
theorem trim_rangeText (a b total : Nat) :
    Text.trim (' ' :: (rangeText a b total).toList) = (rangeText a b total).toList := by
  have bytes : Text.IsWord "bytes".toList := by decide
  have digits : Text.IsWord (Nat.toDigits 10 total) :=
    isWord_of_digits Nat.toDigits_ne_nil isDigit_of_mem_toDigits
  have parts : (rangeText a b total).toList = "bytes".toList
      ++ (' ' :: (Nat.toDigits 10 a ++ '-' :: (Nat.toDigits 10 b ++ ['/'])) ++ Nat.toDigits 10 total) := by
    rw [toList_rangeText]
    simp
  rw [parts]
  exact Text.trim_cons_blank (by decide) bytes digits _

/-- The Content-Range is read back from its line. -/
theorem rangeOfLine?_contentRange (a b total : Nat) :
    rangeOfLine? ("Content-range: " ++ rangeText a b total).toList = some (a, b, total) := by
  have line : ("Content-range: " ++ rangeText a b total).toList
      = "Content-range".toList ++ ':' :: ' ' :: (rangeText a b total).toList := by
    rw [String.toList_append]
    rfl
  rw [line, rangeOfLine?_append (by decide), if_pos (by decide), trim_rangeText,
    positions?_rangeText]

/-- No other line is taken for it. -/
theorem rangeOfLine?_contentType (contentType : String) :
    rangeOfLine? ("Content-type: " ++ contentType).toList = none := by
  have line : ("Content-type: " ++ contentType).toList
      = "Content-type".toList ++ ':' :: ' ' :: contentType.toList := by
    rw [String.toList_append]
    rfl
  rw [line, rangeOfLine?_append (by decide), if_neg (by decide)]

/-- Two lines with a line break between them. -/
theorem linesOf?_two {first second : List Char} (hfirst : '\r' ∉ first) (hsecond : '\r' ∉ second) :
    linesOf? (first ++ '\r' :: '\n' :: second) = some [first, second] := by
  have second' : '\r' ∉ '\n' :: second := by
    rw [List.mem_cons, not_or]
    exact ⟨by decide, hsecond⟩
  have feed : Text.dropStart? ['\n'] ('\n' :: second) = some second :=
    Text.dropStart?_eq_some_iff.2 rfl
  rw [linesOf?, Text.fields_append_cons, Text.fields_of_not_mem hfirst,
    Text.fields_of_not_mem second']
  simp only [List.singleton_append, List.mapM_cons, List.mapM_nil, feed, Option.pure_def,
    Option.bind_eq_bind, Option.bind_some, Option.map_some]

theorem not_mem_contentType {contentType : String} (free : '\r' ∉ contentType.toList) :
    '\r' ∉ ("Content-type: " ++ contentType).toList := by
  rw [String.toList_append, List.mem_append, not_or]
  exact ⟨by decide, free⟩

theorem not_mem_contentRange (a b total : Nat) :
    '\r' ∉ ("Content-range: " ++ rangeText a b total).toList := by
  have digits : ∀ n, '\r' ∉ Nat.toDigits 10 n := not_mem_toDigits (by decide)
  rw [String.toList_append, toList_rangeText]
  simp only [List.mem_append, List.mem_cons, not_or]
  exact ⟨by decide, by decide, digits a, by decide, digits b, by decide, digits total⟩

/-- The header block says where the part stands, whatever the media type is. -/
theorem contentRange?_headerBlock {contentType : String} (free : '\r' ∉ contentType.toList)
    (total : Nat) (ends : Nat × Nat) :
    contentRange? (headerBlock contentType total ends) = some (ends.1, ends.2, total) := by
  obtain ⟨a, b⟩ := ends
  have block : headerBlock contentType total (a, b) = Text.encode
      (("Content-type: " ++ contentType).toList
        ++ '\r' :: '\n' :: ("Content-range: " ++ rangeText a b total).toList) := by
    rw [Text.encode_append]
    rfl
  rw [contentRange?, block, Text.decode?_encode]
  simp only [Option.bind_eq_bind, Option.bind_some]
  rw [linesOf?_two (not_mem_contentType free) (not_mem_contentRange a b total)]
  simp only [Option.bind_some]
  rw [List.findSome?_cons, rangeOfLine?_contentType, List.findSome?_cons, rangeOfLine?_contentRange]

/-- It ends at the first blank line. -/
theorem cutAt?_headerBlock {contentType : String} (free : '\r' ∉ contentType.toList) (total : Nat)
    (ends : Nat × Nat) (rest : Text.Bytes) :
    Text.cutAt? (lineBreak ++ lineBreak)
      (headerBlock contentType total ends ++ (lineBreak ++ lineBreak ++ rest))
      = some (headerBlock contentType total ends, rest) := by
  have first := Text.not_mem_utf8 (show '\r'.toNat < 0x80 by decide) (not_mem_contentType free)
  have second := Text.not_mem_utf8 (show '\r'.toNat < 0x80 by decide)
    (not_mem_contentRange ends.1 ends.2 total)
  have some : Text.utf8 ("Content-range: " ++ rangeText ends.1 ends.2 total) ≠ [] := by
    rw [Text.utf8_append]
    exact List.append_ne_nil_of_left_ne_nil (by decide) _
  exact cutAt?_blankLine first second some rest

/-! ## §4 A whole body -/

/-- What stands behind the first delimiter of a body. -/
def bodyBehind (boundary contentType : String) (total : Nat) (data : Text.Bytes) :
    List (Nat × Nat) → Text.Bytes
  | [] => Text.utf8 "--\r\n"
  | ends :: rest =>
    lineBreak ++ (headerBlock contentType total ends ++ (lineBreak ++ lineBreak
      ++ (stretch data ends.1 (ends.2 + 1 - ends.1)
        ++ (delimiter boundary ++ bodyBehind boundary contentType total data rest))))

theorem multipartText_eq (boundary contentType : String) (total : Nat) (data : Text.Bytes)
    (ranges : List (Nat × Nat)) : multipartText boundary contentType total data ranges
      = delimiter boundary ++ bodyBehind boundary contentType total data ranges := by
  induction ranges with
  | nil =>
    rw [multipartText, List.flatMap_nil, List.nil_append, Text.utf8_append]
    rfl
  | cons ends rest ih =>
    have behind : multipartText boundary contentType total data (ends :: rest)
        = partText boundary contentType total data ends
          ++ multipartText boundary contentType total data rest := by
      rw [multipartText, List.flatMap_cons, List.append_assoc]
      rfl
    rw [behind, ih, partText, announcement, bodyBehind, headerBlock, delimiter]
    simp only [Text.utf8_append, List.append_assoc]
    rfl

/-- The part that is received for a range. -/
def receivedPart (total : Nat) (data : Text.Bytes) (ends : Nat × Nat) : Received :=
  ⟨ends.1, ends.2, total, stretch data ends.1 (ends.2 + 1 - ends.1)⟩

/-- A multipart body falls into its parts.  By induction on the ranges. -/
theorem entitiesBehind_bodyBehind {contentType : String} (hboundary : '\r' ∉ boundary.toList)
    (htype : '\r' ∉ contentType.toList) (total : Nat) {data : Text.Bytes} {ranges : List (Nat × Nat)}
    (free : ∀ ends ∈ ranges, ¬delimiter boundary <:+: stretch data ends.1 (ends.2 + 1 - ends.1)) :
    entitiesBehind (delimiter boundary) (bodyBehind boundary contentType total data ranges)
      = some (ranges.map fun ends => ⟨headerBlock contentType total ends,
          stretch data ends.1 (ends.2 + 1 - ends.1)⟩) := by
  induction ranges with
  | nil => exact entitiesBehind_end (delimiter boundary)
  | cons ends rest ih =>
    obtain ⟨hends, hrest⟩ := List.forall_mem_cons.1 free
    rw [bodyBehind, entitiesBehind_part hboundary (cutAt?_headerBlock htype total ends) hends,
      ih hrest]
    rfl

theorem mapM_received? {contentType : String} (htype : '\r' ∉ contentType.toList) (total : Nat)
    (data : Text.Bytes) (ranges : List (Nat × Nat)) :
    (ranges.map fun ends => (⟨headerBlock contentType total ends,
        stretch data ends.1 (ends.2 + 1 - ends.1)⟩ : Entity)).mapM Entity.received?
      = some (ranges.map (receivedPart total data)) := by
  induction ranges with
  | nil => rfl
  | cons ends rest ih =>
    have first : (⟨headerBlock contentType total ends,
        stretch data ends.1 (ends.2 + 1 - ends.1)⟩ : Entity).received?
          = some (receivedPart total data ends) := by
      rw [Entity.received?, contentRange?_headerBlock htype]
      rfl
    rw [List.map_cons, List.mapM_cons, first, ih]
    rfl

theorem received?_multipartText {contentType : String} (hboundary : '\r' ∉ boundary.toList)
    (htype : '\r' ∉ contentType.toList) (total : Nat) {data : Text.Bytes} {ranges : List (Nat × Nat)}
    (free : ∀ ends ∈ ranges, ¬delimiter boundary <:+: stretch data ends.1 (ends.2 + 1 - ends.1)) :
    received? boundary (multipartText boundary contentType total data ranges)
      = some (ranges.map (receivedPart total data)) := by
  have starts : Text.dropStart? (delimiter boundary)
      (multipartText boundary contentType total data ranges)
        = some (bodyBehind boundary contentType total data ranges) :=
    Text.dropStart?_eq_some_iff.2 (multipartText_eq boundary contentType total data ranges)
  rw [received?, starts]
  simp only [Option.bind_eq_bind, Option.bind_some]
  rw [entitiesBehind_bodyBehind hboundary htype total free]
  exact mapM_received? htype total data ranges

variable {F : Type} [ByteSource F] {At : F → Nat → Prop}

/-- The parts of a plan, streamed from a file that stays as it is, are received as they were asked
    for: one for each spec that is satisfiable, in order, with its bounds and its bytes, and nothing
    else.  The slices may hold anything but the delimiter itself; the bounds of a spec may be out of
    order, as long as there is a slice between them at all.  There is no plan exactly if no spec is
    satisfiable; nothing overflows, as the length of the body is a word. -/
theorem received_of_plan {data : Text.Bytes} (prompt : Prompt data At) {file : F} (opened : At file 0)
    {specs : List Spec} {total : UInt64} (uncrossed : ∀ spec ∈ specs, spec.Uncrossed total.toNat)
    (inside : total.toNat ≤ data.length) {boundary contentType : String}
    (hboundary : '\r' ∉ boundary.toList) (htype : '\r' ∉ contentType.toList)
    (free : ∀ ends ∈ specs.filterMap (·.clip total.toNat),
      ¬delimiter boundary <:+: stretch data ends.1 (ends.2 + 1 - ends.1))
    (small : bodyLength boundary contentType total.toNat (specs.filterMap (·.clip total.toNat))
      < UInt64.size) :
    let ranges := specs.filterMap (·.clip total.toNat)
    (∀ spec ∈ specs, ∃ range, spec.resolve total = .ok range ∧
      range.isSatisfiable = (spec.clip total.toNat).isSome) ∧
    match Plan.build specs total contentType boundary with
    | .ok none => ranges = []
    | .ok (some plan) =>
      let body := Feed.ofProducer (Producer.multiple file plan.parts)
      ranges ≠ [] ∧ body.Delivers body.drain ∧ body.drain.failure = none ∧
      received? boundary body.drain.bytes = some (ranges.map (receivedPart total.toNat data))
    | .error _ => False := by
  intro ranges
  constructor
  · intro spec hspec
    exact Range.exists_isSatisfiable_eq (uncrossed spec hspec)
  · have built := built_of_uncrossed contentType boundary uncrossed
    generalize Plan.build specs total contentType boundary = plan at built
    cases built with
    | nothing none => exact none
    | overflow some long => exact absurd small (Nat.not_lt.2 long)
    | @plan slices length some lays =>
      obtain ⟨delivers, -, unfailed, content⟩ := drain_of_prompt prompt
        (ready_multipart boundary slices) (announced_multipart lays) (fits_multipart lays inside) opened
      refine ⟨some, delivers, unfailed, ?_⟩
      have bytes := content.trans (rest_multipart lays)
      exact (congrArg (received? boundary) bytes).trans
        (received?_multipartText hboundary htype total.toNat free)

/-- Three ranges of a file with line breaks and what looks like a delimiter at their borders, one of
    the ranges empty, and a range behind the end. -/
theorem received_of_deceptive_file :
    let data : Text.Bytes := Text.utf8 "\r\n--\r\n--bc\r\n\r\n-"
    let file : FaultyFile := ⟨.ofContent data, some 3, none⟩
    let specs : List Spec :=
      [⟨some 0, some 9⟩, ⟨none, some 6⟩, ⟨some 5, some 4⟩, ⟨some 15, none⟩]
    let ranges := specs.filterMap (·.clip (15 : UInt64).toNat)
    (∀ spec ∈ specs, ∃ range, spec.resolve 15 = .ok range ∧
      range.isSatisfiable = (spec.clip (15 : UInt64).toNat).isSome) ∧
    match Plan.build specs 15 "text/plain" "bcd" with
    | .ok none => ranges = []
    | .ok (some plan) =>
      let body := Feed.ofProducer (Producer.multiple file plan.parts)
      ranges ≠ [] ∧ body.Delivers body.drain ∧ body.drain.failure = none ∧
      received? "bcd" body.drain.bytes
        = some (ranges.map (receivedPart (15 : UInt64).toNat data))
    | .error _ => False := by
  intro data file specs
  have opened : FaultyFile.StandsAt data file 0 := ⟨rfl, rfl, by decide⟩
  have uncrossed : ∀ spec ∈ specs, spec.Uncrossed (15 : UInt64).toNat := by
    intro spec hspec
    simp only [specs, List.mem_cons, List.not_mem_nil, or_false] at hspec
    rcases hspec with rfl | rfl | rfl | rfl
    · intro _
      decide
    · trivial
    · intro _
      decide
    · trivial
  have inside : (15 : UInt64).toNat ≤ data.length := by decide
  have mark : delimiter "bcd" = [13, 10, 45, 45, 98, 99, 100] := by decide
  have slices : (specs.filterMap (·.clip (15 : UInt64).toNat)).map
      (fun ends => stretch data ends.1 (ends.2 + 1 - ends.1))
      = [[13, 10, 45, 45, 13, 10, 45, 45, 98, 99], [99, 13, 10, 13, 10, 45], []] := by decide
  have clean : ∀ slice ∈ ([[13, 10, 45, 45, 13, 10, 45, 45, 98, 99], [99, 13, 10, 13, 10, 45], []] :
      List Text.Bytes), ¬delimiter "bcd" <:+: slice := by
    rw [mark]
    decide
  have free : ∀ ends ∈ specs.filterMap (·.clip (15 : UInt64).toNat),
      ¬delimiter "bcd" <:+: stretch data ends.1 (ends.2 + 1 - ends.1) := by
    intro ends hends
    apply clean
    rw [← slices]
    exact List.mem_map.2 ⟨ends, hends, rfl⟩
  have small : bodyLength "bcd" "text/plain" (15 : UInt64).toNat
      (specs.filterMap (·.clip (15 : UInt64).toNat)) < UInt64.size := by decide +kernel
  exact received_of_plan (prompt_faultyFile data) opened uncrossed inside (by decide) (by decide) free
    small

/-- A spec whose bounds are crossed inside the resource is not left out: with it the layout overflows,
    so that there is no body, though another spec selects two bytes. -/
theorem no_plan_of_crossed_spec :
    let data : Text.Bytes := Text.utf8 "0123456789"
    let specs : List Spec := [⟨some 0, some 1⟩, ⟨some 5, some 2⟩]
    (10 : UInt64).toNat ≤ data.length ∧ '\r' ∉ "b".toList ∧ '\r' ∉ "text/plain".toList ∧
    (∀ ends ∈ specs.filterMap (·.clip (10 : UInt64).toNat),
      ¬delimiter "b" <:+: Text.utf8 "\r\n" ++ stretch data ends.1 (ends.2 + 1 - ends.1)) ∧
    (∃ spec ∈ specs, ∃ range, spec.resolve 10 = .ok range ∧ range.isSatisfiable = true) ∧
    Plan.build specs 10 "text/plain" "b" = .error ⟨⟩ := by
  intro data specs
  have mark : delimiter "b" = [13, 10, 45, 45, 98] := by decide
  have ranges : specs.filterMap (·.clip (10 : UInt64).toNat) = [(0, 1), (5, 2)] := by decide
  have crossed : (Spec.mk (some 5) (some 2)).resolve 10 = .error ⟨⟩ := rfl
  have slices : (specs.filterMap (·.clip (10 : UInt64).toNat)).map
      (fun ends => Text.utf8 "\r\n" ++ stretch data ends.1 (ends.2 + 1 - ends.1))
      = [[13, 10, 48, 49], [13, 10]] := by
    rw [ranges]
    decide
  refine ⟨by decide, by decide, by decide, ?_, ⟨_, List.mem_cons_self, ⟨0, 2⟩, rfl, rfl⟩, ?_⟩
  · intro ends hends
    have clean : ∀ slice ∈ ([[13, 10, 48, 49], [13, 10]] : List Text.Bytes),
        ¬delimiter "b" <:+: slice := by
      rw [mark]
      decide
    apply clean
    rw [← slices]
    exact List.mem_map.2 ⟨ends, hends, rfl⟩
  · have mem : Spec.mk (some 5) (some 2) ∈ specs := List.mem_cons_of_mem _ List.mem_cons_self
    rw [Plan.build, partsOf_of_overflow crossed mem]
    rfl

end StaticSite.Stream
