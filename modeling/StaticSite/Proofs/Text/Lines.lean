/-
  LINES: byte strings read line by line.

  A line ends with a line feed, or with a carriage return and a line feed.  The bytes of a line tell
  how it is read: no line feed stands in it, and if it ends with a line feed alone, no carriage return
  stands at its end.  Both are parts of `Line`, so that a line put in front of any bytes is read back
  from them (`nextLine?_append`), and what is read is what stood there (`eq_of_nextLine?`).
-/
import StaticSite.Proofs.Text.Marks

namespace StaticSite.Text

/-- How a line ends. -/
inductive Ending
  /-- With a line feed. -/
  | lf
  /-- With a carriage return and a line feed. -/
  | crlf
deriving DecidableEq, Repr

/-- What stands before the line feed. -/
def Ending.returns : Ending → Bytes
  | .lf => []
  | .crlf => [13]

def Ending.bytes (ending : Ending) : Bytes := ending.returns ++ [10]

/-- A line of a byte string. -/
structure Line where
  text : Bytes
  ending : Ending
  whole : 10 ∉ text
  closed : ending = .lf → text.getLast? ≠ some 13

namespace Line

/-- The line as it stands in the byte string. -/
def bytes (line : Line) : Bytes := line.text ++ line.ending.bytes

/-- The line without its line feed. -/
def piece (line : Line) : Bytes := line.text ++ line.ending.returns

theorem bytes_eq (line : Line) : line.bytes = line.piece ++ [10] :=
  (List.append_assoc _ _ _).symm

theorem not_mem_piece (line : Line) : 10 ∉ line.piece := by
  intro h
  rcases List.mem_append.1 h with h | h
  · exact line.whole h
  · cases hending : line.ending with
    | lf => rw [hending] at h; cases h
    | crlf => rw [hending] at h; exact absurd (List.mem_singleton.1 h) (by decide)

/-- The line that stands before a line feed: a carriage return at its end is no part of its text. -/
def ofPiece (piece : Bytes) (whole : 10 ∉ piece) : Line :=
  if h : piece.getLast? = some 13 then
    ⟨piece.dropLast, .crlf, mt ((List.dropLast_sublist piece).subset ·) whole, nofun⟩
  else ⟨piece, .lf, whole, fun _ => h⟩

theorem piece_ofPiece (piece : Bytes) (whole : 10 ∉ piece) : (ofPiece piece whole).piece = piece := by
  unfold ofPiece
  split
  next h =>
    obtain ⟨text, rfl⟩ := List.getLast?_eq_some_iff.1 h
    exact congrArg (· ++ [13]) List.dropLast_concat
  next => exact List.append_nil piece

theorem ofPiece_piece (line : Line) : ofPiece line.piece line.not_mem_piece = line := by
  obtain ⟨text, ending, whole, closed⟩ := line
  cases ending with
  | lf =>
    have hpiece : piece ⟨text, .lf, whole, closed⟩ = text := List.append_nil text
    simp only [hpiece]
    exact dif_neg (closed rfl)
  | crlf =>
    have hpiece : piece ⟨text, .crlf, whole, closed⟩ = text ++ [13] := rfl
    simp only [hpiece]
    unfold ofPiece
    rw [dif_pos List.getLast?_concat]
    simp only [List.dropLast_concat]

/-- The line of a text that holds no part of a line end. -/
def ofText (text : List Char) (ending : Ending) (free : '\r' ∉ text ∧ '\n' ∉ text) : Line where
  text := encode text
  ending := ending
  whole := mt (mem_encode_iff (c := '\n') (by decide)).1 free.2
  closed _ last := free.1 ((mem_encode_iff (c := '\r') (by decide)).1 (List.mem_of_getLast? last))

end Line

/-- The first line, and the bytes behind it; nothing if no line ends. -/
def nextLine? (bytes : Bytes) : Option (Line × Bytes) :=
  match h : cut? 10 bytes with
  | none => none
  | some (piece, rest) => some (.ofPiece piece (not_mem_of_cut? h), rest)

/-- A line in front is read as it is. -/
theorem nextLine?_append (line : Line) (rest : Bytes) :
    nextLine? (line.bytes ++ rest) = some (line, rest) := by
  have cut : cut? 10 (line.bytes ++ rest) = some (line.piece, rest) := by
    rw [line.bytes_eq, List.append_assoc]
    exact cut?_append_cons line.not_mem_piece rest
  unfold nextLine?
  split
  next none => rw [none] at cut; cases cut
  next piece rest' some =>
    rw [some] at cut
    cases cut
    rw [line.ofPiece_piece]

/-- Reading a line takes its bytes. -/
theorem eq_of_nextLine? {bytes rest : Bytes} {line : Line} (h : nextLine? bytes = some (line, rest)) :
    bytes = line.bytes ++ rest := by
  unfold nextLine? at h
  split at h
  next => cases h
  next piece rest' cut =>
    cases h
    rw [Line.bytes_eq, Line.piece_ofPiece, List.append_assoc]
    exact eq_of_cut? cut

/-- Where no line ends, there is no line feed. -/
theorem not_mem_of_nextLine? {bytes : Bytes} (h : nextLine? bytes = none) : 10 ∉ bytes := by
  intro mem
  obtain ⟨front, back, rfl, free⟩ := List.eq_append_cons_of_mem mem
  have cut := cut?_append_cons free back
  unfold nextLine? at h
  split at h
  next none => rw [none] at cut; cases cut
  next => cases h

end StaticSite.Text
