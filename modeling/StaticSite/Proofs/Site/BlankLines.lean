/-
  BLANK LINES: where the head of a stored response ends.

  The head ends at a blank line.  It is looked for as one of two runs of bytes, CR LF CR LF and LF
  LF, and each of them begins with the end of the line before.  So not every blank line is found: one
  that ends with CR LF is passed over where the line before ends with a line feed alone (`closes`).

  A byte string is cut at the first blank line of a kind (`cutFrom`).  Cut at the first one that
  closes a head, it gives what the search for the two runs gives (`splitHead_eq`).  Cut at the first
  one at all, it gives the same, or a body that begins earlier (`firstBlank_of_closing`).

  Numbered structure:
    §1  cuts
    §2  the first blank line, and the first that closes
    §3  the two runs of bytes
-/
import StaticSite.Proofs.Text.Lines
import StaticSite.Site.Stored

namespace StaticSite.Site

open Text (Bytes Ending Line nextLine?)

/-! ## §1 Cuts -/

/-- A byte string cut at a blank line: the lines before it, how it ends, and what is behind it. -/
structure Cut where
  lines : List Line
  blank : Ending
  body : Bytes

namespace Cut

/-- The byte string that was cut. -/
def bytes (cut : Cut) : Bytes := cut.lines.flatMap Line.bytes ++ (cut.blank.bytes ++ cut.body)

/-- One more line in front. -/
def cons (line : Line) (cut : Cut) : Cut := { cut with lines := line :: cut.lines }

/-- The same lines in front of other bytes. -/
def withBody (cut : Cut) (body : Bytes) : Cut := { cut with body := body }

theorem bytes_cons (line : Line) (cut : Cut) : (cut.cons line).bytes = line.bytes ++ cut.bytes := by
  unfold bytes cons
  rw [List.flatMap_cons, List.append_assoc]

end Cut

/-- A line with nothing in it. -/
def blankLine (ending : Ending) : Line := ⟨[], ending, List.not_mem_nil, fun _ => nofun⟩

/-- Cuts at the first blank line that counts behind the line before it; `before` is how that line
    ends. -/
def cutFrom (counts : Option Ending → Ending → Bool) (before : Option Ending) (bytes : Bytes) :
    Option Cut :=
  match _h : nextLine? bytes with
  | none => none
  | some (line, rest) =>
    if line.text.isEmpty && counts before line.ending then some ⟨[], line.ending, rest⟩
    else (cutFrom counts (some line.ending) rest).map (Cut.cons line)
termination_by bytes.length
decreasing_by
  rw [Text.eq_of_nextLine? _h, Line.bytes_eq]
  simp
  omega

section

variable {counts : Option Ending → Ending → Bool} {before : Option Ending}

/-- A line that is not blank, or does not count, is passed over. -/
theorem cutFrom_append {line : Line} (h : (line.text.isEmpty && counts before line.ending) = false)
    (rest : Bytes) : cutFrom counts before (line.bytes ++ rest)
      = (cutFrom counts (some line.ending) rest).map (Cut.cons line) := by
  rw [cutFrom]
  split
  next none => rw [Text.nextLine?_append] at none; cases none
  next line' rest' some =>
    rw [Text.nextLine?_append] at some
    cases some
    rw [h]
    rfl

theorem cutFrom_blank {ending : Ending} (h : counts before ending = true) (body : Bytes) :
    cutFrom counts before (ending.bytes ++ body) = some ⟨[], ending, body⟩ := by
  have next : nextLine? (ending.bytes ++ body) = some (blankLine ending, body) :=
    Text.nextLine?_append (blankLine ending) body
  rw [cutFrom]
  split
  next none => rw [next] at none; cases none
  next line rest some =>
    rw [next] at some
    cases some
    exact if_pos h

/-- The lines before a cut do not count, and the blank line does. -/
def FirstCounted (counts : Option Ending → Ending → Bool) :
    Option Ending → List Line → Ending → Prop
  | before, [], blank => counts before blank = true
  | before, line :: rest, blank => (line.text.isEmpty && counts before line.ending) = false ∧
      FirstCounted counts (some line.ending) rest blank

theorem cutFrom_of_firstCounted {lines : List Line} {blank : Ending}
    (h : FirstCounted counts before lines blank) (body : Bytes) :
    cutFrom counts before (Cut.bytes ⟨lines, blank, body⟩) = some ⟨lines, blank, body⟩ := by
  induction lines generalizing before with
  | nil => exact cutFrom_blank h body
  | cons line rest ih =>
    obtain ⟨passed, later⟩ := h
    show cutFrom counts before (Cut.cons line ⟨rest, blank, body⟩).bytes = _
    rw [Cut.bytes_cons, cutFrom_append passed, ih later]
    rfl

/-- A cut loses nothing, and is at the first blank line that counts. -/
theorem firstCounted_of_cutFrom {bytes : Bytes} {cut : Cut}
    (h : cutFrom counts before bytes = some cut) :
    bytes = cut.bytes ∧ FirstCounted counts before cut.lines cut.blank := by
  fun_induction cutFrom counts before bytes generalizing cut with
  | case1 => cases h
  | case2 before bytes line rest next blank =>
    cases h
    obtain ⟨empty, counted⟩ := Bool.and_eq_true_iff.1 blank
    rw [Text.eq_of_nextLine? next, Line.bytes, List.isEmpty_iff.1 empty]
    exact ⟨rfl, counted⟩
  | case3 before bytes line rest next passed ih =>
    obtain ⟨cut, found, rfl⟩ := Option.map_eq_some_iff.1 h
    obtain ⟨rfl, later⟩ := ih found
    rw [Text.eq_of_nextLine? next, Cut.bytes_cons]
    exact ⟨rfl, Bool.eq_false_iff.2 passed, later⟩

theorem cutFrom_eq_some_iff {bytes : Bytes} {cut : Cut} : cutFrom counts before bytes = some cut ↔
    bytes = cut.bytes ∧ FirstCounted counts before cut.lines cut.blank := by
  constructor
  · exact firstCounted_of_cutFrom
  · rintro ⟨rfl, h⟩
    exact cutFrom_of_firstCounted h cut.body

end

/-! ## §2 The first blank line, and the first that closes -/

/-- Whether the end of a line and a blank line behind it are one of the two runs of bytes. -/
def closes : Option Ending → Ending → Bool
  | some .crlf, _ => true
  | some .lf, .lf => true
  | _, _ => false

/-- The cut at the first blank line. -/
def firstBlank? (bytes : Bytes) : Option Cut := cutFrom (fun _ _ => true) none bytes

/-- The cut at the first blank line that closes a head. -/
def closingBlank? (bytes : Bytes) : Option Cut := cutFrom closes none bytes

/-- How the last of some lines ends. -/
def lastEnding (before : Option Ending) : List Line → Option Ending
  | [] => before
  | line :: rest => lastEnding (some line.ending) rest

/-- Whether the blank line of a cut closes a head. -/
def Cut.Closes (cut : Cut) : Prop := closes (lastEnding none cut.lines) cut.blank = true

theorem length_body_lt (cut : Cut) : cut.body.length < cut.bytes.length := by
  unfold Cut.bytes Ending.bytes
  simp
  omega

/-- Behind a line that ends in a given way: the first blank line is the one that closes, or it does
    not close, and more is behind it. -/
theorem firstBlank_of_closing {before : Option Ending} {bytes : Bytes} {cut : Cut}
    (h : cutFrom closes before bytes = some cut) :
    ∃ first, cutFrom (fun _ _ => true) before bytes = some first ∧
      (closes (lastEnding before first.lines) first.blank = true ∧ cut = first ∨
        closes (lastEnding before first.lines) first.blank = false ∧
          cut.body.length < first.body.length) := by
  obtain ⟨rfl, counted⟩ := firstCounted_of_cutFrom h
  clear h
  obtain ⟨lines, blank, body⟩ := cut
  induction lines generalizing before with
  | nil => exact ⟨_, cutFrom_blank rfl body, .inl ⟨counted, rfl⟩⟩
  | cons line rest ih =>
    obtain ⟨passed, later⟩ := counted
    have whole : (Cut.mk (line :: rest) blank body).bytes
        = line.bytes ++ (Cut.mk rest blank body).bytes :=
      Cut.bytes_cons line ⟨rest, blank, body⟩
    rw [whole]
    by_cases empty : line.text = []
    · -- this is the first blank line, and it does not close
      have open' : closes before line.ending = false := by simpa [empty] using passed
      rw [Line.bytes, empty]
      exact ⟨_, cutFrom_blank rfl _, .inr ⟨open', length_body_lt ⟨rest, blank, body⟩⟩⟩
    · have solid : (line.text.isEmpty && true) = false := by simpa using empty
      obtain ⟨first, found, same⟩ := ih later
      refine ⟨first.cons line, ?_, ?_⟩
      · rw [cutFrom_append solid, found]
        rfl
      · rcases same with ⟨closed, rfl⟩ | ⟨passed, more⟩
        · exact .inl ⟨closed, rfl⟩
        · exact .inr ⟨passed, more⟩

/-! ## §3 The two runs of bytes -/

/-- The carriage return that stays in the head, where a line ends with CR LF and the blank line with
    LF. -/
def leftover : Ending → Ending → Bytes
  | .crlf, .lf => [13]
  | _, _ => []

/-- The bytes before a blank line, without the line end that its run begins with. -/
def headOf (blank : Ending) : List Line → Bytes
  | [] => []
  | [last] => last.text ++ leftover last.ending blank
  | line :: rest => line.bytes ++ headOf blank rest

theorem headOf_cons_cons (blank : Ending) (line next : Line) (rest : List Line) :
    headOf blank (line :: next :: rest) = line.bytes ++ headOf blank (next :: rest) := rfl

/-- The search goes on behind a byte where no run begins. -/
theorem splitHeadFrom_cons {b : UInt8} {rest : Bytes}
    (hreturn : b = 13 → ∀ more, rest ≠ 10 :: 13 :: 10 :: more)
    (hfeed : b = 10 → ∀ more, rest ≠ 10 :: more) (before : Bytes) :
    splitHeadFrom before (b :: rest) = splitHeadFrom (b :: before) rest := by
  rw [splitHeadFrom]
  · exact fun more hb hrest => hreturn hb more hrest
  · exact fun more hb hrest => hfeed hb more hrest

/-- No run begins where no line feed is left. -/
theorem splitHeadFrom_of_not_mem {rest : Bytes} (free : 10 ∉ rest) (before : Bytes) :
    splitHeadFrom before rest = none := by
  induction rest generalizing before with
  | nil => rfl
  | cons b rest ih =>
    obtain ⟨hb, hrest⟩ := not_or.1 (mt List.mem_cons.2 free)
    rw [splitHeadFrom_cons, ih hrest]
    · rintro - more rfl
      exact hrest List.mem_cons_self
    · exact fun feed => absurd feed.symm hb

/-- A carriage return in a line is not followed by a line feed, but at its end. -/
theorem ne_of_return_mem {line : Line} {front back : Bytes}
    (htext : line.text = front ++ 13 :: back) (rest more : Bytes) :
    back ++ (line.ending.bytes ++ rest) ≠ 10 :: more := by
  intro h
  cases back with
  | nil =>
    have last : line.text.getLast? = some 13 := by rw [htext, List.getLast?_concat]
    cases hending : line.ending with
    | lf => exact line.closed hending last
    | crlf =>
      rw [hending] at h
      exact absurd (List.cons.inj h).1 (by decide)
  | cons b back =>
    apply line.whole
    rw [htext, (List.cons.inj h).1]
    simp

/-- No run begins in the text of a line. -/
theorem splitHeadFrom_text (line : Line) (before rest : Bytes) :
    splitHeadFrom before (line.text ++ (line.ending.bytes ++ rest))
      = splitHeadFrom (line.text.reverse ++ before) (line.ending.bytes ++ rest) := by
  suffices walk : ∀ back front before, line.text = front ++ back →
      splitHeadFrom before (back ++ (line.ending.bytes ++ rest))
        = splitHeadFrom (back.reverse ++ before) (line.ending.bytes ++ rest) from
    walk line.text [] before rfl
  intro back
  induction back with
  | nil => exact fun _ _ _ => rfl
  | cons b back ih =>
    intro front before htext
    rw [List.cons_append, splitHeadFrom_cons,
      ih (front ++ [b]) _ (by rw [htext, List.append_assoc, List.singleton_append]),
      List.reverse_cons, List.append_assoc, List.singleton_append]
    · rintro rfl more
      exact ne_of_return_mem htext rest _
    · rintro rfl
      exact absurd (htext ▸ List.mem_append_right _ List.mem_cons_self) line.whole

/-- A line and a blank line behind it that closes the head. -/
theorem splitHeadFrom_closing {line : Line} {blank : Ending}
    (h : closes (some line.ending) blank = true) (before body : Bytes) :
    splitHeadFrom before (line.bytes ++ (blank.bytes ++ body))
      = some (before.reverse ++ headOf blank [line], body) := by
  have front : before.reverse ++ line.text = (line.text.reverse ++ before).reverse := by
    rw [List.reverse_append, List.reverse_reverse]
  rw [Line.bytes, List.append_assoc, splitHeadFrom_text, headOf,
    ← List.append_assoc before.reverse, front]
  generalize line.text.reverse ++ before = walked
  generalize line.ending = ending at h
  match ending, blank, h with
  | .lf, .lf, _ => exact congrArg (fun head => some (head, body)) (List.append_nil _).symm
  | .crlf, .crlf, _ => exact congrArg (fun head => some (head, body)) (List.append_nil _).symm
  | .crlf, .lf, _ => exact congrArg (fun head => some (head, body)) List.reverse_cons

/-- A line, and no run that begins with its end. -/
theorem splitHeadFrom_passing {line : Line} {rest : Bytes} (hfeed : ∀ more, rest ≠ 10 :: more)
    (hreturn : line.ending = .crlf → ∀ more, rest ≠ 13 :: 10 :: more) (before : Bytes) :
    splitHeadFrom before (line.bytes ++ rest) = splitHeadFrom (line.bytes.reverse ++ before) rest := by
  have feed (before : Bytes) :
      splitHeadFrom before (10 :: rest) = splitHeadFrom (10 :: before) rest := by
    apply splitHeadFrom_cons
    · exact fun h => absurd h (by decide)
    · exact fun _ => hfeed
  rw [Line.bytes, List.append_assoc, splitHeadFrom_text, List.reverse_append, List.append_assoc]
  generalize line.text.reverse ++ before = walked
  generalize line.ending = ending at hreturn
  cases ending with
  | lf => exact feed walked
  | crlf =>
    show splitHeadFrom walked (13 :: 10 :: rest) = _
    rw [splitHeadFrom_cons, feed]
    · rfl
    · rintro - more h
      exact hreturn rfl more (List.cons.inj h).2
    · exact fun h => absurd h (by decide)

/-- A line behind another one that does not close the head begins no run with its end. -/
theorem not_run_of_passed {line next : Line}
    (passed : (next.text.isEmpty && closes (some line.ending) next.ending) = false) (rest : Bytes) :
    (∀ more, next.bytes ++ rest ≠ 10 :: more) ∧
    (line.ending = .crlf → ∀ more, next.bytes ++ rest ≠ 13 :: 10 :: more) := by
  rw [Line.bytes, List.append_assoc]
  cases htext : next.text with
  | nil =>
    -- a blank line: it ends with CR LF, and the line before with LF
    rw [htext] at passed
    cases hline : line.ending with
    | crlf => rw [hline] at passed; cases passed
    | lf =>
      cases hnext : next.ending with
      | lf => rw [hline, hnext] at passed; cases passed
      | crlf =>
        refine ⟨fun more h => ?_, nofun⟩
        exact absurd (List.cons.inj h).1 (by decide)
  | cons b text =>
    constructor
    · intro more h
      apply next.whole
      rw [htext, (List.cons.inj h).1]
      exact List.mem_cons_self
    · intro _ more h
      obtain ⟨rfl, hrest⟩ := List.cons.inj h
      have returned : next.text = [] ++ 13 :: text := htext
      exact ne_of_return_mem returned rest more hrest

/-- The search behind a line gives the cut at the first blank line that closes. -/
theorem splitHeadFrom_eq (line : Line) (before rest : Bytes) :
    splitHeadFrom before (line.bytes ++ rest)
      = (cutFrom closes (some line.ending) rest).map fun cut =>
          (before.reverse ++ headOf cut.blank (line :: cut.lines), cut.body) := by
  generalize hending : some line.ending = ending
  fun_induction cutFrom closes ending rest generalizing line before with
  | case1 ending rest none =>
    have free := Text.not_mem_of_nextLine? none
    rw [splitHeadFrom_passing, splitHeadFrom_of_not_mem free]
    · rfl
    · rintro more rfl
      exact free List.mem_cons_self
    · rintro - more rfl
      exact free (List.mem_cons_of_mem 13 List.mem_cons_self)
  | case2 ending rest next more found blank =>
    subst hending
    obtain ⟨empty, closed⟩ := Bool.and_eq_true_iff.1 blank
    have whole : rest = next.ending.bytes ++ more := by
      rw [Text.eq_of_nextLine? found, Line.bytes, List.isEmpty_iff.1 empty]
      rfl
    rw [whole, splitHeadFrom_closing closed]
    rfl
  | case3 ending rest next more found passed ih =>
    subst hending
    obtain ⟨hfeed, hreturn⟩ := not_run_of_passed (Bool.eq_false_iff.2 passed) more
    rw [Text.eq_of_nextLine? found, splitHeadFrom_passing hfeed hreturn, ih next _ rfl,
      Option.map_map]
    congr 1
    funext cut
    show (_ ++ headOf cut.blank (next :: cut.lines), _) = (_ ++ (line.bytes ++ headOf _ _), _)
    rw [List.reverse_append, List.reverse_reverse, List.append_assoc]
    rfl

/-- The head and the body are what stands before and behind the first blank line that closes. -/
theorem splitHead_eq (bytes : Bytes) :
    splitHead bytes = (closingBlank? bytes).map fun cut => (headOf cut.blank cut.lines, cut.body) := by
  unfold splitHead closingBlank?
  rw [cutFrom]
  split
  next none =>
    exact splitHeadFrom_of_not_mem (Text.not_mem_of_nextLine? none) []
  next line rest found =>
    rw [Text.eq_of_nextLine? found, splitHeadFrom_eq]
    have passed : (line.text.isEmpty && closes none line.ending) = false := Bool.and_false _
    rw [passed, if_neg Bool.false_ne_true, Option.map_map]
    rfl

end StaticSite.Site
