/-
  STORED LINES: what a stored response is read from.

  A file is read as a stored response exactly if it has a blank line that closes a head, and the lines
  before that blank line give a status and headers (`parseStored_eq_ok_iff`).  The body is what stands
  behind it.  So the head ends at the first blank line only if that one closes a head; else some of
  what stands behind the first blank line is read as headers (`parseStored_reads`).

  The reader takes the lines from the decoded head.  A carriage return may be left at the end of its
  last line, and makes no difference: it is a blank.

  Numbered structure:
    §1  one line
    §2  some lines
    §3  the lines of a head
    §4  the whole file
-/
import StaticSite.Proofs.Site.BlankLines
import StaticSite.Proofs.Text.Lexemes

namespace StaticSite.Site

open Text (Bytes Ending Line encode)

/-! ## §1 One line -/

/-- A status line is one with a word for the status, and the word is a number in range. -/
theorem readStatus_eq_ok_iff {line : List Char} {code : Nat} : readStatus line = .ok code ↔
    (statusWord line).bind readCode = some code ∧ 100 ≤ code ∧ code ≤ 999 := by
  unfold readStatus
  cases (statusWord line).bind readCode with
  | none => simp
  | some found =>
    dsimp only
    split
    next range =>
      constructor
      · rintro ⟨⟩
        exact ⟨rfl, range⟩
      · rintro ⟨⟨⟩, -⟩
        rfl
    next range =>
      constructor
      · rintro ⟨⟩
      · rintro ⟨⟨⟩, inside⟩
        exact absurd inside range

/-- A header line is one with a colon, a name before it and a value behind it. -/
theorem readHeader_eq_ok_iff {line : List Char} {header : Http.HeaderName × Http.HeaderValue} :
    readHeader line = .ok header ↔ ∃ before behind, Text.cut? ':' line = some (before, behind) ∧
      Http.headerName? (Text.trim before) = some header.1 ∧
      Http.HeaderValue.ofBytes? (encode (Text.trim behind)) = some header.2 := by
  constructor
  · intro h
    unfold readHeader at h
    split at h
    next => cases h
    next before behind cut =>
      split at h
      next => cases h
      next name named =>
        split at h
        next => cases h
        next value valued =>
          cases h
          exact ⟨before, behind, cut, named, valued⟩
  · rintro ⟨before, behind, cut, named, valued⟩
    unfold readHeader
    rw [cut]
    dsimp only
    rw [named]
    dsimp only
    rw [valued]

theorem statusWord_append_return (line : List Char) :
    statusWord (line ++ ['\r']) = statusWord line := by
  have words (s : List Char) : Text.words (s ++ ['\r']) = Text.words s :=
    Text.words_append_blank (by decide) s
  have http : "HTTP/".toList.isPrefixOf (line ++ ['\r']) = "HTTP/".toList.isPrefixOf line := by
    rw [Bool.eq_iff_iff, List.isPrefixOf_iff_prefix, List.isPrefixOf_iff_prefix,
      List.prefix_concat_iff]
    constructor
    · rintro (whole | start)
      · have mem : '\r' ∈ "HTTP/".toList := by
          rw [whole]
          exact List.mem_append_right line List.mem_cons_self
        exact absurd mem (by decide)
      · exact start
    · exact .inr
  unfold statusWord
  rw [Text.dropStart?_append_of_not_mem (by decide), words, http]
  cases Text.dropStart? "Status:".toList line with
  | none => rfl
  | some rest =>
    show (Text.words (rest ++ ['\r']))[0]? = _
    rw [words]

/-- A carriage return at the end of a status line makes no difference. -/
theorem readStatus_append_return {line : List Char} {code : Nat} :
    readStatus (line ++ ['\r']) = .ok code ↔ readStatus line = .ok code := by
  rw [readStatus_eq_ok_iff, readStatus_eq_ok_iff, statusWord_append_return]

/-- A carriage return at the end of a header line makes no difference. -/
theorem readHeader_append_return {line : List Char} {header : Http.HeaderName × Http.HeaderValue} :
    readHeader (line ++ ['\r']) = .ok header ↔ readHeader line = .ok header := by
  have trimmed (s : List Char) : Text.trim (s ++ ['\r']) = Text.trim s :=
    Text.trim_append_blank (by decide) s
  rw [readHeader_eq_ok_iff, readHeader_eq_ok_iff, Text.cut?_append_of_ne (by decide)]
  constructor
  · rintro ⟨before, behind, cut, named, valued⟩
    obtain ⟨parts, found, heq⟩ := Option.map_eq_some_iff.1 cut
    cases heq
    rw [trimmed] at valued
    exact ⟨parts.1, parts.2, found, named, valued⟩
  · rintro ⟨before, behind, cut, named, valued⟩
    refine ⟨before, behind ++ ['\r'], by rw [cut]; rfl, named, ?_⟩
    rw [trimmed]
    exact valued

/-! ## §2 Some lines -/

theorem readHeaders_cons_of_blank {line : List Char} (blank : Text.trim line = [])
    (lines : List (List Char)) : readHeaders (line :: lines) = readHeaders lines := by
  unfold readHeaders
  rw [List.filter_cons_of_neg (by rw [blank]; decide)]

theorem readHeaders_cons_eq_ok_iff {line : List Char} (solid : Text.trim line ≠ [])
    {lines : List (List Char)} {headers : Http.Headers} :
    readHeaders (line :: lines) = .ok headers ↔ ∃ header others,
      headers = header :: others ∧ readHeader line = .ok header ∧ readHeaders lines = .ok others := by
  have first : readHeaders (line :: lines) = (do
      let header ← readHeader line
      let others ← readHeaders lines
      return header :: others) := by
    unfold readHeaders
    rw [List.filter_cons_of_pos (by simpa using solid), List.mapM_cons]
  rw [first]
  cases readHeader line with
  | error e => exact ⟨nofun, nofun⟩
  | ok header =>
    cases readHeaders lines with
    | error e => exact ⟨nofun, nofun⟩
    | ok others =>
      constructor
      · rintro ⟨⟩
        exact ⟨header, others, rfl, rfl, rfl⟩
      · rintro ⟨_, _, rfl, ⟨⟩, ⟨⟩⟩
        rfl

/-- A carriage return at the end of the last line makes no difference. -/
theorem readHeaders_append_return {lines : List (List Char)} {last : List Char}
    {headers : Http.Headers} :
    readHeaders (lines ++ [last ++ ['\r']]) = .ok headers ↔
      readHeaders (lines ++ [last]) = .ok headers := by
  induction lines generalizing headers with
  | nil =>
    have same : Text.trim (last ++ ['\r']) = Text.trim last := Text.trim_append_blank (by decide) last
    rw [List.nil_append, List.nil_append]
    by_cases blank : Text.trim last = []
    · rw [readHeaders_cons_of_blank blank, readHeaders_cons_of_blank (same.trans blank)]
    · rw [readHeaders_cons_eq_ok_iff blank, readHeaders_cons_eq_ok_iff (by rwa [same])]
      simp only [readHeader_append_return]
  | cons line rest ih =>
    rw [List.cons_append, List.cons_append]
    by_cases blank : Text.trim line = []
    · rw [readHeaders_cons_of_blank blank, readHeaders_cons_of_blank blank, ih]
    · rw [readHeaders_cons_eq_ok_iff blank, readHeaders_cons_eq_ok_iff blank]
      simp only [ih]

/-- Nor does an empty line at the end. -/
theorem readHeaders_append_empty (lines : List (List Char)) :
    readHeaders (lines ++ [[]]) = readHeaders lines := by
  unfold readHeaders
  rw [List.filter_append]
  exact congrArg _ (List.append_nil _)

/-! ## §3 The lines of a head -/

/-- The last piece is a line if it is not empty; a carriage return before a line feed is dropped. -/
theorem linesOfPieces_concat (pieces : List (List Char)) (last : List Char) :
    linesOfPieces (pieces ++ [last])
      = pieces.map dropReturn ++ if last.isEmpty then [] else [last] := by
  induction pieces with
  | nil => rfl
  | cons piece rest ih =>
    obtain ⟨next, others, hnext⟩ : ∃ next others, rest ++ [last] = next :: others :=
      List.exists_cons_of_ne_nil (by simp)
    rw [List.cons_append, hnext, linesOfPieces, ← hnext, ih]
    · rfl
    · exact fun h => by cases h

theorem dropReturn_append (text : List Char) : dropReturn (text ++ ['\r']) = text := by
  unfold dropReturn
  rw [List.getLast?_concat]
  exact List.dropLast_concat

theorem dropReturn_of_ne {text : List Char} (h : text.getLast? ≠ some '\r') :
    dropReturn text = text := by
  unfold dropReturn
  split
  next last => exact absurd last h
  next => rfl

/-- A carriage return at the end of the bytes is one at the end of the text. -/
theorem concat_of_encode {text : List Char} {front : Bytes} (h : encode text = front ++ [13]) :
    ∃ before, text = before ++ ['\r'] ∧ encode before = front := by
  obtain ⟨before, behind, rfl, hfront, hback⟩ := Text.split_of_encode '\r' (by decide) h
  have nothing : behind = [] := Decidable.byContradiction fun some => Text.encode_ne_nil some hback
  exact ⟨before, by rw [nothing], hfront⟩

/-- The text of a line, read from what stands before its line feed. -/
theorem encode_dropReturn {line : Line} {text : List Char} (h : encode text = line.piece) :
    encode (dropReturn text) = line.text := by
  obtain ⟨bytes, ending, whole, closed⟩ := line
  cases ending with
  | crlf =>
    have ends : encode text = bytes ++ [13] := h
    obtain ⟨before, rfl, hbytes⟩ := concat_of_encode ends
    rw [dropReturn_append]
    exact hbytes
  | lf =>
    have hbytes : encode text = bytes := h.trans (List.append_nil bytes)
    rw [dropReturn_of_ne]
    · exact hbytes
    · intro last
      obtain ⟨before, rfl⟩ := List.getLast?_eq_some_iff.1 last
      apply closed rfl
      rw [← hbytes, Text.encode_append]
      exact List.getLast?_concat

theorem leftover_eq (ending blank : Ending) :
    leftover ending blank = [] ∨ leftover ending blank = [13] := by
  cases ending <;> cases blank <;> simp [leftover]

/-- The pieces of a decoded head are its lines, the last one with what is left of its end. -/
theorem fields_of_head {blank : Ending} {lines : List Line} (some : lines ≠ []) {text : List Char}
    (h : encode text = headOf blank lines) :
    ∃ pieces last left, Text.fields '\n' text = pieces ++ [last ++ left] ∧
      (left = [] ∨ left = ['\r']) ∧
      (pieces.map dropReturn ++ [last]).map encode = lines.map Line.text := by
  induction lines generalizing text with
  | nil => exact absurd rfl some
  | cons line rest ih =>
    cases rest with
    | nil =>
      have hbytes : encode text = line.text ++ leftover line.ending blank := h
      have free : '\n' ∉ text := by
        intro mem
        have mem : 10 ∈ encode text := (Text.mem_encode_iff (c := '\n') (by decide)).2 mem
        rw [hbytes] at mem
        rcases List.mem_append.1 mem with mem | mem
        · exact line.whole mem
        · rcases leftover_eq line.ending blank with left | left <;> simp [left] at mem
      have one := Text.fields_of_not_mem free
      rcases leftover_eq line.ending blank with left | left
      · rw [left, List.append_nil] at hbytes
        refine ⟨[], text, [], by rw [one, List.append_nil]; rfl, .inl rfl, ?_⟩
        exact congrArg (fun bytes => [bytes]) hbytes
      · rw [left] at hbytes
        obtain ⟨last, rfl, hlast⟩ := concat_of_encode hbytes
        exact ⟨[], last, ['\r'], one, .inr rfl, congrArg (fun bytes => [bytes]) hlast⟩
    | cons next others =>
      have hbytes : encode text = line.piece ++ 10 :: headOf blank (next :: others) := by
        rw [h, headOf_cons_cons, Line.bytes_eq, List.append_assoc]
        rfl
      obtain ⟨before, behind, rfl, hbefore, hbehind⟩ :=
        Text.split_of_encode '\n' (by decide) hbytes
      obtain ⟨pieces, last, left, hfields, hleft, hlines⟩ := ih (List.cons_ne_nil _ _) hbehind
      have free : '\n' ∉ before := fun mem =>
        line.not_mem_piece (hbefore ▸ (Text.mem_encode_iff (c := '\n') (by decide)).2 mem)
      refine ⟨before :: pieces, last, left, ?_, hleft, ?_⟩
      · rw [Text.fields_append_cons, Text.fields_of_not_mem free, hfields]
        rfl
      · rw [List.map_cons, List.cons_append, List.map_cons, hlines, encode_dropReturn hbefore]
        rfl

/-- The bytes of lines that spell texts spell a text, also as a head. -/
theorem exists_encode_head (blank : Ending) {lines : List Line} {texts : List (List Char)}
    (h : texts.map encode = lines.map Line.text) : ∃ text, encode text = headOf blank lines := by
  induction lines generalizing texts with
  | nil => exact ⟨[], rfl⟩
  | cons line rest ih =>
    obtain ⟨text, others, rfl, hline, hrest⟩ := List.map_eq_cons_iff.1 h
    cases rest with
    | nil =>
      rcases leftover_eq line.ending blank with left | left
      · refine ⟨text, ?_⟩
        rw [headOf, left, hline, List.append_nil]
      · refine ⟨text ++ ['\r'], ?_⟩
        rw [headOf, left, Text.encode_append, hline]
        rfl
    | cons next more =>
      obtain ⟨behind, hbehind⟩ := ih hrest
      obtain ⟨ending, hending⟩ : ∃ ending, encode ending = line.ending.bytes := by
        cases line.ending with
        | lf => exact ⟨['\n'], rfl⟩
        | crlf => exact ⟨['\r', '\n'], rfl⟩
      refine ⟨text ++ ending ++ behind, ?_⟩
      rw [headOf_cons_cons, Text.encode_append, Text.encode_append, hline, hending, hbehind]
      rfl

/-- What is left at the end of the last line makes no difference, nor does it if the line is left out
    because it is empty. -/
theorem readHeaders_append_left {last left : List Char} (hleft : left = [] ∨ left = ['\r'])
    (lines : List (List Char)) {headers : Http.Headers} :
    readHeaders (lines ++ if (last ++ left).isEmpty then [] else [last ++ left]) = .ok headers ↔
      readHeaders (lines ++ [last]) = .ok headers := by
  rcases hleft with rfl | rfl
  · rw [List.append_nil]
    split
    next empty => rw [List.isEmpty_iff.1 empty, readHeaders_append_empty, List.append_nil]
    next => rfl
  · have solid : (last ++ ['\r']).isEmpty = false := by simp
    rw [solid, if_neg Bool.false_ne_true]
    exact readHeaders_append_return

theorem readStatus_append_left {last left : List Char} (hleft : left = [] ∨ left = ['\r'])
    {code : Nat} : readStatus (last ++ left) = .ok code ↔ readStatus last = .ok code := by
  rcases hleft with rfl | rfl
  · rw [List.append_nil]
  · exact readStatus_append_return

/-- What the lines of a decoded head give is what the lines give as they stand in the bytes. -/
theorem reads_of_fields {text : List Char} {pieces : List (List Char)} {last left : List Char}
    (hfields : Text.fields '\n' text = pieces ++ [last ++ left]) (hleft : left = [] ∨ left = ['\r'])
    {code : Nat} {headers : Http.Headers} :
    readStatus ((linesOf text).head?.getD []) = .ok code ∧
        readHeaders (linesOf text).tail = .ok headers ↔
      readStatus ((pieces.map dropReturn ++ [last]).head?.getD []) = .ok code ∧
        readHeaders (pieces.map dropReturn ++ [last]).tail = .ok headers := by
  rw [linesOf, hfields, linesOfPieces_concat]
  cases pieces with
  | nil =>
    -- the status line is the last line
    have status :
        (if (last ++ left).isEmpty then [] else [last ++ left]).head?.getD [] = last ++ left := by
      split
      next empty => exact (List.isEmpty_iff.1 empty).symm
      next => rfl
    have rest : (if (last ++ left).isEmpty then [] else [last ++ left]).tail = [] := by
      split <;> rfl
    rw [List.map_nil, List.nil_append, List.nil_append, status, rest, readStatus_append_left hleft]
    rfl
  | cons piece pieces =>
    exact and_congr_right fun _ => readHeaders_append_left hleft (pieces.map dropReturn)

/-! ## §4 The whole file -/

/-- The answer of a file that was cut at a blank line: the first line before it gives the status, the
    others give the headers, and what is behind it is the body. -/
structure StoredResponse.ReadFrom (stored : StoredResponse) (cut : Cut) : Prop where
  head : ∃ status fields, (status :: fields).map encode = cut.lines.map Line.text ∧
    readStatus status = .ok stored.status ∧ readHeaders fields = .ok stored.headers
  body : stored.body = cut.body

/-- Reading takes two parts of the file, the head and what is behind it. -/
theorem parseStored_eq_ok_iff_splitHead {bytes : Bytes} {stored : StoredResponse} :
    parseStored bytes = .ok stored ↔ ∃ text, splitHead bytes = some (encode text, stored.body) ∧
      readStatus ((linesOf text).head?.getD []) = .ok stored.status ∧
      readHeaders (linesOf text).tail = .ok stored.headers := by
  constructor
  · intro h
    unfold parseStored at h
    split at h
    next => cases h
    next head body split =>
      split at h
      next => cases h
      next text decoded =>
        dsimp only at h
        split at h
        next => cases h
        next => cases h
        next status headers =>
          cases h
          exact ⟨text, by rw [split, Text.encode_of_decode decoded], status, headers⟩
  · rintro ⟨text, split, status, headers⟩
    unfold parseStored
    rw [split]
    dsimp only
    rw [Text.decode_encode]
    dsimp only
    rw [status, headers]

/-- A line stands before a blank line that closes a head. -/
theorem lines_ne_nil_of_closing {bytes : Bytes} {cut : Cut} (h : closingBlank? bytes = some cut) :
    cut.lines ≠ [] := by
  intro none
  have counted := (firstCounted_of_cutFrom h).2
  rw [none] at counted
  cases counted

/-- What is read is what stands before and behind the first blank line that closes a head. -/
theorem parseStored_eq_ok_iff {bytes : Bytes} {stored : StoredResponse} :
    parseStored bytes = .ok stored ↔
      ∃ cut, closingBlank? bytes = some cut ∧ stored.ReadFrom cut := by
  rw [parseStored_eq_ok_iff_splitHead]
  constructor
  · rintro ⟨text, split, reads⟩
    rw [splitHead_eq] at split
    obtain ⟨cut, closed, parts⟩ := Option.map_eq_some_iff.1 split
    obtain ⟨head, body⟩ := Prod.mk.inj parts
    obtain ⟨pieces, last, left, hfields, hleft, hlines⟩ :=
      fields_of_head (lines_ne_nil_of_closing closed) head.symm
    obtain ⟨status, fields, hcons⟩ : ∃ status fields,
        pieces.map dropReturn ++ [last] = status :: fields :=
      List.exists_cons_of_ne_nil (by simp)
    rw [reads_of_fields hfields hleft, hcons] at reads
    rw [hcons] at hlines
    exact ⟨cut, closed, ⟨status, fields, hlines, reads.1, reads.2⟩, body.symm⟩
  · rintro ⟨cut, closed, ⟨status, fields, hlines, hstatus, hheaders⟩, hbody⟩
    obtain ⟨text, head⟩ := exists_encode_head cut.blank hlines
    refine ⟨text, by rw [splitHead_eq, closed, head, hbody]; rfl, ?_⟩
    obtain ⟨pieces, last, left, hfields, hleft, hlines'⟩ :=
      fields_of_head (lines_ne_nil_of_closing closed) head
    have same : pieces.map dropReturn ++ [last] = status :: fields :=
      (List.map_inj_right fun _ _ => Text.encode_inj.1).1 (hlines'.trans hlines.symm)
    rw [reads_of_fields hfields hleft, same]
    exact ⟨hstatus, hheaders⟩

/-- A stored response is read from the lines before the first blank line that closes a head, and its
    body is what stands behind that line, whatever it is.  So the head ends at the first blank line
    exactly if that one closes a head. -/
theorem parseStored_reads {bytes : Bytes} {stored : StoredResponse}
    (accepted : parseStored bytes = .ok stored) :
    ∃ cut first, closingBlank? bytes = some cut ∧ firstBlank? bytes = some first ∧
      cut.bytes = bytes ∧ first.bytes = bytes ∧ stored.ReadFrom cut ∧
      (stored.ReadFrom first ↔ first.Closes) ∧
      ∀ body, parseStored (cut.withBody body).bytes = .ok { stored with body := body } := by
  obtain ⟨cut, closed, reads⟩ := parseStored_eq_ok_iff.1 accepted
  obtain ⟨first, found, compared⟩ := firstBlank_of_closing closed
  refine ⟨cut, first, closed, found, (firstCounted_of_cutFrom closed).1.symm,
    (firstCounted_of_cutFrom found).1.symm, reads, ?_, ?_⟩
  · rcases compared with ⟨closes, rfl⟩ | ⟨passed, shorter⟩
    · exact ⟨fun _ => closes, fun _ => reads⟩
    · constructor
      · intro early
        rw [← reads.body, ← early.body] at shorter
        exact absurd shorter (Nat.lt_irrefl _)
      · intro closes
        rw [Cut.Closes, passed] at closes
        cases closes
  · intro body
    have replaced : closingBlank? (cut.withBody body).bytes = some (cut.withBody body) :=
      cutFrom_of_firstCounted (firstCounted_of_cutFrom closed).2 body
    exact parseStored_eq_ok_iff.2 ⟨_, replaced, reads.head, rfl⟩

/-- A file with LF line ends but for one blank line. -/
def mixedFile : Bytes := Text.utf8 "Status: 200\nA: b\n\r\nX: y\n\nrest"

/-- What is read from it. -/
def mixedAnswer : StoredResponse :=
  ⟨200, [("a", ⟨Text.utf8 "b", by decide⟩), ("x", ⟨Text.utf8 "y", by decide⟩)], Text.utf8 "rest"⟩

/-- Its lines before the first blank line. -/
def mixedLines : List Line :=
  [.ofText "Status: 200".toList .lf (by decide), .ofText "A: b".toList .lf (by decide)]

theorem parseStored_mixedFile : parseStored mixedFile = .ok mixedAnswer := by
  have closed : closingBlank? mixedFile = some
      ⟨mixedLines ++ [blankLine .crlf, .ofText "X: y".toList .lf (by decide)], .lf,
        Text.utf8 "rest"⟩ :=
    cutFrom_eq_some_iff.2 ⟨by decide, rfl, rfl, rfl, rfl, rfl⟩
  refine parseStored_eq_ok_iff.2 ⟨_, closed, ⟨"Status: 200".toList,
    ["A: b".toList, [], "X: y".toList], rfl, rfl, rfl⟩, rfl⟩

theorem reads_of_mixedFile : parseStored mixedFile = .ok mixedAnswer ∧
    ∃ cut first, closingBlank? mixedFile = some cut ∧ firstBlank? mixedFile = some first ∧
      mixedAnswer.ReadFrom cut ∧ (mixedAnswer.ReadFrom first ↔ first.Closes) := by
  obtain ⟨cut, first, closed, found, -, -, reads, same, -⟩ := parseStored_reads parseStored_mixedFile
  exact ⟨parseStored_mixedFile, cut, first, closed, found, reads, same⟩

/-- The line behind its first blank line is read as a header. -/
theorem body_may_begin_late : ∃ stored first, parseStored mixedFile = .ok stored ∧
    firstBlank? mixedFile = some first ∧ ¬stored.ReadFrom first ∧
    first.body = Text.utf8 "X: y\n\nrest" ∧ stored.body = Text.utf8 "rest" := by
  have found : firstBlank? mixedFile = some ⟨mixedLines, .crlf, Text.utf8 "X: y\n\nrest"⟩ :=
    cutFrom_eq_some_iff.2 ⟨by decide, rfl, rfl, rfl⟩
  refine ⟨mixedAnswer, _, parseStored_mixedFile, found, ?_, rfl, rfl⟩
  intro early
  exact absurd early.body (by decide)

end StaticSite.Site
