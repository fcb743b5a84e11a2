/-
  STORED FORM: a response that was written to a file is read back.

  A draft is written line by line: a status line of one of two forms, a line for each header, a blank
  line, and the body as it is.  All the lines end in the same way, and no line but the blank one is
  empty.  So the blank line is the first one, and it closes the head (`firstCounted_of_same`), whatever
  the body holds.

  What is read from the lines is what was written, but for the names of headers, which are read in
  lower case (`parseStored_written`).  A name must not be longer than a header name can be: there is no
  such bound on the lines, so such a file can be written, and is refused (`long_name_is_refused`).

  Numbered structure:
    §1  drafts
    §2  the lines of a draft
    §3  the whole file
-/
import StaticSite.Proofs.Site.Segments
import StaticSite.Proofs.Site.StoredLines

namespace StaticSite.Site

open Text (Bytes Ending Line encode)

/-! ## §1 Drafts -/

/-- A header to be written: its name is a token, and its value is allowed and has no blanks at its
    ends. -/
structure DraftField where
  name : List Char
  value : List Char
  token : Http.isToken name = true
  allowed : (encode value).all Http.isValueByte = true
  trimmed : Text.trim value = value

/-- The two forms of a status line. -/
inductive StatusForm
  /-- `HTTP/1.1`, the status, and a reason that does not end the line. -/
  | http (reason : List Char) (free : '\r' ∉ reason ∧ '\n' ∉ reason)
  /-- `Status:` and the status. -/
  | named

/-- A response to be written. -/
structure Draft where
  ending : Ending
  form : StatusForm
  status : Nat
  range : 100 ≤ status ∧ status ≤ 999
  fields : List DraftField
  body : Bytes

def StatusForm.line (status : Nat) : StatusForm → List Char
  | .http reason _ => "HTTP/1.1".toList ++ ([' '] ++ (Nat.toDigits 10 status ++ ([' '] ++ reason)))
  | .named => "Status:".toList ++ ([' '] ++ Nat.toDigits 10 status)

def DraftField.line (field : DraftField) : List Char := field.name ++ ':' :: ' ' :: field.value

/-- The header that is to be read. -/
def DraftField.header (field : DraftField) : Http.HeaderName × Http.HeaderValue :=
  (String.ofList (field.name.map Char.toLower), ⟨encode field.value, field.allowed⟩)

namespace Draft

/-- The lines before the blank one. -/
def lines (draft : Draft) : List (List Char) :=
  draft.form.line draft.status :: draft.fields.map DraftField.line

/-- The file. -/
def bytes (draft : Draft) : Bytes :=
  draft.lines.flatMap (fun line => encode line ++ draft.ending.bytes) ++
    (draft.ending.bytes ++ draft.body)

/-- What is to be read from it. -/
def answer (draft : Draft) : StoredResponse :=
  ⟨draft.status, draft.fields.map DraftField.header, draft.body⟩

end Draft

/-! ## §2 The lines of a draft -/

/-- The characters of a token are no blanks and no colons. -/
theorem solid_of_isTokenChar {c : Char} (h : Http.isTokenChar c = true) :
    Text.isBlank c = false ∧ c ≠ ':' := by
  have small : c.toNat < 128 := by
    rcases Bool.or_eq_true_iff.1 h with alphanumeric | mark
    · exact toNat_lt_of_isAlphanum alphanumeric
    · have all : (Http.tokenMarks.all fun c => c.toNat < 128) = true := by decide
      exact of_decide_eq_true (List.all_eq_true.1 all c (List.contains_iff_mem.1 mark))
  have all : ∀ n < 128, Http.isTokenChar (Char.ofNat n) = true →
      Text.isBlank (Char.ofNat n) = false ∧ Char.ofNat n ≠ ':' := by decide +kernel
  have same := all c.toNat small
  rw [Char.ofNat_toNat] at same
  exact same h

namespace DraftField

variable (field : DraftField)

theorem not_mem_name {c : Char} (h : Text.isBlank c = true ∨ c = ':') : c ∉ field.name := by
  intro mem
  have tokens := (Bool.and_eq_true_iff.1 field.token).2
  obtain ⟨solid, colon⟩ := solid_of_isTokenChar (List.all_eq_true.1 tokens c mem)
  rcases h with blank | same
  · rw [blank] at solid
    cases solid
  · exact colon same

/-- A value holds no control characters. -/
theorem not_mem_value {c : Char} (ascii : c.toNat < 0x80)
    (h : Http.isValueByte (UInt8.ofNat c.toNat) = false) : c ∉ field.value := by
  intro mem
  have allowed := List.all_eq_true.1 field.allowed _ ((Text.mem_encode_iff ascii).2 mem)
  rw [h] at allowed
  cases allowed

theorem line_free : '\r' ∉ field.line ∧ '\n' ∉ field.line := by
  constructor
  · simp [line, field.not_mem_name (c := '\r') (by decide),
      field.not_mem_value (c := '\r') (by decide) (by decide)]
  · simp [line, field.not_mem_name (c := '\n') (by decide),
      field.not_mem_value (c := '\n') (by decide) (by decide)]

theorem cut?_line : Text.cut? ':' field.line = some (field.name, ' ' :: field.value) :=
  Text.cut?_append_cons (field.not_mem_name (.inr rfl)) _

theorem trim_name : Text.trim field.name = field.name := by
  apply Text.trim_of_forall_not
  intro c mem
  exact Bool.eq_false_iff.2 fun blank => field.not_mem_name (.inl blank) mem

/-- A header line is read as the header it was written for. -/
theorem readHeader_line (short : field.name.length ≤ Http.longestName) :
    readHeader field.line = .ok field.header := by
  refine readHeader_eq_ok_iff.2 ⟨_, _, field.cut?_line, ?_, ?_⟩
  · rw [field.trim_name]
    exact if_pos (by rw [field.token, decide_eq_true short]; rfl)
  · rw [Text.trim_blank_cons (by decide), field.trimmed]
    exact dif_pos field.allowed

/-- What is read as a header has a name that is short enough. -/
theorem short_of_readHeader_line {header : Http.HeaderName × Http.HeaderValue}
    (h : readHeader field.line = .ok header) : field.name.length ≤ Http.longestName := by
  obtain ⟨before, behind, cut, named, -⟩ := readHeader_eq_ok_iff.1 h
  cases cut.symm.trans field.cut?_line
  rw [field.trim_name] at named
  unfold Http.headerName? at named
  split at named
  next both => exact of_decide_eq_true (Bool.and_eq_true_iff.1 both).2
  next => cases named

/-- A header line is not blank. -/
theorem trim_line_ne_nil : Text.trim field.line ≠ [] := by
  have colon : ':' ∈ field.line := List.mem_append_right _ List.mem_cons_self
  exact List.ne_nil_of_mem (Text.mem_trim colon (by decide))

end DraftField

/-- The digits of a status are read as the status. -/
theorem readCode_toDigits {status : Nat} (small : status < 65536) :
    readCode (Nat.toDigits 10 status) = some status := by
  obtain ⟨c, rest, digits⟩ := List.exists_cons_of_ne_nil (Nat.toDigits_ne_nil (b := 10) (n := status))
  have all : ∀ d ∈ Nat.toDigits 10 status, d.isDigit = true := isDigit_of_mem_toDigits
  have value := natOfDigits_toDigits status
  unfold readCode
  rw [digits] at all value ⊢
  have unsigned : c ≠ '+' := by
    rintro rfl
    exact absurd (all '+' List.mem_cons_self) (by decide)
  split
  next rest' h => exact absurd (List.cons.inj h).1 unsigned
  next =>
    have fits : natOfDigits (c :: rest) < UInt16.size := value ▸ small
    rw [if_pos (by rw [List.all_eq_true.2 all, decide_eq_true fits]; rfl), value]

theorem statusWord_line (status : Nat) (form : StatusForm) :
    statusWord (form.line status) = some (Nat.toDigits 10 status) := by
  have word : Text.IsWord (Nat.toDigits 10 status) :=
    isWord_of_digits Nat.toDigits_ne_nil isDigit_of_mem_toDigits
  have space : ∀ c ∈ [' '], Text.isBlank c = true := List.forall_mem_singleton.2 (by decide)
  cases form with
  | http reason free =>
    have version : Text.IsWord "HTTP/1.1".toList := by decide
    have first := Text.words_append_blanks version (List.cons_ne_nil ' ' []) space
      (Nat.toDigits 10 status ++ ([' '] ++ reason))
    have second := Text.words_append_blanks word (List.cons_ne_nil ' ' []) space reason
    have http : statusWord (StatusForm.line status (.http reason free))
        = (Text.words ("HTTP/1.1".toList ++
            ([' '] ++ (Nat.toDigits 10 status ++ ([' '] ++ reason)))))[1]? := rfl
    rw [http, first, second]
    rfl
  | named =>
    have named : Text.dropStart? "Status:".toList (StatusForm.line status .named)
        = some ([' '] ++ Nat.toDigits 10 status) :=
      Text.dropStart?_eq_some_iff.2 rfl
    have words : Text.words ([' '] ++ Nat.toDigits 10 status) = [Nat.toDigits 10 status] :=
      (Text.wordsFrom_blanks space _).trans (Text.words_of_isWord word)
    unfold statusWord
    rw [named]
    dsimp only
    rw [words]
    rfl

theorem StatusForm.line_free (status : Nat) (form : StatusForm) :
    '\r' ∉ form.line status ∧ '\n' ∉ form.line status := by
  have returns := not_mem_toDigits (c := '\r') (by decide) status
  have feeds := not_mem_toDigits (c := '\n') (by decide) status
  unfold line
  generalize Nat.toDigits 10 status = digits at returns feeds
  cases form with
  | http reason free => simp [returns, feeds, free]
  | named => simp [returns, feeds]

theorem readStatus_line {draft : Draft} :
    readStatus (draft.form.line draft.status) = .ok draft.status := by
  have small : draft.status < 65536 := Nat.lt_of_le_of_lt draft.range.2 (by decide)
  have word := congrArg (Option.bind · readCode) (statusWord_line draft.status draft.form)
  exact readStatus_eq_ok_iff.2 ⟨word.trans (readCode_toDigits small), draft.range⟩

theorem readHeaders_lines {fields : List DraftField}
    (short : ∀ field ∈ fields, field.name.length ≤ Http.longestName) :
    readHeaders (fields.map DraftField.line) = .ok (fields.map DraftField.header) := by
  induction fields with
  | nil => rfl
  | cons field rest ih =>
    obtain ⟨hfield, hrest⟩ := List.forall_mem_cons.1 short
    exact (readHeaders_cons_eq_ok_iff field.trim_line_ne_nil).2
      ⟨field.header, rest.map DraftField.header, rfl, field.readHeader_line hfield, ih hrest⟩

/-! ## §3 The whole file -/

/-- Behind lines that all end as the blank line does, and are not empty, the blank line is the first
    one, and closes the head. -/
theorem firstCounted_of_same {ending : Ending} {lines : List Line}
    (same : ∀ line ∈ lines, line.ending = ending ∧ line.text ≠ []) {before : Option Ending}
    (behind : lines ≠ [] ∨ before = some ending) : FirstCounted closes before lines ending := by
  induction lines generalizing before with
  | nil =>
    rcases behind with none | rfl
    · exact absurd rfl none
    · cases ending <;> rfl
  | cons line rest ih =>
    obtain ⟨⟨hending, solid⟩, hrest⟩ := List.forall_mem_cons.1 same
    have notEmpty : line.text.isEmpty = false := by simpa using solid
    refine ⟨by rw [notEmpty, Bool.false_and], ih hrest (.inr ?_)⟩
    rw [hending]

/-- The lines of a draft as they stand in the file. -/
def Draft.fileLines (draft : Draft) : List Line :=
  .ofText (draft.form.line draft.status) draft.ending (draft.form.line_free draft.status) ::
    draft.fields.map fun field => .ofText field.line draft.ending field.line_free

theorem Draft.closingBlank?_bytes (draft : Draft) : closingBlank? draft.bytes
    = some ⟨draft.fileLines, draft.ending, draft.body⟩ := by
  have whole : draft.bytes = Cut.bytes ⟨draft.fileLines, draft.ending, draft.body⟩ := by
    unfold Draft.bytes Cut.bytes Draft.lines Draft.fileLines
    rw [List.flatMap_cons, List.flatMap_cons, List.flatMap_map, List.flatMap_map]
    rfl
  have status : draft.form.line draft.status ≠ [] := by
    cases draft.form <;> exact List.cons_ne_nil _ _
  have same : ∀ line ∈ draft.fileLines, line.ending = draft.ending ∧ line.text ≠ [] := by
    refine List.forall_mem_cons.2 ⟨⟨rfl, Text.encode_ne_nil status⟩, List.forall_mem_map.2 ?_⟩
    exact fun field _ => ⟨rfl, Text.encode_ne_nil (List.append_ne_nil_of_right_ne_nil _ nofun)⟩
  rw [whole]
  exact cutFrom_of_firstCounted (firstCounted_of_same same (.inl (List.cons_ne_nil _ _))) draft.body

/-- What is read from the file is what is read from the lines of the draft. -/
theorem parseStored_bytes_eq_ok_iff {draft : Draft} {stored : StoredResponse} :
    parseStored draft.bytes = .ok stored ↔ stored.status = draft.status ∧
      readHeaders (draft.fields.map DraftField.line) = .ok stored.headers ∧
      stored.body = draft.body := by
  have texts : draft.lines.map encode = draft.fileLines.map Line.text := by
    rw [Draft.lines, Draft.fileLines, List.map_cons, List.map_cons, List.map_map, List.map_map]
    rfl
  rw [parseStored_eq_ok_iff, draft.closingBlank?_bytes]
  constructor
  · rintro ⟨cut, ⟨⟩, ⟨status, fields, hlines, hstatus, hheaders⟩, hbody⟩
    have same : status :: fields = draft.lines :=
      (List.map_inj_right fun _ _ => Text.encode_inj.1).1 (hlines.trans texts.symm)
    obtain ⟨rfl, rfl⟩ := List.cons.inj same
    exact ⟨Except.ok.inj (hstatus.symm.trans readStatus_line), hheaders, hbody⟩
  · rintro ⟨hstatus, hheaders, hbody⟩
    refine ⟨_, rfl, ⟨_, _, texts, ?_, hheaders⟩, hbody⟩
    rw [hstatus]
    exact readStatus_line

/-- A response that was written to a file is read back: its status, its headers in order with their
    names in lower case, and its body. -/
theorem parseStored_written (draft : Draft)
    (short : ∀ field ∈ draft.fields, field.name.length ≤ Http.longestName) :
    parseStored draft.bytes = .ok draft.answer :=
  parseStored_bytes_eq_ok_iff.2 ⟨rfl, readHeaders_lines short, rfl⟩

/-- A page whose body begins with a line feed and holds both runs of bytes. -/
def trickyDraft : Draft where
  ending := .crlf
  form := .http "Not Found".toList (by decide)
  status := 404
  range := by decide
  fields := [⟨"X-A".toList, "b: c".toList, by decide, by decide, by decide⟩,
    ⟨"X-A".toList, [], by decide, by decide, by decide⟩]
  body := Text.utf8 "\n\nY: z\r\n\r\nrest"

theorem parseStored_trickyDraft :
    (∀ field ∈ trickyDraft.fields, field.name.length ≤ Http.longestName) ∧
    parseStored (Text.utf8 "HTTP/1.1 404 Not Found\r\nX-A: b: c\r\nX-A: \r\n\r\n\n\nY: z\r\n\r\nrest")
      = .ok ⟨404, [("x-a", ⟨Text.utf8 "b: c", by decide⟩), ("x-a", ⟨[], by decide⟩)],
          Text.utf8 "\n\nY: z\r\n\r\nrest"⟩ := by
  have short : ∀ field ∈ trickyDraft.fields, field.name.length ≤ Http.longestName := by decide
  exact ⟨short, parseStored_written trickyDraft short⟩

/-- A page with a header whose name is longer than a header name can be. -/
def longDraft : Draft where
  ending := .crlf
  form := .named
  status := 200
  range := by decide
  fields := [⟨List.replicate (Http.longestName + 1) 'a', ['v'], by
    simp [Http.isToken, Http.isTokenChar], by decide, by decide⟩]
  body := []

theorem long_name_is_refused : ¬∃ stored, parseStored longDraft.bytes = .ok stored := by
  rintro ⟨stored, accepted⟩
  obtain ⟨-, read, -⟩ := parseStored_bytes_eq_ok_iff.1 accepted
  obtain ⟨header, others, -, first, -⟩ :=
    (readHeaders_cons_eq_ok_iff (DraftField.trim_line_ne_nil _)).1 read
  have short := DraftField.short_of_readHeader_line _ first
  rw [List.length_replicate] at short
  exact absurd short (Nat.not_succ_le_self _)

end StaticSite.Site
