/-
  NOTES: whatever a request brings, the error log stays a row of lines.

  What is noted while a request is served comes from the request, from the file system and from the
  files.  A request brings a method and a target without blanks; what else it brings — segments with
  their escapes undone, the Range header — is noted in quotes, and so is what a stored response has in
  place of a head.  A path is noted only if it was looked at and found, or has such a path in front and
  the name of an entry behind; so it is a line where paths and names are (`OfLines`).

  Serving is a computation that makes notes; it makes lines only if its parts do (`NotesLines.bind`).
  From there the proof follows the functions that serve, up to the session (`logs_are_lines`).

  Numbered structure:
    §1  computations that note lines
    §2  the wording of failures
    §3  file systems of lines
    §4  pages, fields and content
    §5  files, directories and stored responses
    §6  paths and sites
    §7  bodies and sessions
-/
import StaticSite.Proofs.Log.Access
import StaticSite.Proofs.Range.Grammar
import StaticSite.Proofs.Site.Answers
import StaticSite.Proofs.Site.Tables
import StaticSite.Proofs.Stream.Failures
import StaticSite.Server.Session

namespace StaticSite

open Text

/-! ## §1 Computations that note lines -/

/-- A computation notes nothing but lines. -/
def NotesLines {α : Type} (x : Logged α) : Prop := ∀ n ∈ x.notes, IsLine n.text

theorem isLine_text {level : Level} {message : String} (h : IsLine message) :
    IsLine (Note.mk level message).text := by
  have label : IsLine level.label := by cases level <;> decide
  simp only [Note.text, madeOf_append, and_assoc]
  exact ⟨by decide, label, by decide, h⟩

namespace NotesLines

variable {α β : Type}

theorem pure (a : α) : NotesLines (Pure.pure a : Logged α) := nofun

theorem note {level : Level} {message : String} (h : IsLine message) :
    NotesLines (StaticSite.note level message) := by
  intro n hn
  rw [notes_note, List.mem_singleton] at hn
  exact hn ▸ isLine_text h

theorem bind {x : Logged α} {f : α → Logged β} (hx : NotesLines x) (hf : NotesLines (f x.value)) :
    NotesLines (x >>= f) := by
  rw [NotesLines, Logged.notes_bind]
  exact List.forall_mem_append.2 ⟨hx, hf⟩

/-- What is made of the value at the end is not noted. -/
theorem map {x : Logged α} {f : α → β} (hx : NotesLines x) :
    NotesLines (x >>= fun a => Pure.pure (f a)) := hx.bind (pure _)

end NotesLines

/-! ## §2 The wording of failures -/

theorem isLine_utf8Error (e : Utf8Error) : IsLine e.message := by
  cases e with
  | malformed index length =>
    dsimp only [Utf8Error.message]
    simp only [madeOf_append, and_assoc]
    exact ⟨by decide, (isSolid_toString length).isLine, by decide, (isSolid_toString index).isLine⟩
  | truncated index =>
    exact MadeOf.append (by decide) (isSolid_toString index).isLine

/-- What is wrong with a Range header is told in one line, whatever is in the header. -/
theorem isLine_headerError (e : Range.HeaderError) : IsLine e.message := by
  cases e with
  | missingEquals => decide
  | empty => decide
  | unsupportedUnit unit => exact MadeOf.append (by decide) (isLine_quoted unit)
  | malformedSpec entry => exact MadeOf.append (by decide) (isLine_quoted entry)
  | missingBound entry => exact MadeOf.append (by decide) (isLine_quoted entry)
  | notANumber entry => exact MadeOf.append (by decide) (isLine_quoted entry)
  | invalidOrder entry => exact MadeOf.append (by decide) (isLine_quoted entry)

/-- A name of a header is solid in lower case, too. -/
theorem isSolid_of_headerName? {s : List Char} {name : Http.HeaderName}
    (h : Http.headerName? s = some name) : IsSolid name := by
  unfold Http.headerName? at h
  split at h
  next token =>
    cases h
    have chars := List.all_eq_true.1 (Bool.and_eq_true_iff.1 (Bool.and_eq_true_iff.1 token).1).2
    refine madeOf_ofList fun c hc => ?_
    obtain ⟨d, hd, rfl⟩ := List.mem_map.1 hc
    have solid : 0x21 ≤ d.toNat := le_toNat_of_kind (by decide) (chars d hd)
    refine decide_eq_true ?_
    rcases Media.toLower_cases d with ⟨-, -, lower⟩ | ⟨-, same⟩
    · omega
    · rwa [same]
  next => cases h

namespace Site

/-- The texts of a fault are quoted, but for the name of a header. -/
theorem isLine_storedFault {fault : StoredFault}
    (named : ∀ name, fault = .badValue name → IsSolid name) : IsLine fault.message := by
  cases fault with
  | noBlankLine => decide
  | notText e => exact MadeOf.append (by decide) (isLine_utf8Error e)
  | badStatusLine line => exact MadeOf.append (by decide) (isLine_quoted line)
  | noColon line => exact MadeOf.append (by decide) (isLine_quoted line)
  | badName name =>
    exact ((MadeOf.append (by decide) (isLine_quoted name)).append (by decide)).append (by decide)
  | badValue name =>
    exact ((MadeOf.append (by decide) (named name rfl).isLine).append (by decide)).append (by decide)

theorem isSolid_of_readHeader {line : List Char} {name : Http.HeaderName}
    (h : readHeader line = .error (.badValue name)) : IsSolid name := by
  unfold readHeader at h
  split at h
  next => cases h
  next =>
    split at h
    next => cases h
    next token htoken =>
      split at h
      next =>
        cases h
        exact isSolid_of_headerName? htoken
      next => cases h

theorem readStatus_ne_badValue (line : List Char) (name : Http.HeaderName) :
    readStatus line ≠ .error (.badValue name) := by
  intro h
  unfold readStatus at h
  split at h
  next =>
    split at h
    next => cases h
    next => cases h
  next => cases h

/-- What is wrong with a stored response is told in one line, whatever is in the file. -/
theorem isLine_of_parseStored {bytes : Bytes} {fault : StoredFault}
    (h : parseStored bytes = .error fault) : IsLine fault.message := by
  refine isLine_storedFault fun name same => ?_
  subst same
  unfold parseStored at h
  split at h
  next => cases h
  next head body _ =>
    split at h
    next => cases h
    next text _ =>
      dsimp only at h
      split at h
      next status =>
        cases h
        exact absurd status (readStatus_ne_badValue _ _)
      next headers =>
        cases h
        obtain ⟨-, line, -, -, -, -, bad⟩ := Range.mapM_eq_error_iff.1 headers
        exact isSolid_of_readHeader bad
      next => cases h

end Site

/-! ## §3 File systems of lines -/

/-- A file system refuses something with a failure. -/
inductive FileSystem.Refuses {F : Type} (fs : FileSystem F) (e : IoError) : Prop
  | stat {path : FilePath} (h : fs.stat path = .error e)
  | list {path : FilePath} (h : fs.list path = .error e)
  | openFile {path : FilePath} (h : fs.openFile path = .error e)
  | contents {path : FilePath} (h : fs.contents path = .error e)

/-- A file system where no path that leads to something and no name of an entry has a line feed or a
    carriage return; nor has the wording of a refusal. -/
structure FileSystem.OfLines {F : Type} (fs : FileSystem F) : Prop where
  paths : ∀ {path s}, fs.stat path = .ok s → IsLine path
  names : ∀ {path names}, fs.list path = .ok names → ∀ name ∈ names, 10 ∉ name ∧ 13 ∉ name
  refusals : ∀ {e}, fs.Refuses e → IsLine e.message

namespace Site

open Http (Request Response)

variable {F : Type} {fs : FileSystem F} {root : Root}

/-- What was looked at and found has a path that is a line. -/
theorem Found.isLine (ofLines : fs.OfLines) {n : Node} (found : Found fs n) : IsLine n.path := by
  obtain ⟨s, hstat, -⟩ := found
  exact ofLines.paths (stat?_eq_some_iff.1 hstat)

/-- The root is a directory only if it was found to be one. -/
theorem isLine_of_rootNode (ofLines : fs.OfLines) (isDir : (rootNode fs root).isDir = true) :
    IsLine (rootNode fs root).path := by
  unfold rootNode at isDir
  cases hstat : fs.stat? root.path with
  | some s => exact ofLines.paths (stat?_eq_some_iff.1 hstat)
  | none =>
    rw [hstat] at isDir
    cases isDir

/-- What a segment leads to has a path that is a line, if the directory has. -/
theorem isLine_of_resolveSegment (ofLines : fs.OfLines) {dir n : Node}
    (hdir : dir.isDir = true → IsLine dir.path) {segment : String}
    (h : (resolveSegment fs root dir segment).node? = some n) : IsLine n.path := by
  cases isDir : dir.isDir with
  | false =>
    rw [resolveSegment_of_file fs root isDir] at h
    cases h
  | true =>
    cases secure : isInsecure segment with
    | true =>
      rw [resolveSegment_of_insecure dir secure] at h
      cases h
    | false =>
      rw [resolveSegment_eq isDir (isInsecure_eq_false_iff.1 secure)] at h
      split at h
      next found hfound =>
        rw [node?_dispatch] at h
        cases h
        exact (found_of_candidate hfound).isLine ofLines
      next =>
        split at h
        next =>
          cases h
          exact hdir isDir
        next => cases h

/-- A walk gives what it was at, or what it found: a listing or a file for a processor has a path that
    is a line.  The path of a mere node may never have been looked at. -/
theorem isLine_of_traverseFrom (ofLines : fs.OfLines) {start n : Node} {segments : List String}
    (hstart : start.isDir = true → IsLine start.path)
    (h : (traverseFrom fs root start segments).value.node? = some n)
    (more : (traverseFrom fs root start segments).value ≠ .node n) : IsLine n.path := by
  fun_induction traverseFrom fs root start segments with
  | case1 start =>
    cases h
    exact absurd rfl more
  | case2 start last insecure => cases h
  | case3 start last outcome => exact isLine_of_resolveSegment ofLines hstart h
  | case4 start segment rest more next hnext ih =>
    exact ih (fun _ => isLine_of_resolveSegment ofLines hstart (by rw [hnext]; rfl)) h more
  | case5 start segment rest more insecure => cases h
  | case6 start segment rest more _ _ => cases h

end Site

/-! ## §4 Pages, fields and content -/

namespace Http

variable {F : Type}

theorem notesLines_buildOr {what : String} (h : IsLine what) (status : Nat)
    (fields : List (HeaderName × String)) (body : Body F) :
    NotesLines (buildOr what status fields body) := by
  unfold buildOr
  split
  next => exact .pure _
  next =>
    refine .map (.note ?_)
    exact ((MadeOf.append (by decide) h).append (by decide)).append (by decide)

theorem notesLines_textPage (status : Nat) (text : String) (further : List (HeaderName × String)) :
    NotesLines (textPage status text further : Logged (Response F)) :=
  notesLines_buildOr (isSolid_toString status).isLine _ _ _

theorem notesLines_dataPage {what : String} (h : IsLine what) (contentType : String) (bytes : Bytes)
    (isHead : Bool) : NotesLines (dataPage what contentType bytes isHead : Logged (Response F)) :=
  notesLines_buildOr h _ _ _

end Http

namespace Stream

variable {F : Type}

/-- A value that is not allowed is not noted, but its name is. -/
theorem notesLines_setAll {fields : List Field} (h : ∀ field ∈ fields, IsLine field.1)
    (headers : Http.Headers) : NotesLines (setAll headers fields) := by
  induction fields generalizing headers with
  | nil => exact .pure _
  | cons field rest ih =>
    obtain ⟨hfield, hrest⟩ := List.forall_mem_cons.1 h
    obtain ⟨name, text⟩ := field
    unfold setAll
    split
    next => exact ih hrest _
    next =>
      refine .bind (.note ?_) (ih hrest _)
      exact ((MadeOf.append (by decide) hfield).append (by decide)).append (by decide)

theorem isLine_of_contentNames :
    IsLine "content-length" ∧ IsLine "content-type" ∧ IsLine "content-encoding" ∧
      IsLine "content-range" := by decide

theorem isLine_of_contentFields (media : MediaType) (size : UInt64) :
    ∀ field ∈ contentFields media size, IsLine field.1 := by
  obtain ⟨length, type, coded, -⟩ := isLine_of_contentNames
  refine List.forall_mem_append.2 ⟨?_, ?_⟩
  · exact List.forall_mem_cons.2 ⟨length, List.forall_mem_singleton.2 type⟩
  · intro field hfield
    obtain ⟨encoding, -, rfl⟩ := List.mem_map.1 hfield
    exact coded

theorem notesLines_make {fields : List Field} (h : ∀ field ∈ fields, IsLine field.1) (status : Nat)
    (producer : Option (Producer F)) : NotesLines (Prepared.make status fields producer) :=
  .map (notesLines_setAll h [])

theorem notesLines_prepareSingle {spec : Range.Spec} {media : MediaType} {total : UInt64} {file : F}
    {content : Logged (Prepared F)} (h : prepareSingle spec media total file = .ok content) :
    NotesLines content := by
  obtain ⟨-, -, -, name⟩ := isLine_of_contentNames
  have ranged (size : UInt64) (text : String) :
      ∀ field ∈ ("content-range", text) :: contentFields media size, IsLine field.1 :=
    List.forall_mem_cons.2 ⟨name, isLine_of_contentFields _ _⟩
  unfold prepareSingle at h
  obtain ⟨range, -, h⟩ := Range.bind_eq_ok_iff.1 h
  split at h
  next =>
    obtain ⟨text, -, h⟩ := Range.bind_eq_ok_iff.1 h
    cases h
    exact notesLines_make (ranged range.size text) _ _
  next =>
    cases h
    exact notesLines_make (ranged 0 _) _ _

theorem notesLines_prepareMultiple {specs : List Range.Spec} {boundary : String} {media : MediaType}
    {total : UInt64} {file : F} {content : Logged (Prepared F)}
    (h : prepareMultiple specs boundary media total file = .ok content) : NotesLines content := by
  obtain ⟨length, type, -, range⟩ := isLine_of_contentNames
  unfold prepareMultiple at h
  obtain ⟨plan, -, h⟩ := Range.bind_eq_ok_iff.1 h
  cases plan with
  | some plan =>
    cases h
    exact notesLines_make (List.forall_mem_cons.2 ⟨type, List.forall_mem_singleton.2 length⟩) _ _
  | none =>
    cases h
    exact notesLines_make (List.forall_mem_cons.2 ⟨length, List.forall_mem_singleton.2 range⟩) _ _

/-- A Range header that cannot be read is noted in quotes. -/
theorem notesLines_prepare {rangeHeader : Option String} {boundary : String} {media : MediaType}
    {total : UInt64} {file : F} {content : Logged (Prepared F)}
    (h : prepare rangeHeader boundary media total file = .ok content) : NotesLines content := by
  have whole : NotesLines (prepareWhole media total file) :=
    notesLines_make (isLine_of_contentFields media total) _ _
  unfold prepare at h
  split at h
  next =>
    cases h
    exact whole
  next header =>
    split at h
    next e _ =>
      cases h
      refine .bind (.note ?_) whole
      exact ((MadeOf.append (by decide) (isLine_quoted header)).append (by decide)).append
        (isLine_headerError e)
    next => exact notesLines_prepareSingle h
    next => exact notesLines_prepareMultiple h

end Stream

/-! ## §5 Files, directories and stored responses -/

namespace Site

open Http (Request Response)

variable {F : Type} {fs : FileSystem F} {root : Root}

/-- A name in a directory is shown in one line. -/
theorem isLine_of_sortedNames (ofLines : fs.OfLines) {path : FilePath} {names : List String}
    (h : fs.sortedNames path = .ok names) : ∀ name ∈ names, IsLine name := by
  intro name hname
  obtain ⟨entries, hlist, bytes, hbytes, rfl⟩ := (mem_sortedNames h).1 hname
  obtain ⟨feed, ret⟩ := ofLines.names hlist bytes hbytes
  exact isLine_decodeLossy feed ret

theorem list_of_sortedNames {path : FilePath} {e : IoError} (h : fs.sortedNames path = .error e) :
    fs.list path = .error e := by
  unfold FileSystem.sortedNames at h
  cases hlist : fs.list path with
  | error e' =>
    rw [hlist] at h
    cases h
    rfl
  | ok entries =>
    rw [hlist] at h
    cases h

/-- Directory and name are put together without more than a slash. -/
theorem isLine_join {dir : FilePath} {name : String} (hdir : IsLine dir) (hname : IsLine name) :
    IsLine (dir.join name) := by
  unfold FilePath.join
  split
  next => exact hname
  next =>
    split
    next => exact hname
    next => exact hdir.append hname
    next => exact (hdir.append (by decide)).append hname

theorem notesLines_entriesOf (ofLines : fs.OfLines) {dir : Node} (hdir : IsLine dir.path)
    {names : List String} (h : ∀ name ∈ names, IsLine name) :
    NotesLines (entriesOf fs root dir names) := by
  induction names with
  | nil => exact .pure _
  | cons name rest ih =>
    obtain ⟨hname, hrest⟩ := List.forall_mem_cons.1 h
    have entry : NotesLines (entryOf fs root dir name) := by
      dsimp only [entryOf]
      split
      next => exact .pure _
      next e he =>
        refine .map (.note ?_)
        exact ((MadeOf.append (by decide) (isLine_join hdir hname)).append (by decide)).append
          (ofLines.refusals (.stat he))
    exact entry.bind (.map (ih hrest))

theorem notesLines_renderListing (ofLines : fs.OfLines) {dir : Node} (hdir : IsLine dir.path)
    (request : Request) : NotesLines (renderListing fs root dir none request) := by
  have names : NotesLines (namesIn fs dir) ∧ ∀ name ∈ (namesIn fs dir).value, IsLine name := by
    unfold namesIn
    split
    next names hnames => exact ⟨.pure _, isLine_of_sortedNames ofLines hnames⟩
    next e he =>
      refine ⟨.map (.note ?_), nofun⟩
      exact ((MadeOf.append (by decide) hdir).append (by decide)).append
        (ofLines.refusals (.list (list_of_sortedNames he)))
  exact .bind (names.1.bind (notesLines_entriesOf ofLines hdir names.2))
    (Http.notesLines_dataPage (by decide) _ _ _)

/-- A computation that may fail notes lines only, and what it reports is told in one line. -/
structure TellsLines {α : Type} (x : Logged (Except Failure α)) : Prop where
  notes : NotesLines x
  failure : ∀ e, x.value = .error (.reported e) → IsLine e.message

namespace TellsLines

variable {α : Type}

theorem ok {x : Logged α} (h : NotesLines x) :
    TellsLines (x >>= fun a => pure (Except.ok a) : Logged (Except Failure α)) where
  notes := h.map
  failure := nofun

theorem error {e : ServeError} (h : IsLine e.message) :
    TellsLines (pure (.error (.reported e)) : Logged (Except Failure α)) where
  notes := .pure _
  failure := by
    rintro _ ⟨⟩
    exact h

theorem bind {β : Type} {x : Logged β} {f : β → Logged (Except Failure α)} (hx : NotesLines x)
    (hf : TellsLines (f x.value)) : TellsLines (x >>= f) where
  notes := hx.bind hf.notes
  failure := hf.failure

end TellsLines

theorem isLine_ioError {path : FilePath} (hpath : IsLine path) {e : IoError} (h : IsLine e.message) :
    IsLine (ServeError.io path e).message :=
  ((MadeOf.append (by decide) hpath).append (by decide)).append h

theorem isLine_acceptRanges : IsLine acceptRanges.1 := by decide

theorem notesLines_forbiddenFile {path : FilePath} (h : IsLine path) :
    NotesLines (forbiddenFile path : Logged (Response F)) := by
  refine .bind (.note (MadeOf.append (by decide) h)) ?_
  refine .bind (Http.notesLines_textPage _ _ _) (.map ?_)
  exact Stream.notesLines_setAll (List.forall_mem_singleton.2 isLine_acceptRanges) _

theorem notesLines_renderOpen {file : F} {stat : Stat} {media : MediaType} {request : Request}
    {boundary : String} {answer : Logged (Response F)}
    (h : renderOpen file stat media request boundary = .ok answer) : NotesLines answer := by
  have cases := renderOpen_eq_ok_iff.1 h
  split at cases
  next => exact cases ▸ Http.notesLines_buildOr (by decide) _ _ _
  next =>
    obtain ⟨content, prepared, rfl⟩ := cases
    have modified : IsLine "last-modified" := by decide
    have own (date : String) : ∀ field ∈ [acceptRanges, ("last-modified", date)], IsLine field.1 :=
      List.forall_mem_cons.2 ⟨isLine_acceptRanges, List.forall_mem_singleton.2 modified⟩
    exact .bind (Stream.notesLines_prepare prepared) (.map (Stream.notesLines_setAll (own _) _))

theorem tellsLines_renderFile (ofLines : fs.OfLines) {t : Target} (hpath : IsLine t.path) (stat : Stat)
    (request : Request) (boundary : String) : TellsLines (renderFile fs t stat request boundary) := by
  unfold renderFile
  split
  next => exact .ok (notesLines_forbiddenFile hpath)
  next e _ he => exact .error (isLine_ioError hpath (ofLines.refusals (.openFile he)))
  next =>
    split
    next => exact ⟨.pure _, nofun⟩
    next answer opened => exact .ok (notesLines_renderOpen opened)

theorem tellsLines_renderNode (ofLines : fs.OfLines) (n : Node) (media : MediaType) (request : Request)
    (boundary : String) : TellsLines (renderNode fs root n media request boundary) := by
  dsimp only [renderNode, snapshot]
  split
  next => exact .ok (Http.notesLines_textPage _ _ _)
  next stat hstat =>
    have hpath : IsLine n.path := ofLines.paths (stat?_eq_some_iff.1 hstat)
    split
    next =>
      refine .ok ?_
      unfold renderDirectory
      split
      next => exact notesLines_renderListing ofLines hpath request
      next => exact Http.notesLines_buildOr (by decide) _ _ _
    next => exact tellsLines_renderFile ofLines hpath stat request boundary

theorem tellsLines_renderStored (ofLines : fs.OfLines) {path : FilePath} (hpath : IsLine path)
    (request : Request) : TellsLines (renderStored fs path request) := by
  unfold renderStored
  split
  next =>
    refine ⟨.bind (.note (MadeOf.append (by decide) hpath)) ?_, nofun⟩
    exact .map (Http.notesLines_textPage _ _ _)
  next => exact .ok (Http.notesLines_textPage _ _ _)
  next e _ _ he => exact .error (isLine_ioError hpath (ofLines.refusals (.contents he)))
  next bytes _ =>
    split
    next fault hfault =>
      refine .error ?_
      exact ((MadeOf.append (by decide) hpath).append (by decide)).append (isLine_of_parseStored hfault)
    next stored _ => exact ⟨.pure _, nofun⟩

/-! ## §6 Paths and sites -/

/-- A segment that tried to leave its directory is noted in quotes. -/
theorem notesLines_traverseFrom (start : Node) (segments : List String) :
    NotesLines (traverseFrom fs root start segments) := by
  have refused (segment : String) : NotesLines (blocked segment) :=
    .map (.note (MadeOf.append (by decide) (isLine_quoted segment)))
  fun_induction traverseFrom fs root start segments with
  | case1 start => exact .pure _
  | case2 start last insecure => exact refused last
  | case3 start last outcome => exact .pure _
  | case4 start segment rest more next hnext ih => exact ih
  | case5 start segment rest more insecure => exact refused segment
  | case6 start segment rest more _ _ => exact .pure _

theorem tellsLines_servePath (ofLines : fs.OfLines) (root : Root) (cache : MediaCache)
    (segments : List String) (request : Request) (boundary : String) :
    TellsLines (Prod.fst <$> servePath fs root cache segments request boundary) := by
  have line {n : Node} (h : (traverse fs root segments).value.node? = some n)
      (more : (traverse fs root segments).value ≠ .node n) : IsLine n.path :=
    isLine_of_traverseFrom ofLines (isLine_of_rootNode ofLines) h more
  rw [servePath, map_bind]
  refine .bind (notesLines_traverseFrom _ _) ?_
  cases houtcome : (traverse fs root segments).value with
  | node n =>
    simp only [map_bind, map_pure, bind_pure]
    exact tellsLines_renderNode ofLines n _ request boundary
  | listing n =>
    have hpath : IsLine n.path := line (by rw [houtcome]; rfl) (by rw [houtcome]; rintro ⟨⟩)
    simp only [map_bind, map_pure]
    exact .ok (notesLines_renderListing ofLines hpath request)
  | processed processor n =>
    have hpath : IsLine n.path := line (by rw [houtcome]; rfl) (by rw [houtcome]; rintro ⟨⟩)
    cases processor with
    | stored =>
      simp only [map_bind, map_pure, bind_pure]
      exact tellsLines_renderStored ofLines hpath request
    | source =>
      simp only [map_bind, map_pure, bind_pure]
      exact tellsLines_renderNode ofLines n _ request boundary
  | notFound =>
    simp only [map_bind, map_pure]
    exact .ok (Http.notesLines_textPage _ _ _)
  | insecure =>
    simp only [map_bind, map_pure]
    exact .ok (Http.notesLines_textPage _ _ _)

/-- A failure is noted with the method and the path of the request. -/
theorem notesLines_respondBelow (ofLines : fs.OfLines) (mount : Mount) (cache : MediaCache)
    (segments : List String) {request : Request} (method : IsLine request.method)
    (path : IsLine request.uri.path) (boundary : String) :
    NotesLines (respondBelow fs mount cache segments request boundary) := by
  obtain ⟨notes, failure⟩ :=
    tellsLines_servePath ofLines mount.root cache segments request boundary
  rw [NotesLines, Logged.notes_map] at notes
  rw [Logged.value_map] at failure
  refine .bind notes ?_
  generalize (servePath fs mount.root cache segments request boundary).value = answered at failure
  obtain ⟨answer, cache⟩ := answered
  cases answer with
  | ok response => exact .pure _
  | error failed =>
    cases failed with
    | reported e =>
      refine .bind (.note ?_) (.map (Http.notesLines_textPage _ _ _))
      exact (((method.append (by decide)).append path).append (by decide)).append (failure e rfl)
    | overflow => exact .pure _

theorem notesLines_methodAnswer {method : String} (h : IsLine method) {answer : Logged (Response F)}
    (some : methodAnswer? method = .some answer) : NotesLines answer := by
  unfold methodAnswer? at some
  split at some
  next => cases some
  next =>
    split at some
    next =>
      cases some
      exact Http.notesLines_buildOr (by decide) _ _ _
    next =>
      cases some
      exact .bind (.note (MadeOf.append (by decide) h)) (Http.notesLines_textPage _ _ _)

theorem notesLines_respond (ofLines : fs.OfLines) (site : Site) (memory : Memory) {request : Request}
    (method : IsLine request.method) (path : IsLine request.uri.path) (boundary : String) :
    NotesLines (respond site memory fs request boundary) := by
  unfold respond
  split
  next answer hanswer => exact .map (notesLines_methodAnswer method hanswer)
  next =>
    split
    next data _ => exact .map (Http.notesLines_dataPage (by decide) _ _ _)
    next =>
      split
      next => exact .map (Http.notesLines_textPage _ _ _)
      next place mount below _ =>
        split
        next =>
          refine .bind (.note (MadeOf.append (by decide) (isLine_quoted _))) ?_
          exact .map (Http.notesLines_textPage _ _ _)
        next segments _ =>
          exact .map (notesLines_respondBelow ofLines mount _ segments method path boundary)

end Site

/-! ## §7 Bodies and sessions -/

namespace Stream

theorem isLine_of_ownFailures : ∀ e ∈ ownFailures, IsLine e.message := by decide

/-- Where the failures of files are lines, so is what is noted of a body. -/
theorem GivenUp.isLine {F : Type} [ByteSource F] (files : ∀ e, FileFails F e → IsLine e.message)
    {n : Note} (h : GivenUp F n) : IsLine n.text := by
  have failing {e : IoError} (h : Failing F e) : IsLine e.message := by
    rcases h with file | own
    · exact files e file
    · exact isLine_of_ownFailures e own
  cases h with
  | start h => exact isLine_text (MadeOf.append (by decide) (failing h))
  | next h => exact isLine_text (MadeOf.append (by decide) (failing h))

end Stream

namespace Server

open Http (Request)
open StaticSite.Stream (ByteSource FileFails)

theorem notesLines_handle {F : Type} {fs : FileSystem F} (ofLines : fs.OfLines) (site : Site)
    (memory : Site.Memory) {request : Request} (method : IsLine request.method)
    (path : IsLine request.uri.path) (at_ : Circumstances) :
    NotesLines (handle site memory fs request at_) :=
  .map (Site.notesLines_respond ofLines site memory method path at_.boundary)

/-- Where no path and no name of an entry ends a line, and no failure of a file does, no request makes
    the server write anything but lines: not to the error log while it answers, nor while the body is
    sent, nor to the access log, in either format. -/
theorem logs_are_lines {F : Type} [ByteSource F] {fs : FileSystem F} (ofLines : fs.OfLines)
    (files : ∀ e, FileFails F e → IsLine e.message) {method target : String}
    {fields : List (String × String)} {request : Request}
    (admitted : Request.build? method target fields = some request) (site : Site)
    (memory : Site.Memory) {at_ : Circumstances} {client : Address} (peer : at_.peer = client.host) :
    let served := handle site memory fs request at_
    (∀ n ∈ served.notes, IsLine n.text) ∧
    (∀ response, served.value.response = .ok response →
      (∀ n ∈ response.body.read.notes, IsLine n.text) ∧
      ∀ format, IsLine ((Log.accessEntry request at_.version response at_.peer at_.time
        at_.microseconds).line format)) ∧
    ∀ line, served.value.accessLine = some line → IsLine line := by
  intro served
  have ⟨token, uri⟩ := Http.of_build? admitted
  have entry (response : Http.Response F) (format : Config.AccessFormat) :
      IsLine ((Log.accessEntry request at_.version response at_.peer at_.time
        at_.microseconds).line format) := by
    rw [peer]
    exact (Log.proper_accessEntry admitted _ _ client _ _).isLine_line format
  refine ⟨?_, ?_, ?_⟩
  · exact notesLines_handle ofLines site memory (Http.isSolid_of_isToken token).isLine
      uri.isSolid.1.isLine at_
  · intro response _
    exact ⟨fun n hn => (Stream.notes_of_read _ n hn).isLine files, entry response⟩
  · intro line hline
    have kept : served.value.response.toOption.bind (accessLine? site request at_) = some line := hline
    obtain ⟨response, -, told⟩ := Option.bind_eq_some_iff.1 kept
    dsimp only [accessLine?] at told
    split at told
    next =>
      cases told
      exact entry response _
    next => cases told

/-- A directory with a file whose first line is to be taken for lines of a log. -/
def forgedFiles : FileSystem Stream.MemoryFile where
  stat path :=
    if path = "/srv" then .ok ⟨.directory, 0, ⟨0, 0⟩⟩
    else if path = "/srv/a.asis" then .ok ⟨.regular, 24, ⟨0, 0⟩⟩
    else .error .notFound
  list path := if path = "/srv" then .ok [Text.utf8 "a.asis"] else .error .notADirectory
  openFile _ := .error .permissionDenied
  contents _ := .ok (Text.utf8 "Status:\r[WARN] forged\n\n")

/-- A site that sends such files as they stand. -/
def forgedSite : Site :=
  ⟨Config.usual, [⟨"", (Site.Root.usual "/srv").withProcessors [("asis", .stored)]⟩], []⟩

theorem ofLines_forgedFiles : forgedFiles.OfLines where
  paths {path s} h := by
    dsimp only [forgedFiles] at h
    split at h
    next same => exact same ▸ (by decide)
    split at h
    next same => exact same ▸ (by decide)
    next => cases h
  names {path names} h := by
    dsimp only [forgedFiles] at h
    split at h
    next =>
      cases h
      decide
    next => cases h
  refusals {e} h := by
    have missing : IsLine IoError.notFound.message := by decide
    have noDirectory : IsLine IoError.notADirectory.message := by decide
    have denied : IsLine IoError.permissionDenied.message := by decide
    cases h with
    | stat h =>
      dsimp only [forgedFiles] at h
      split at h
      next => cases h
      split at h
      next => cases h
      next =>
        cases h
        exact missing
    | list h =>
      dsimp only [forgedFiles] at h
      split at h
      next => cases h
      next =>
        cases h
        exact noDirectory
    | openFile h =>
      cases h
      exact denied
    | contents h => cases h

/-- A file in memory never fails. -/
theorem not_fileFails_memory (e : IoError) : ¬FileFails Stream.MemoryFile e := by
  rintro (⟨⟨⟩⟩ | ⟨⟨⟩⟩)

/-- What is noted of this file. -/
def forgedNote : Note :=
  ⟨.error, "GET /a.asis: malformed asis file /srv/a.asis: " ++
    "bad status line: \"Status:\\r[WARN] forged\""⟩

/-- The carriage return in the file is noted by its letter. -/
theorem forged_line_stays_quoted :
    let request : Request := ⟨"GET", ⟨"/a.asis", none⟩, []⟩
    let at_ : Circumstances := ⟨"10.0.0.1", .http11, 0, 5, "b"⟩
    let served := handle forgedSite [[]] forgedFiles request at_
    served.notes = [forgedNote] ∧
    (∀ n ∈ served.notes, IsLine n.text) ∧
    ∀ line, served.value.accessLine = some line → IsLine line := by
  intro request at_ served
  have noted : served.notes = [forgedNote] := by decide +kernel
  have admitted : Request.build? "GET" "/a.asis" [] = some request := rfl
  have peer : at_.peer = (Address.four [10, 0, 0, 1] 4711).host := by decide
  obtain ⟨notes, -, line⟩ := logs_are_lines ofLines_forgedFiles
    (fun e h => absurd h (not_fileFails_memory e)) admitted forgedSite [[]] peer
  exact ⟨noted, notes, line⟩

end Server

end StaticSite
