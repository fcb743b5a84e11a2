/-
  ANSWERS: the status of what is answered, and what its headers say of a file.

  A page that cannot be built keeps its status, so the status tells which kind of answer it is
  (`status_buildOr`).  Nodes that are no directories are never answered with a redirect, and not
  found only if they are not there (`status_renderFile`).

  A request that asks for no part of a file, and has no older copy of it, gets all of it.  Then the
  headers SAY its type, its encoding and its length (`answer_of_unconditional`), if type and encoding
  may stand in a header at all (`Sendable`).

  Numbered structure:
    §1  statuses
    §2  what may be sent
    §3  all of a file
    §4  the answer of a site
-/
import StaticSite.Proofs.Site.Confinement
import StaticSite.Proofs.Site.Directories
import StaticSite.Proofs.Stream.Prepared

namespace StaticSite

open Http (HeaderValue Headers Request Response)

/-! ## §1 Statuses -/

namespace Http

variable {F : Type}

/-- A page that cannot be built keeps its status. -/
theorem status_buildOr (what : String) (status : Nat) (fields : List (HeaderName × String))
    (body : Body F) : (buildOr what status fields body).value.status = status := by
  unfold buildOr
  split
  next response h =>
    obtain ⟨headers, -, rfl⟩ := Option.map_eq_some_iff.1 h
    rfl
  next => rfl

theorem status_notModified (lastModified : String) :
    (notModified lastModified : Logged (Response F)).value.status = 304 := status_buildOr ..

theorem status_forbidden : (forbidden : Logged (Response F)).value.status = 403 := status_buildOr ..

theorem status_redirect (target : String) :
    (redirect target : Logged (Response F)).value.status = 302 := status_buildOr ..

theorem status_htmlPage (content : String) (isHead : Bool) :
    (htmlPage content isHead : Logged (Response F)).value.status = 200 := by
  unfold htmlPage dataPage
  exact status_buildOr ..

end Http

namespace Site

variable {F : Type} {fs : FileSystem F} {root : Root}

theorem status_renderListing (dir : Node) (names : Option (List String)) (request : Request) :
    (renderListing fs root dir names request).value.status = 200 := by
  unfold renderListing
  rw [Logged.value_bind]
  exact Http.status_htmlPage _ _

/-- The statuses of answers with a file: none of them is a redirect, or says that there is no file. -/
def fileStatuses : List Nat := [200, 206, 304, 403, 416]

/-- The statuses of answers with content of a file, or with none because no range selects any. -/
def contentStatuses : List Nat := [200, 206, 416]

theorem contentStatuses_subset : contentStatuses ⊆ fileStatuses := by decide

theorem status_prepare {rangeHeader : Option String} {boundary : String} {media : MediaType}
    {total : UInt64} {file : F} {content : Logged (Stream.Prepared F)}
    (h : Stream.prepare rangeHeader boundary media total file = .ok content) :
    content.value.status ∈ contentStatuses := by
  have whole : 200 ∈ contentStatuses := by decide
  have part : 206 ∈ contentStatuses := by decide
  have nothing : 416 ∈ contentStatuses := by decide
  have outcome := Stream.comesTo_of_prepare rangeHeader boundary media total file
  rw [h] at outcome
  change Stream.ComesTo _ _ _ _ _ (.ok content.value) at outcome
  cases outcome with
  | whole _ head => exact head.status ▸ whole
  | range _ _ _ _ head => exact head.status ▸ part
  | noRange _ _ head => exact head.status ▸ nothing
  | ranges _ _ _ _ _ head => exact head.status ▸ part
  | noRanges _ _ _ head => exact head.status ▸ nothing

/-- The answer with an open file: that nothing has changed, or what is prepared. -/
theorem renderOpen_eq_ok_iff {file : F} {stat : Stat} {media : MediaType} {request : Request}
    {boundary : String} {answer : Logged (Response F)} :
    let modified := stat.modified.modifiedSeconds
    renderOpen file stat media request boundary = .ok answer ↔
      if Http.isNotModified (request.headers.text? "if-modified-since") modified then
        answer = Http.notModified (Http.formatDate modified)
      else
        ∃ content, Stream.prepare (request.headers.text? "range") boundary media stat.size file
            = .ok content ∧ answer = renderContent stat request content := by
  dsimp only [renderOpen]
  split
  next =>
    rw [Except.ok.injEq]
    exact eq_comm
  next =>
    cases Stream.prepare (request.headers.text? "range") boundary media stat.size file with
    | error overflow => exact ⟨nofun, nofun⟩
    | ok content =>
      constructor
      · rintro ⟨⟩
        exact ⟨content, rfl, rfl⟩
      · rintro ⟨_, ⟨⟩, rfl⟩
        rfl

/-- What is prepared gives the answer its status. -/
theorem status_renderContent (stat : Stat) (request : Request) (content : Logged (Stream.Prepared F)) :
    (renderContent stat request content).value.status = content.value.status := rfl

theorem status_renderOpen {file : F} {stat : Stat} {media : MediaType} {request : Request}
    {boundary : String} {answer : Logged (Response F)}
    (h : renderOpen file stat media request boundary = .ok answer) :
    answer.value.status ∈ fileStatuses := by
  have cases := renderOpen_eq_ok_iff.1 h
  split at cases
  next =>
    rw [cases, Http.status_notModified]
    decide
  next =>
    obtain ⟨content, prepared, rfl⟩ := cases
    rw [status_renderContent]
    exact contentStatuses_subset (status_prepare prepared)

theorem status_renderFile {t : Target} {stat : Stat} {request : Request} {boundary : String}
    {response : Response F} (h : (renderFile fs t stat request boundary).value = .ok response) :
    response.status ∈ fileStatuses := by
  unfold renderFile at h
  split at h
  next =>
    cases h
    have forbidden : (forbiddenFile t.path : Logged (Response F)).value.status = 403 :=
      Http.status_forbidden (F := F)
    show (forbiddenFile t.path).value.status ∈ fileStatuses
    rw [forbidden]
    decide
  next => cases h
  next file _ =>
    split at h
    next => cases h
    next answer opened =>
      cases h
      exact status_renderOpen opened

/-- A node that is there and is no directory is answered as a file. -/
theorem status_renderNode_of_file {n : Node} (found : Found fs n) (file : n.isDir = false)
    {media : MediaType} {request : Request} {boundary : String} {response : Response F}
    (h : (renderNode fs root n media request boundary).value = .ok response) :
    response.status ∈ fileStatuses := by
  obtain ⟨s, hstat, kind⟩ := found
  rw [file] at kind
  simp only [renderNode, snapshot, hstat, kind, Bool.false_eq_true, if_false] at h
  exact status_renderFile h

/-- Only a directory that is asked for without a slash at the end is answered with a redirect: to
    its path with one. -/
theorem redirect_of_renderNode {n : Node} {media : MediaType} {request : Request}
    {boundary : String} {response : Response F}
    (h : (renderNode fs root n media request boundary).value = .ok response)
    (status : response.status = 302) :
    endsWithSlash request.uri.path = false ∧
    response = (Http.redirect (withSlash request.uri) : Logged (Response F)).value := by
  dsimp only [renderNode] at h
  split at h
  next =>
    cases h
    have notFound : (Http.notFound : Logged (Response F)).value.status = 404 := Http.status_buildOr ..
    exact absurd (notFound.symm.trans status) (by decide)
  next stat _ =>
    split at h
    next =>
      cases h
      cases slash : endsWithSlash request.uri.path with
      | true =>
        have listing : (renderListing fs root n none request).value.status = 200 :=
          status_renderListing n none request
        simp only [renderDirectory, slash, if_true] at status
        exact absurd (listing.symm.trans status) (by decide)
      | false =>
        simp only [renderDirectory, slash]
        exact ⟨trivial, rfl⟩
    next =>
      have other := status_renderFile h
      rw [status] at other
      exact absurd other (by decide : 302 ∉ fileStatuses)

/-! ## §2 What may be sent -/

/-- A text that may stand in a header. -/
def Sendable (text : String) : Prop := (Text.utf8 text).all Http.isValueByte = true

/-- Headers say a text under a name; without a text the name is absent. -/
def Says (headers : Headers) (name : Http.HeaderName) (text : Option String) : Prop :=
  (headers.get? name).map HeaderValue.bytes = text.map Text.utf8

/-- A text that may stand in a header makes a value with its bytes. -/
theorem bytes_of_sendable {text : String} (h : Sendable text) :
    (HeaderValue.ofString? text).map HeaderValue.bytes = some (Text.utf8 text) := by
  have value : HeaderValue.ofString? text = some ⟨Text.utf8 text, h⟩ := dif_pos h
  rw [value]
  rfl

theorem sendable_of_plain {text : String} (h : Text.isPlain text = true) : Sendable text := by
  obtain ⟨value, hvalue, -⟩ := Http.exists_value_of_plain h
  rw [Sendable, ← HeaderValue.bytes_of_ofBytes? hvalue]
  exact value.allowed

theorem sendable_toString (n : Nat) : Sendable (toString n) := sendable_of_plain (Text.isPlain_toString n)

/-- A page is built if its fields may stand in headers. -/
theorem value_buildOr (what : String) (status : Nat) {name name' : Http.HeaderName}
    {text text' : String} (h : Sendable text) (h' : Sendable text') (body : Http.Body F) :
    (Http.buildOr what status [(name, text), (name', text')] body).value
      = ⟨status, [(name, ⟨Text.utf8 text, h⟩), (name', ⟨Text.utf8 text', h'⟩)], body⟩ := by
  have value : HeaderValue.ofString? text = some ⟨Text.utf8 text, h⟩ := dif_pos h
  have value' : HeaderValue.ofString? text' = some ⟨Text.utf8 text', h'⟩ := dif_pos h'
  have built : Response.build? status [(name, text), (name', text')] body
      = some ⟨status, [(name, ⟨Text.utf8 text, h⟩), (name', ⟨Text.utf8 text', h'⟩)], body⟩ := by
    simp only [Response.build?, List.foldlM, Headers.append?, value, value']
    rfl
  unfold Http.buildOr
  rw [built]
  rfl

/-- The listing that a client gets. -/
theorem body_renderListing (dir : Node) (names : Option (List String)) {request : Request}
    (full : request.isHead = false) :
    (renderListing fs root dir names request).value.body
      = .full (Text.utf8 (listingPage (entries fs root dir names).value request.uri.text)) := by
  have html : Sendable "text/html; charset=utf-8" := by unfold Sendable; decide
  have length := sendable_toString
    (Text.utf8 (listingPage (entries fs root dir names).value request.uri.text)).length
  unfold renderListing Http.htmlPage Http.dataPage Http.lengthText
  rw [Logged.value_bind, value_buildOr "HTML" 200 html length, full]
  rfl

/-- All that a root may say of a file may stand in a header. -/
structure Root.Sendable (root : Root) : Prop where
  types : ∀ e ∈ root.types, Site.Sendable e.2
  encodings : ∀ e ∈ root.encodings, Site.Sendable e.2
  defaultType : Site.Sendable root.defaultType

/-- All that is built in may be sent. -/
theorem sendable_usual (path : FilePath) : (Root.usual path).Sendable := by
  have types : ∀ e ∈ Media.builtinTypes, Text.isPlain e.2 = true := by decide +kernel
  have encodings : ∀ e ∈ Media.builtinEncodings, Text.isPlain e.2 = true := by decide +kernel
  exact ⟨fun e he => sendable_of_plain (types e he), fun e he => sendable_of_plain (encodings e he),
    sendable_of_plain (by decide : Text.isPlain fallbackType = true)⟩

/-- What a table has under a key is one of its entries. -/
theorem mem_of_get? {α : Type} {d : Dict α} {key : String} {value : α}
    (h : d.get? key = some value) : (key, value) ∈ d := by
  induction d with
  | nil => cases h
  | cons e rest ih =>
    obtain ⟨k, v⟩ := e
    unfold Dict.get? at h
    split at h
    next same =>
      cases h
      rw [same]
      exact List.mem_cons_self
    next => exact List.mem_cons_of_mem _ (ih h)

theorem Root.Sendable.type (sendable : root.Sendable) (ext : String) :
    Site.Sendable ((root.types.get? ext).getD root.defaultType) := by
  cases h : root.types.get? ext with
  | none => exact sendable.defaultType
  | some type => exact sendable.types _ (mem_of_get? h)

/-- The type and the encoding of a file may stand in headers if all of its root may. -/
theorem Root.Sendable.media (sendable : root.Sendable) (name : String) :
    Site.Sendable (root.mediaForName name).contentType ∧
    ∀ encoding, (root.mediaForName name).encoding = some encoding → Site.Sendable encoding := by
  unfold Root.mediaForName Media.resolve
  obtain ⟨stem, ext⟩ := Media.splitExtension name
  dsimp only
  split
  next encoding h =>
    refine ⟨sendable.type _, ?_⟩
    rintro _ ⟨⟩
    exact sendable.encodings _ (mem_of_get? h)
  next => exact ⟨sendable.type _, nofun⟩

/-! ## §3 All of a file -/

/-- What is said after headers that do not have the name. -/
theorem says_append {own more : Headers} {name : Http.HeaderName} {text : Option String}
    (absent : own.get? name = none) (h : Says more name text) : Says (own ++ more) name text := by
  have none : own.find? (fun field => field.1 == name) = none := Option.map_eq_none_iff.1 absent
  rw [Says, Headers.get?, List.find?_append, none, Option.none_or]
  exact h

/-- The answer to a request for all of a file: its headers say what the file is. -/
structure Whole (response : Response F) (media : MediaType) (size : UInt64) : Prop where
  status : response.status = 200
  contentType : Says response.headers "content-type" (some media.contentType)
  contentEncoding : Says response.headers "content-encoding" media.encoding
  contentLength : Says response.headers "content-length" (some (toString size.toNat))

theorem says_of_gives {fields : List Stream.Field} (distinct : (fields.map Prod.fst).Nodup)
    {name : Http.HeaderName} {text : Option String} (h : Stream.Gives fields name text)
    (sendable : ∀ s, text = some s → Sendable s) : Says (Stream.setAll [] fields).value name text := by
  rw [Says, Stream.get?_of_gives distinct h]
  cases text with
  | none => rfl
  | some s => exact bytes_of_sendable (sendable s rfl)

/-- The fields of a file give its type, its encoding if it has one, and its length. -/
theorem gives_contentFields (media : MediaType) (size : UInt64) :
    let fields := Stream.contentFields media size
    Stream.Gives fields "content-type" (some media.contentType) ∧
    Stream.Gives fields "content-encoding" media.encoding ∧
    Stream.Gives fields "content-length" (some (toString size.toNat)) := by
  obtain ⟨contentType, encoding⟩ := media
  cases encoding with
  | none => simp [Stream.Gives, Stream.contentFields, Stream.lengthField]
  | some encoding => simp [Stream.Gives, Stream.contentFields, Stream.lengthField]

/-- A request with neither a condition nor a range gets all of the file. -/
theorem whole_of_unconditional {media : MediaType} (contentType : Sendable media.contentType)
    (encoding : ∀ encoding, media.encoding = some encoding → Sendable encoding) (file : F)
    (stat : Stat) {request : Request} (unconditional : request.headers.text? "if-modified-since" = none)
    (unranged : request.headers.text? "range" = none) (boundary : String) :
    ∃ answer, renderOpen file stat media request boundary = .ok answer ∧
      Whole answer.value media stat.size := by
  have changed : Http.isNotModified none stat.modified.modifiedSeconds = false := rfl
  have own (name : Http.HeaderName) (h : name ∉ ["accept-ranges", "last-modified"])
      (date : String) :
      (Stream.setAll [] [acceptRanges, ("last-modified", date)]).value.get? name = none :=
    Stream.get?_setAll_of_not_mem h []
  obtain ⟨_, distinct⟩ := List.nodup_cons.1 (Stream.distinct_rangeFields media stat.size "")
  obtain ⟨givesType, givesEncoding, givesLength⟩ := gives_contentFields media stat.size
  refine ⟨renderContent stat request (Stream.prepareWhole media stat.size file), ?_, ?_⟩
  · simp only [renderOpen, unconditional, changed, unranged, Bool.false_eq_true, if_false]
    rfl
  · -- the headers of the answer itself name none of these
    refine ⟨rfl, says_append (own _ (by decide) _) ?_, says_append (own _ (by decide) _) ?_,
      says_append (own _ (by decide) _) ?_⟩
    · exact says_of_gives distinct givesType (by rintro _ ⟨⟩; exact contentType)
    · exact says_of_gives distinct givesEncoding encoding
    · exact says_of_gives distinct givesLength (by rintro _ ⟨⟩; exact sendable_toString _)

/-- A file that can be opened is answered with all of it. -/
theorem answer_of_unconditional {n : Node} {stat : Stat} (hstat : fs.stat? n.path = some stat)
    (isFile : stat.isDir = false) {file : F} (opened : fs.openFile n.path = .ok file)
    {media : MediaType} (contentType : Sendable media.contentType)
    (encoding : ∀ encoding, media.encoding = some encoding → Sendable encoding) {request : Request}
    (unconditional : request.headers.text? "if-modified-since" = none)
    (unranged : request.headers.text? "range" = none) (boundary : String) :
    ∃ response, (renderNode fs root n media request boundary).value = .ok response ∧
      Whole response media stat.size := by
  obtain ⟨answer, hanswer, whole⟩ :=
    whole_of_unconditional contentType encoding file stat unconditional unranged boundary
  refine ⟨answer.value, ?_, whole⟩
  simp only [renderNode, snapshot, hstat, isFile, Bool.false_eq_true, if_false, renderFile, opened,
    hanswer]
  rfl

/-! ## §4 The answer of a site -/

/-- The answer that is made of what serving a path gave, if there is one. -/
def answerOf (served : Except Failure (Response F)) : Except Overflow (Response F) :=
  match served with
  | .ok response => .ok response
  | .error (.reported _) => .ok (Http.internalError : Logged (Response F)).value
  | .error .overflow => .error ⟨⟩

/-- A request that goes to a mount is answered with what its path gives below the root there. -/
theorem value_respond_of_found (site : Site) (memory : Memory) (fs : FileSystem F) {request : Request}
    (served : request.method = "GET" ∨ request.method = "HEAD")
    (unfixed : site.data.get? request.uri.path = none) {place : Nat} {mount : Mount} {below : String}
    (found : site.findMount request.uri.path = some (place, mount, below)) {segments : List String}
    (split : splitSegments below = some segments) (boundary : String) :
    (respond site memory fs request boundary).value.1
      = answerOf (servePath fs mount.root (memory[place]?.getD []) segments request boundary).value.1 := by
  rw [respond_of_found site fs served unfixed found, split]
  simp only [respondBelow, Logged.value_bind]
  cases (servePath fs mount.root (memory[place]?.getD []) segments request boundary).value.1 with
  | ok response => rfl
  | error failure =>
    cases failure with
    | reported e => rfl
    | overflow => rfl

/-! ## §5 Requests that are answered -/

/-- The request asks for one range at most. -/
def AsksForOne (request : Request) : Prop :=
  ∀ specs, Range.asked? (request.headers.text? "range") = some specs → specs.length ≤ 1

theorem asksForOne_of_unranged {request : Request} (unranged : request.headers.text? "range" = none) :
    AsksForOne request := by
  intro specs asked
  rw [unranged] at asked
  cases asked

/-- No length overflows in the answer to a request for one range. -/
theorem exists_renderOpen {request : Request} (one : AsksForOne request) (file : F) (stat : Stat)
    (media : MediaType) (boundary : String) :
    ∃ answer, renderOpen file stat media request boundary = .ok answer := by
  dsimp only [renderOpen]
  split
  · exact ⟨_, rfl⟩
  · cases h : Stream.prepare (request.headers.text? "range") boundary media stat.size file with
    | ok content => exact ⟨_, rfl⟩
    | error overflow =>
      obtain ⟨specs, asked, several⟩ := Stream.several_of_overflow h
      exact absurd (one specs asked) (Nat.not_le.2 several)

/-- An answer is no overflow. -/
theorem ok_ne_overflow {α : Type} (a : α) : (Except.ok a : Except Failure α) ≠ .error .overflow :=
  nofun

theorem renderFile_ne_overflow {request : Request} (one : AsksForOne request) (t : Target)
    (stat : Stat) (boundary : String) :
    (renderFile fs t stat request boundary).value ≠ .error .overflow := by
  unfold renderFile
  split
  next => exact nofun
  next => exact nofun
  next file _ =>
    obtain ⟨answer, opened⟩ := exists_renderOpen one file stat t.media boundary
    rw [opened]
    exact ok_ne_overflow _

theorem renderNode_ne_overflow {request : Request} (one : AsksForOne request) (n : Node)
    (media : MediaType) (boundary : String) :
    (renderNode fs root n media request boundary).value ≠ .error .overflow := by
  dsimp only [renderNode]
  split
  next => exact nofun
  next stat _ =>
    split
    next => exact nofun
    next => exact renderFile_ne_overflow one _ stat boundary

theorem renderStored_ne_overflow (path : FilePath) (request : Request) :
    (renderStored fs path request).value ≠ .error .overflow := by
  unfold renderStored
  split
  next => exact nofun
  next => exact nofun
  next => exact nofun
  next =>
    split
    next => exact nofun
    next => exact nofun

theorem servePath_ne_overflow {request : Request} (one : AsksForOne request) (cache : MediaCache)
    (segments : List String) (boundary : String) :
    (servePath fs root cache segments request boundary).value.1 ≠ .error .overflow := by
  rw [servePath, Logged.value_bind]
  cases (traverse fs root segments).value with
  | node n => exact renderNode_ne_overflow one n _ boundary
  | listing n => exact ok_ne_overflow _
  | processed processor n =>
    cases processor with
    | stored => exact renderStored_ne_overflow n.path request
    | source => exact renderNode_ne_overflow one n _ boundary
  | notFound => exact ok_ne_overflow _
  | insecure => exact ok_ne_overflow _

/-- Whatever path serves a request for one range, there is an answer. -/
theorem exists_answerOf {served : Except Failure (Response F)} (h : served ≠ .error .overflow) :
    ∃ response, answerOf served = .ok response := by
  cases served with
  | ok response => exact ⟨response, rfl⟩
  | error failure =>
    cases failure with
    | reported e => exact ⟨_, rfl⟩
    | overflow => exact absurd rfl h

end Site

end StaticSite
