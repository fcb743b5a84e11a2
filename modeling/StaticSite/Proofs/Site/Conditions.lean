/-
  CONDITIONAL REQUESTS: a client that names the date it was told.

  The answer with a file says when the file was changed, in whole seconds rounded up.  A client keeps
  that date and sends it back; the server reads it as the very second it wrote
  (`Http.parseDate_formatDate`), so what is compared are the two rounded seconds, then and now.

  1. The headers of an answer have the date in front, and no content says another
     (`lastModified_renderContent`).
  2. A request whose date is no older than the file is told that nothing has changed
     (`renderOpen_of_current`); any other is answered as if it had named no date
     (`renderOpen_of_changed`).
  3. Both together are the law of the echo (`echo_of_lastModified`): it holds for whatever else the
     later request asks for, its ranges too, as the condition goes before them.
-/
import StaticSite.Proofs.Http.Dates
import StaticSite.Proofs.Site.Answers

namespace StaticSite

open Http (HeaderValue Headers Request Response)

/-! ## Requests without a header -/

namespace Http

/-- The headers that do not have a name. -/
def Headers.without (headers : Headers) (name : HeaderName) : Headers :=
  headers.filter fun field => field.1 != name

/-- The request without the date that it names. -/
def Request.unconditional (request : Request) : Request :=
  { request with headers := request.headers.without "if-modified-since" }

theorem Headers.get?_without_self (headers : Headers) (name : HeaderName) :
    (headers.without name).get? name = none := by
  rw [Headers.get?, Option.map_eq_none_iff, List.find?_eq_none]
  intro field mem
  have kept := (List.mem_filter.1 mem).2
  rw [bne_iff_ne] at kept
  rw [beq_iff_eq]
  exact kept

/-- Other names keep their values. -/
theorem Headers.get?_without_ne (headers : Headers) {name other : HeaderName} (h : other ≠ name) :
    (headers.without name).get? other = headers.get? other := by
  have kept : (fun field : HeaderName × HeaderValue =>
      decide ((field.1 != name) = true ∧ (field.1 == other) = true)) = fun field => field.1 == other := by
    funext field
    by_cases hother : field.1 = other
    · simp [hother, h]
    · simp [hother]
  rw [Headers.get?, Headers.without, List.find?_filter, kept]
  rfl

end Http

namespace Site

variable {F : Type}

/-! ## Open files -/

/-- A regular file that can be opened, and what is known of it. -/
structure Readable (fs : FileSystem F) (path : FilePath) (stat : Stat) (file : F) : Prop where
  seen : fs.stat? path = some stat
  regular : stat.kind = .regular
  opened : fs.openFile path = .ok file

/-- A file that can be opened is answered with it. -/
theorem renderNode_of_readable {fs : FileSystem F} {n : Node} {stat : Stat} {file : F}
    (readable : Readable fs n.path stat file) (root : Root) (media : MediaType) (request : Request)
    (boundary : String) :
    renderNode fs root n media request boundary
      = match renderOpen file stat media request boundary with
        | .error _ => pure (.error .overflow)
        | .ok answer => Except.ok <$> answer := by
  have notDir : stat.isDir = false := by
    rw [Stat.isDir, readable.regular]
    rfl
  simp only [renderNode, snapshot, readable.seen, notDir, Bool.false_eq_true, if_false, renderFile,
    readable.opened]
  rfl

/-- The response is what is answered with the open file. -/
theorem value_renderNode_of_readable {fs : FileSystem F} {n : Node} {stat : Stat} {file : F}
    (readable : Readable fs n.path stat file) {root : Root} {media : MediaType} {request : Request}
    {boundary : String} {response : Response F} :
    (renderNode fs root n media request boundary).value = .ok response ↔
      ∃ answer, renderOpen file stat media request boundary = .ok answer ∧ answer.value = response := by
  rw [renderNode_of_readable readable root media request boundary]
  cases renderOpen file stat media request boundary with
  | error overflow => exact ⟨nofun, nofun⟩
  | ok answer =>
    constructor
    · rintro ⟨⟩
      exact ⟨answer, rfl, rfl⟩
    · rintro ⟨_, ⟨⟩, rfl⟩
      rfl

/-- The answer with content says when it was changed. -/
theorem lastModified_renderContent (stat : Stat) (request : Request)
    (content : Logged (Stream.Prepared F)) :
    (renderContent stat request content).value.headers.get? "last-modified"
      = HeaderValue.ofString? (Http.formatDate stat.modified.modifiedSeconds) := by
  obtain ⟨date, hdate, -⟩ := Http.exists_value_of_plain
    (Http.isPlain_formatDate stat.modified.modifiedSeconds)
  have own : (Stream.setAll [] [acceptRanges,
      ("last-modified", Http.formatDate stat.modified.modifiedSeconds)]).value.get? "last-modified"
      = some date := by
    have distinct : ([acceptRanges, ("last-modified",
        Http.formatDate stat.modified.modifiedSeconds)].map Prod.fst).Nodup :=
      (by decide : ["accept-ranges", "last-modified"].Nodup)
    rw [Stream.get?_setAll distinct (List.mem_cons_of_mem _ List.mem_cons_self), hdate]
    rfl
  obtain ⟨field, found, hfield⟩ := Option.map_eq_some_iff.1 own
  rw [hdate]
  -- the first field of the name is one of the answer itself
  show (List.find? _ (_ ++ _)).map _ = some date
  rw [List.find?_append, found, ← hfield]
  rfl

/-- The note that nothing has changed has no body, and says the date it is given. -/
theorem notModified_of_plain {date : String} (plain : Text.isPlain date = true) :
    let response := (Http.notModified date : Logged (Response F)).value
    response.status = 304 ∧ response.body = .empty ∧
    response.headers.text? "last-modified" = some date := by
  intro response
  have sendable := sendable_of_plain plain
  have bytes : Sendable "bytes" := sendable_of_plain (by decide)
  obtain ⟨value, hvalue, htext⟩ := Http.exists_value_of_plain plain
  have same : HeaderValue.ofString? date = some ⟨Text.utf8 date, sendable⟩ := dif_pos sendable
  rw [hvalue, Option.some.injEq] at same
  have answer : response = ⟨304, [("last-modified", ⟨Text.utf8 date, sendable⟩),
      ("accept-ranges", ⟨Text.utf8 "bytes", bytes⟩)], .empty⟩ :=
    value_buildOr "304" 304 sendable bytes .empty
  rw [answer, ← same]
  exact ⟨rfl, rfl, htext⟩

/-- A client that has the file is told so. -/
theorem renderOpen_of_current (file : F) {stat : Stat} (media : MediaType) {request : Request}
    (current : Http.isNotModified (request.headers.text? "if-modified-since")
      stat.modified.modifiedSeconds = true) (boundary : String) :
    renderOpen file stat media request boundary
      = .ok (Http.notModified (Http.formatDate stat.modified.modifiedSeconds)) :=
  if_pos current

/-- A client that does not have the file is answered as if it had said nothing of a date. -/
theorem renderOpen_of_changed {file : F} {stat : Stat} {media : MediaType} {request : Request}
    (changed : Http.isNotModified (request.headers.text? "if-modified-since")
      stat.modified.modifiedSeconds = false) (boundary : String) :
    renderOpen file stat media request boundary
      = renderOpen file stat media request.unconditional boundary := by
  have nothing : request.unconditional.headers.text? "if-modified-since" = none :=
    congrArg (·.bind HeaderValue.text?) (request.headers.get?_without_self "if-modified-since")
  have range : request.unconditional.headers.text? "range" = request.headers.text? "range" :=
    congrArg (·.bind HeaderValue.text?)
      (request.headers.get?_without_ne (by decide : "range" ≠ "if-modified-since"))
  have unread : Http.isNotModified none stat.modified.modifiedSeconds = false := rfl
  dsimp only [renderOpen]
  rw [changed, nothing, unread, range]
  rfl

/-- Such an answer is never that nothing has changed. -/
theorem status_of_changed {file : F} {stat : Stat} {media : MediaType} {request : Request}
    (changed : Http.isNotModified (request.headers.text? "if-modified-since")
      stat.modified.modifiedSeconds = false) {boundary : String} {answer : Logged (Response F)}
    (h : renderOpen file stat media request boundary = .ok answer) : answer.value.status ≠ 304 := by
  have cases := renderOpen_eq_ok_iff.1 h
  rw [changed, if_neg Bool.false_ne_true] at cases
  obtain ⟨content, prepared, rfl⟩ := cases
  intro status
  have kind := status_prepare prepared
  exact absurd (status ▸ kind : 304 ∈ contentStatuses) (by decide)

/-- An answer that is not that nothing has changed says when the file was. -/
theorem lastModified_of_changed {file : F} {stat : Stat} {media : MediaType} {request : Request}
    (changed : Http.isNotModified (request.headers.text? "if-modified-since")
      stat.modified.modifiedSeconds = false) {boundary : String} {answer : Logged (Response F)}
    (h : renderOpen file stat media request boundary = .ok answer) :
    answer.value.headers.get? "last-modified"
      = HeaderValue.ofString? (Http.formatDate stat.modified.modifiedSeconds) := by
  have cases := renderOpen_eq_ok_iff.1 h
  rw [changed, if_neg Bool.false_ne_true] at cases
  obtain ⟨content, -, rfl⟩ := cases
  exact lastModified_renderContent stat request content

/-- A request for one range of a file that can be read is answered. -/
theorem exists_answer_of_readable {fs : FileSystem F} {n : Node} {stat : Stat} {file : F}
    (readable : Readable fs n.path stat file) {request : Request} (one : AsksForOne request)
    (root : Root) (media : MediaType) (boundary : String) :
    ∃ answer, (renderNode fs root n media request boundary).value = .ok answer := by
  obtain ⟨page, opened⟩ := exists_renderOpen one file stat media boundary
  exact ⟨_, (value_renderNode_of_readable readable).2 ⟨page, opened, rfl⟩⟩

/-! ## The echo -/

/-- A date that was told is compared as the second it was made of. -/
theorem isNotModified_formatDate {told : Int} (known : inCalendar told = true) (modified : Int) :
    Http.isNotModified (some (Http.formatDate told)) modified = decide (modified ≤ told) := by
  unfold Http.isNotModified
  rw [Option.bind_some, Http.parseDate_formatDate known]

/-- A client that was told when a file was changed, and names this date in a later request, is told
    that nothing has changed exactly if the file was not changed after the second of that date; else
    it gets what it would get without the date.  The file may be another by then, and the request may
    ask for anything; one that asks for a single range, or for none, is always answered. -/
theorem echo_of_lastModified {fs : FileSystem F} {n : Node} {stat : Stat} {file : F}
    (readable : Readable fs n.path stat file)
    (known : inCalendar stat.modified.modifiedSeconds = true) (root : Root) (media : MediaType)
    {first : Request} (unconditional : first.headers.get? "if-modified-since" = none)
    (boundary : String) :
    ∃ date, date.text? = some (Http.formatDate stat.modified.modifiedSeconds) ∧
      (∀ answer, (renderNode fs root n media first boundary).value = .ok answer →
        answer.headers.get? "last-modified" = some date) ∧
      (AsksForOne first → ∃ answer, (renderNode fs root n media first boundary).value = .ok answer) ∧
      ∀ {later : FileSystem F} {stat' : Stat} {file' : F}, Readable later n.path stat' file' →
        ∀ {request : Request}, request.headers.get? "if-modified-since" = some date →
          let reply := renderNode later root n media request boundary
          let current := stat'.modified.modifiedSeconds ≤ stat.modified.modifiedSeconds
          (current → ∃ response, reply.value = .ok response ∧ response.status = 304 ∧
            response.body = .empty ∧ response.headers.text? "last-modified"
              = some (Http.formatDate stat'.modified.modifiedSeconds)) ∧
          (¬current → reply = renderNode later root n media request.unconditional boundary ∧
            (∀ response, reply.value = .ok response → response.status ≠ 304) ∧
            (AsksForOne request → ∃ response, reply.value = .ok response)) := by
  have silent : first.headers.text? "if-modified-since" = none :=
    congrArg (·.bind HeaderValue.text?) unconditional
  have unread : Http.isNotModified (first.headers.text? "if-modified-since")
      stat.modified.modifiedSeconds = false := by
    rw [silent]
    rfl
  obtain ⟨date, hdate, htext⟩ := Http.exists_value_of_plain
    (Http.isPlain_formatDate stat.modified.modifiedSeconds)
  refine ⟨date, htext, ?_, ?_, ?_⟩
  · intro answer hanswer
    obtain ⟨page, opened, rfl⟩ := (value_renderNode_of_readable readable).1 hanswer
    exact (lastModified_of_changed unread opened).trans hdate
  · intro one
    exact exists_answer_of_readable readable one root media boundary
  intro later stat' file' readable' request echo reply current
  have named : request.headers.text? "if-modified-since"
      = some (Http.formatDate stat.modified.modifiedSeconds) := by
    rw [Headers.text?, echo]
    exact htext
  have compared : Http.isNotModified (request.headers.text? "if-modified-since")
      stat'.modified.modifiedSeconds = decide current := by
    rw [named]
    exact isNotModified_formatDate known _
  constructor
  · intro h
    rw [decide_eq_true h] at compared
    obtain ⟨status, body, modified⟩ := notModified_of_plain (F := F)
      (Http.isPlain_formatDate stat'.modified.modifiedSeconds)
    have opened := renderOpen_of_current file' media compared boundary
    exact ⟨_, (value_renderNode_of_readable readable').2 ⟨_, opened, rfl⟩, status, body, modified⟩
  · intro h
    rw [decide_eq_false h] at compared
    refine ⟨?_, ?_, ?_⟩
    · show renderNode later root n media request boundary = _
      rw [renderNode_of_readable readable' root media request boundary,
        renderNode_of_readable readable' root media request.unconditional boundary,
        renderOpen_of_changed compared boundary]
    · intro response hresponse
      obtain ⟨page, opened, rfl⟩ := (value_renderNode_of_readable readable').1 hresponse
      exact status_of_changed compared opened
    · intro one
      exact exists_answer_of_readable readable' one root media boundary

/-- A page that was changed at some moment. -/
def pageAt (changed : Instant) : FileSystem Unit where
  stat _ := .ok ⟨.regular, 3, changed⟩
  list _ := .error .notADirectory
  openFile _ := .ok ()
  contents _ := .ok (Text.utf8 "abc")

theorem readable_pageAt (n : Node) (changed : Instant) :
    Readable (pageAt changed) n.path ⟨.regular, 3, changed⟩ () :=
  ⟨rfl, rfl, rfl⟩

/-- A request for a part of the page that names a date. -/
def partSince (date : HeaderValue) : Request :=
  ⟨"GET", ⟨"/a.txt", none⟩,
    [("range", ⟨Text.utf8 "bytes=0-1", by decide⟩), ("if-modified-since", date)]⟩

/-- A page that was changed within a second: its date is the next second, so a change at that very
    second is not seen, and one a nanosecond later is. -/
theorem echo_of_rounded_second :
    let answerAt := fun changed request => renderNode (pageAt changed) (Root.usual "/srv")
      ⟨"/srv/a.txt", false⟩ ⟨"text/plain", none⟩ request "b"
    ∃ answer date, (answerAt ⟨5, 300000000⟩ ⟨"GET", ⟨"/a.txt", none⟩, []⟩).value = .ok answer ∧
      answer.headers.get? "last-modified" = some date ∧
      (∃ response, (answerAt ⟨6, 0⟩ (partSince date)).value = .ok response ∧ response.status = 304) ∧
      answerAt ⟨6, 1⟩ (partSince date) = answerAt ⟨6, 1⟩ (partSince date).unconditional := by
  intro answerAt
  have known : inCalendar (Instant.mk 5 300000000).modifiedSeconds = true := by decide
  obtain ⟨date, -, told, answered, echoed⟩ := echo_of_lastModified
    (readable_pageAt ⟨"/srv/a.txt", false⟩ ⟨5, 300000000⟩) known (Root.usual "/srv") ⟨"text/plain", none⟩
    (rfl : (Request.mk "GET" ⟨"/a.txt", none⟩ []).headers.get? "if-modified-since" = none) "b"
  obtain ⟨answer, hanswer⟩ := answered (asksForOne_of_unranged rfl)
  obtain ⟨current, -⟩ := echoed (readable_pageAt _ ⟨6, 0⟩)
    (rfl : (partSince date).headers.get? "if-modified-since" = some date)
  obtain ⟨-, changed⟩ := echoed (readable_pageAt _ ⟨6, 1⟩)
    (rfl : (partSince date).headers.get? "if-modified-since" = some date)
  obtain ⟨response, hresponse, status, -⟩ := current (by decide)
  exact ⟨answer, date, hanswer, told answer hanswer, ⟨response, hresponse, status⟩,
    (changed (by decide)).1⟩

end Site

end StaticSite
