/-
  HEAD REQUESTS: the head of the answer to a GET, with nothing behind it.

  The method of a request is looked at in four places: where fixed data is sent, where a page of HTML
  is, where the content of a file is, and where a stored response is.  Each of them leaves out the body
  and nothing else.  All the others answer without looking: some have no body to leave out, and the
  refusals are sent whole, as they are short.

  `Heads` is the relation between the two answers.  It holds of each page (§2), of whatever is made of
  a path below a root (§3), and so of the answers of a site (`head_of_get`), which remembers the same
  after both.

  Numbered structure:
    §1  the two answers
    §2  pages
    §3  paths below a root
    §4  the answer of a site
-/
import StaticSite.Site.Respond

namespace StaticSite

open Http (Request Response)

variable {F : Type}

/-! ## §1 The two answers -/

namespace Http

/-- The same request with another method. -/
def Request.withMethod (request : Request) (method : String) : Request :=
  { request with method := method }

/-- The response without its body. -/
def Response.bare (response : Response F) : Response F := { response with body := .empty }

/-- A page that says no more than its status, in plain text. -/
structure Response.SaysOnly (page : Response F) (status : Nat) (text : String) : Prop where
  status : page.status = status
  contentType : page.headers.text? "content-type" = some "text/plain"
  contentLength : page.headers.text? "content-length" = some (lengthText (Text.utf8 text))
  body : page.body = .full (Text.utf8 text)

/-- The refusals of 403, 404 and 500. -/
def Response.IsRefusal (page : Response F) : Prop :=
  page.SaysOnly 403 "403 Forbidden" ∨ page.SaysOnly 404 "404 Not Found" ∨
    page.SaysOnly 500 "500 Internal Server Error"

/-- The answers to a HEAD and to a GET: the same but for the body, or the same refusal. -/
def Heads (head get : Response F) : Prop := head = get.bare ∨ head = get ∧ get.IsRefusal

/-- An answer without a body is the same for both. -/
theorem heads_of_empty {response : Response F} (h : response.body = .empty) :
    Heads response response := by
  apply Or.inl
  rw [Response.bare, ← h]

theorem heads_of_refusal {page : Response F} (h : page.IsRefusal) : Heads page page :=
  .inr ⟨rfl, h⟩

/-! ## §2 Pages -/

/-- Whether a page can be built does not depend on its body. -/
theorem bare_buildOr (what : String) (status : Nat) (fields : List (HeaderName × String))
    (body : Body F) :
    (buildOr what status fields .empty).value = (buildOr what status fields body).value.bare := by
  unfold buildOr Response.build?
  cases fields.foldlM Headers.append? [] with
  | none => rfl
  | some headers => rfl

theorem body_buildOr_empty (what : String) (status : Nat) (fields : List (HeaderName × String)) :
    (buildOr what status fields (.empty : Body F)).value.body = .empty := by
  rw [bare_buildOr what status fields .empty]
  rfl

theorem heads_dataPage (what contentType : String) (bytes : Text.Bytes) :
    Heads (dataPage what contentType bytes true : Logged (Response F)).value
      (dataPage what contentType bytes false).value := by
  apply Or.inl
  exact bare_buildOr what 200 _ (.full bytes)

theorem heads_redirect (target : String) :
    Heads (redirect target : Logged (Response F)).value (redirect target).value :=
  heads_of_empty (body_buildOr_empty "302" 302 _)

theorem heads_notModified (lastModified : String) :
    Heads (notModified lastModified : Logged (Response F)).value (notModified lastModified).value :=
  heads_of_empty (body_buildOr_empty "304" 304 _)

theorem isRefusal_forbidden : (forbidden : Logged (Response F)).value.IsRefusal :=
  .inl ⟨rfl, rfl, rfl, rfl⟩

theorem isRefusal_notFound : (notFound : Logged (Response F)).value.IsRefusal :=
  .inr (.inl ⟨rfl, rfl, rfl, rfl⟩)

theorem isRefusal_internalError : (internalError : Logged (Response F)).value.IsRefusal :=
  .inr (.inr ⟨rfl, rfl, rfl, rfl⟩)

end Http

namespace Site

open Http (Heads)

/-- The refusal of a file has one more header. -/
theorem isRefusal_forbiddenFile (path : FilePath) :
    (forbiddenFile path : Logged (Response F)).value.IsRefusal :=
  .inl ⟨rfl, rfl, rfl, rfl⟩

/-! ## §3 Paths -/

variable (fs : FileSystem F) (root : Root) (request : Request) (boundary : String)

theorem heads_renderListing (dir : Node) (names : Option (List String)) :
    Heads (renderListing fs root dir names (request.withMethod "HEAD")).value
      (renderListing fs root dir names (request.withMethod "GET")).value := by
  unfold renderListing
  rw [Logged.value_bind, Logged.value_bind]
  exact Http.heads_dataPage "HTML" _ _

theorem heads_renderDirectory (n : Node) :
    Heads (renderDirectory fs root n (request.withMethod "HEAD")).value
      (renderDirectory fs root n (request.withMethod "GET")).value := by
  unfold renderDirectory
  show Heads (if endsWithSlash request.uri.path then _ else _ : Logged (Response F)).value
    (if endsWithSlash request.uri.path then _ else _ : Logged (Response F)).value
  split
  · exact heads_renderListing fs root request n none
  · exact Http.heads_redirect (withSlash request.uri)

/-- What comes of a HEAD and of a GET: the same failure, or the two answers. -/
inductive HeadsOrFails {ε : Type} : Except ε (Response F) → Except ε (Response F) → Prop
  | fails (e : ε) : HeadsOrFails (.error e) (.error e)
  | answers {head get : Response F} (h : Heads head get) : HeadsOrFails (.ok head) (.ok get)

/-- What is prepared is sent after a GET, and left out after a HEAD. -/
theorem heads_renderContent (stat : Stat) (content : Logged (Stream.Prepared F)) :
    Heads (renderContent stat (request.withMethod "HEAD") content).value
      (renderContent stat (request.withMethod "GET") content).value := by
  have head : (request.withMethod "HEAD").isHead = true := rfl
  have get : (request.withMethod "GET").isHead = false := rfl
  apply Or.inl
  simp only [renderContent, head, get, Logged.value_bind, Logged.value_pure]
  cases content.value.producer with
  | none => rfl
  | some producer => rfl

/-- The content of a file is prepared for both. -/
theorem heads_renderOpen (file : F) (stat : Stat) (media : MediaType) :
    HeadsOrFails (Logged.value <$> renderOpen file stat media (request.withMethod "HEAD") boundary)
      (Logged.value <$> renderOpen file stat media (request.withMethod "GET") boundary) := by
  have headers : ∀ method, (request.withMethod method).headers = request.headers := fun _ => rfl
  dsimp only [renderOpen]
  rw [headers, headers]
  split
  · exact .answers (Http.heads_notModified _)
  · cases Stream.prepare (request.headers.text? "range") boundary media stat.size file with
    | error overflow => exact .fails overflow
    | ok content => exact .answers (heads_renderContent request stat content)

theorem heads_renderFile (t : Target) (stat : Stat) :
    HeadsOrFails (renderFile fs t stat (request.withMethod "HEAD") boundary).value
      (renderFile fs t stat (request.withMethod "GET") boundary).value := by
  unfold renderFile
  cases fs.openFile t.path with
  | ok file =>
    have opened := heads_renderOpen request boundary file stat t.media
    dsimp only
    generalize renderOpen file stat t.media (request.withMethod "HEAD") boundary = head at opened ⊢
    generalize renderOpen file stat t.media (request.withMethod "GET") boundary = get at opened ⊢
    cases head with
    | error =>
      cases get with
      | error => exact .fails Failure.overflow
      | ok get => cases opened
    | ok head =>
      cases get with
      | error => cases opened
      | ok get =>
        cases opened with
        | answers h => exact .answers h
  | error e =>
    cases e with
    | permissionDenied => exact .answers (Http.heads_of_refusal (isRefusal_forbiddenFile t.path))
    | _ => exact .fails _

theorem heads_renderNode (n : Node) (media : MediaType) :
    HeadsOrFails (renderNode fs root n media (request.withMethod "HEAD") boundary).value
      (renderNode fs root n media (request.withMethod "GET") boundary).value := by
  dsimp only [renderNode]
  cases (snapshot fs media n.path).stat with
  | none => exact .answers (Http.heads_of_refusal Http.isRefusal_notFound)
  | some stat =>
    dsimp only
    split
    · exact .answers (heads_renderDirectory fs root request n)
    · exact heads_renderFile fs request boundary (snapshot fs media n.path) stat

theorem heads_renderStored (path : FilePath) :
    HeadsOrFails (renderStored fs path (request.withMethod "HEAD")).value
      (renderStored fs path (request.withMethod "GET")).value := by
  unfold renderStored
  cases fs.contents path with
  | ok bytes =>
    dsimp only
    cases parseStored bytes with
    | error fault => exact .fails _
    | ok stored => exact .answers (.inl rfl)
  | error e =>
    cases e with
    | permissionDenied => exact .answers (Http.heads_of_refusal Http.isRefusal_forbidden)
    | notFound => exact .answers (Http.heads_of_refusal Http.isRefusal_notFound)
    | _ => exact .fails _

/-- A path leads to the same place, and the same is remembered of it. -/
theorem heads_servePath (cache : MediaCache) (segments : List String) :
    let head := (servePath fs root cache segments (request.withMethod "HEAD") boundary).value
    let get := (servePath fs root cache segments (request.withMethod "GET") boundary).value
    HeadsOrFails head.1 get.1 ∧ head.2 = get.2 := by
  dsimp only [servePath]
  rw [Logged.value_bind, Logged.value_bind]
  cases (traverse fs root segments).value with
  | node n =>
    have page := heads_renderNode fs root request boundary n (root.mediaForPath cache n.path).1
    exact ⟨page, rfl⟩
  | listing n => exact ⟨.answers (heads_renderListing fs root request n none), rfl⟩
  | processed processor n =>
    cases processor with
    | stored => exact ⟨heads_renderStored fs request n.path, rfl⟩
    | source =>
      have page := heads_renderNode fs root request boundary n
        ((Processor.media? .source).getD (root.mediaForPath cache n.path).1)
      exact ⟨page, rfl⟩
  | notFound => exact ⟨.answers (Http.heads_of_refusal Http.isRefusal_notFound), rfl⟩
  | insecure => exact ⟨.answers (Http.heads_of_refusal Http.isRefusal_notFound), rfl⟩

/-! ## §4 The answer of a site -/

theorem heads_respondBelow (mount : Mount) (cache : MediaCache) (segments : List String) :
    let head := (respondBelow fs mount cache segments (request.withMethod "HEAD") boundary).value
    let get := (respondBelow fs mount cache segments (request.withMethod "GET") boundary).value
    HeadsOrFails head.1 get.1 ∧ head.2 = get.2 := by
  obtain ⟨answers, remembered⟩ := heads_servePath fs mount.root request boundary cache segments
  dsimp only [respondBelow]
  rw [Logged.value_bind, Logged.value_bind]
  revert answers remembered
  generalize (servePath fs mount.root cache segments (request.withMethod "HEAD") boundary).value = head
  generalize (servePath fs mount.root cache segments (request.withMethod "GET") boundary).value = get
  obtain ⟨head, left⟩ := head
  obtain ⟨get, right⟩ := get
  rintro answers ⟨⟩
  cases answers with
  | fails failure =>
    cases failure with
    | reported e => exact ⟨.answers (Http.heads_of_refusal Http.isRefusal_internalError), rfl⟩
    | overflow => exact ⟨.fails Overflow.mk, rfl⟩
  | answers h => exact ⟨.answers h, rfl⟩

theorem heads_respond (site : Site) (memory : Memory) :
    let head := (respond site memory fs (request.withMethod "HEAD") boundary).value
    let get := (respond site memory fs (request.withMethod "GET") boundary).value
    HeadsOrFails head.1 get.1 ∧ head.2 = get.2 := by
  have served : ∀ method, method = "GET" ∨ method = "HEAD" →
      methodAnswer? (F := F) (request.withMethod method).method = none := fun _ h => if_pos h
  have uri : ∀ method, (request.withMethod method).uri = request.uri := fun _ => rfl
  dsimp only [respond]
  rw [served "HEAD" (.inr rfl), served "GET" (.inl rfl), uri, uri]
  dsimp only
  cases site.data.get? request.uri.path with
  | some data => exact ⟨.answers (Http.heads_dataPage "data" data.contentType data.bytes), rfl⟩
  | none =>
    dsimp only
    cases site.findMount request.uri.path with
    | none => exact ⟨.answers (Http.heads_of_refusal Http.isRefusal_notFound), rfl⟩
    | some found =>
      obtain ⟨place, mount, below⟩ := found
      dsimp only
      cases splitSegments below with
      | none => exact ⟨.answers (Http.heads_of_refusal Http.isRefusal_notFound), rfl⟩
      | some segments =>
        obtain ⟨answers, remembered⟩ :=
          heads_respondBelow fs request boundary mount (memory[place]?.getD []) segments
        exact ⟨answers, congrArg (memory.set place) remembered⟩

/-- A HEAD request is answered with the status and the headers of a GET for the same target with the
    same headers; it gets no body, unless it is refused with a page of 403, 404 or 500, which a GET
    gets likewise.  If one of the two gets no answer, the other gets none.  The site remembers the
    same after both. -/
theorem head_of_get (site : Site) (memory : Memory) :
    let head := (respond site memory fs (request.withMethod "HEAD") boundary).value
    let get := (respond site memory fs (request.withMethod "GET") boundary).value
    (match head.1, get.1 with
    | .ok head, .ok get =>
      head.status = get.status ∧ head.headers = get.headers ∧
      (head.body = .empty ∨ head.IsRefusal ∧ head.body = get.body)
    | .error _, .error _ => True
    | _, _ => False) ∧
    head.2 = get.2 := by
  intro head get
  obtain ⟨answers, remembered⟩ := heads_respond fs request boundary site memory
  refine ⟨?_, remembered⟩
  change HeadsOrFails head.1 get.1 at answers
  generalize head.1 = head at answers ⊢
  generalize get.1 = get at answers ⊢
  cases answers with
  | fails => trivial
  | answers h =>
    rcases h with rfl | ⟨rfl, refusal⟩
    · exact ⟨rfl, rfl, .inl rfl⟩
    · exact ⟨rfl, rfl, .inr ⟨refusal, rfl⟩⟩

end Site

end StaticSite
