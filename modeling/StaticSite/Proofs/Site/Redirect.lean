/-
  REDIRECTS: a directory that is asked for without a slash is shown with one.

  A redirect of a site, other than a stored one, says the path that was asked for with a slash behind
  it.  That path has the same mount and one blank segment more, so it shows the directory, and is not
  answered with a redirect again (`redirect_shows_directory`).  Nor does it lead to another site: it
  begins with two slashes only if the path does, and no such path leads to a directory, as nothing
  lies behind a blank segment (`nothing_behind_blank`).

  Numbered structure:
    §1  where the client is sent
    §2  paths that begin with two slashes
    §3  the answer there
    §4  redirects
-/
import StaticSite.Proofs.Http.Targets
import StaticSite.Proofs.Site.Answers
import StaticSite.Proofs.Site.Segments

namespace StaticSite.Site

open Http (Request Response)

variable {F : Type} {fs : FileSystem F} {root : Root}

/-! ## §1 Where the client is sent -/

/-- The path with a slash behind it and, if there is a query, a question mark and the query. -/
theorem withSlash_eq (uri : Http.Uri) :
    withSlash uri = uri.path ++ "/" ++ (uri.query.map ("?" ++ ·)).getD "" := by
  unfold withSlash
  cases uri.query with
  | none => exact String.append_empty.symm
  | some query =>
    have cut : "/?" = "/" ++ "?" := by decide
    simp only [Option.map_some, Option.getD_some, cut, String.append_assoc]

theorem sendable_append {s t : String} (hs : Sendable s) (ht : Sendable t) : Sendable (s ++ t) := by
  unfold Sendable Text.utf8 at *
  rw [String.toList_append, Text.encode_append, List.all_append, hs, ht]
  rfl

theorem sendable_withSlash {uri : Http.Uri} (path : Sendable uri.path)
    (query : ∀ q, uri.query = some q → Sendable q) : Sendable (withSlash uri) := by
  have slash : Sendable "/" := by unfold Sendable; decide
  have mark : Sendable "?" := by unfold Sendable; decide
  have blank : Sendable "" := by unfold Sendable; decide
  rw [withSlash_eq]
  refine sendable_append (sendable_append path slash) ?_
  cases h : uri.query with
  | none => exact blank
  | some q => exact sendable_append mark (query q h)

/-- A redirect says where it leads. -/
theorem says_redirect {target : String} (h : Sendable target) :
    Says (Http.redirect target : Logged (Response F)).value.headers "location" (some target) := by
  have length : Sendable "0" := by unfold Sendable; decide
  rw [Http.redirect, value_buildOr "302" 302 h length]
  rfl

/-! ## §2 Paths that begin with two slashes -/

/-- Nothing lies behind a blank segment: what shows a directory is no directory. -/
theorem nothing_behind_blank (start : Node) (following : String) (rest : List String) (n : Node) :
    (traverseFrom fs root start ("" :: following :: rest)).value ≠ .node n := by
  rw [traverseFrom_cons_cons]
  cases isDir : start.isDir with
  | false =>
    rw [resolveSegment_of_file fs root isDir]
    exact nofun
  | true =>
    rcases shows_of_blank fs root isDir with listing | ⟨m, index, shown⟩
    · rw [listing]
      exact nofun
    · rw [shown]
      cases hprocessor : root.processors.lookup m.path.fileName with
      | some processor =>
        rw [dispatch_of_some hprocessor]
        exact nofun
      | none =>
        have nothing := value_traverseFrom_of_file fs root index.found.2 following rest
        rw [dispatch_of_none hprocessor]
        show (traverseFrom fs root m (following :: rest)).value ≠ _
        rw [nothing]
        exact nofun

/-- A path that begins with two slashes has a blank segment first, unless a mount takes the slashes
    away; and no mount does. -/
theorem not_two_slashes {config : Config} {path below : String} {place : Nat} {mount : Mount}
    (found : (ofConfig config).findMount path = some (place, mount, below)) {segments : List String}
    (split : splitSegments below = some segments) {n : Node}
    (outcome : (traverse fs mount.root segments).value = .node n) (rest : List Char) :
    path.toList ≠ '/' :: '/' :: rest := by
  intro hpath
  obtain ⟨hmount, hstrip⟩ := spec_of_findMount found
  obtain ⟨heq, -⟩ := strip?_eq_some_iff.1 hstrip
  rw [heq, String.toList_append] at hpath
  rcases isMountPath_of_mem (List.mem_of_getElem? hmount) with blank | ⟨c, more, hat, first, -⟩
  · -- the path is that below the mount
    rw [blank] at hpath
    have fields : splitSegments below = (Text.fields '/' ('/' :: rest)).mapM readSegment? :=
      splitSegments_of_slash hpath
    obtain ⟨f, fs', hf⟩ := List.exists_cons_of_ne_nil (Text.fields_ne_nil '/' rest)
    rw [split, Text.fields_cons_sep, hf, List.mapM_cons, List.mapM_cons, readSegment?_nil] at fields
    obtain ⟨blank', hblank, fields⟩ := Option.bind_eq_some_iff.1 fields.symm
    cases hblank
    obtain ⟨others, hothers, fields⟩ := Option.bind_eq_some_iff.1 fields
    obtain ⟨following, -, hothers⟩ := Option.bind_eq_some_iff.1 hothers
    obtain ⟨more, -, hothers⟩ := Option.bind_eq_some_iff.1 hothers
    cases hothers
    cases fields
    exact nothing_behind_blank _ following more n outcome
  · rw [hat] at hpath
    exact first (List.cons.inj (List.cons.inj hpath).2).1

/-- The target of a redirect begins with two slashes only if the path does. -/
theorem two_slashes_of_withSlash {uri : Http.Uri} (plain : endsWithSlash uri.path = false)
    (h : ['/', '/'] <+: (withSlash uri).toList) : ∃ rest, uri.path.toList = '/' :: '/' :: rest := by
  obtain ⟨tail, htail⟩ := h
  rw [withSlash_eq, String.toList_append, String.toList_append] at htail
  cases hpath : uri.path.toList with
  | nil =>
    -- behind the slash stands a question mark, or nothing
    rw [hpath] at htail
    cases hquery : uri.query with
    | none =>
      rw [hquery] at htail
      cases htail
    | some q =>
      rw [hquery, Option.map_some, Option.getD_some, String.toList_append] at htail
      cases htail
  | cons c others =>
    rw [hpath] at htail
    cases others with
    | nil =>
      cases htail
      rw [endsWithSlash, hpath] at plain
      cases plain
    | cons d more =>
      cases htail
      exact ⟨more, rfl⟩

/-! ## §3 The answer there -/

/-- The statuses of answers with what was found: as a file, or that serving it failed. -/
def shownStatuses : List Nat := 500 :: fileStatuses

/-- An index file is answered as a file, or fails. -/
theorem status_of_index {dir n : Node} (index : IsIndex fs root dir n) {media : MediaType}
    {request : Request} {boundary : String} {response : Response F}
    (h : answerOf (renderNode fs root n media request boundary).value = .ok response) :
    response.status ∈ shownStatuses := by
  obtain ⟨found, file⟩ := index.found
  cases served : (renderNode fs root n media request boundary).value with
  | ok page =>
    rw [served] at h
    cases h
    exact List.mem_cons_of_mem _ (status_renderNode_of_file found file served)
  | error failure =>
    rw [served] at h
    cases failure with
    | reported e =>
      cases h
      have failed : (Http.internalError : Logged (Response F)).value.status = 500 :=
        Http.status_buildOr ..
      rw [failed]
      exact List.mem_cons_self
    | overflow => cases h

/-- What shows a directory is answered with the directory, or as a file, unless it holds an answer of
    its own. -/
theorem status_of_shows {segments : List String} {dir : Node}
    (shows : Shows fs root dir (traverse fs root segments).value)
    (unstored : ∀ n, (traverse fs root segments).value ≠ .processed .stored n) {cache : MediaCache}
    {request : Request} {boundary : String} {response : Response F}
    (h : answerOf (servePath fs root cache segments request boundary).value.1 = .ok response) :
    response.status ∈ shownStatuses := by
  rw [servePath, Logged.value_bind] at h
  rcases shows with listing | ⟨n, index, shown⟩
  · have page : (renderListing fs root dir none request).value.status = 200 :=
      status_renderListing dir none request
    rw [listing] at h
    cases h
    show (renderListing fs root dir none request).value.status ∈ _
    rw [page]
    decide
  · rw [shown] at unstored h
    cases hprocessor : root.processors.lookup n.path.fileName with
    | none =>
      rw [dispatch_of_none hprocessor] at h
      exact status_of_index index h
    | some processor =>
      rw [dispatch_of_some hprocessor] at unstored h
      cases processor with
      | stored => exact absurd rfl (unstored n)
      | source => exact status_of_index index h

/-! ## §4 Redirects -/

/-- A fixed answer is no redirect. -/
theorem status_of_fixed {site : Site} {request : Request}
    (served : request.method = "GET" ∨ request.method = "HEAD") {data : Http.FixedData}
    (fixed : site.data.get? request.uri.path = some data) {memory : Memory} {boundary : String}
    {response : Response F} (h : (respond site memory fs request boundary).value.1 = .ok response) :
    response.status = 200 := by
  have method : (methodAnswer? request.method : Option (Logged (Response F))) = none := if_pos served
  unfold respond at h
  rw [method] at h
  dsimp only at h
  rw [fixed] at h
  cases h
  exact Http.status_buildOr ..

/-- The site redirects a request that leads to a node only if that is a directory, and the request
    path has no slash at its end: then to that path with one. -/
theorem redirect_of_respond {site : Site} {request : Request}
    (served : request.method = "GET" ∨ request.method = "HEAD") {place : Nat} {mount : Mount}
    {below : String} (found : site.findMount request.uri.path = some (place, mount, below))
    {segments : List String} (split : splitSegments below = some segments) {n : Node}
    (outcome : (traverse fs mount.root segments).value = .node n) {memory : Memory} {boundary : String}
    {response : Response F} (h : (respond site memory fs request boundary).value.1 = .ok response)
    (status : response.status = 302) :
    endsWithSlash request.uri.path = false ∧
    response = (Http.redirect (withSlash request.uri) : Logged (Response F)).value := by
  cases fixed : site.data.get? request.uri.path with
  | some data => exact absurd ((status_of_fixed served fixed h).symm.trans status) (by decide)
  | none =>
    rw [value_respond_of_found site memory fs served fixed found split, servePath,
      Logged.value_bind, outcome] at h
    simp only [Logged.value_bind, Logged.value_pure] at h
    generalize hserved : (renderNode fs mount.root n _ request boundary).value = answer at h
    cases answer with
    | ok page =>
      cases h
      exact redirect_of_renderNode hserved status
    | error failure =>
      cases failure with
      | reported e =>
        cases h
        have failed : (Http.internalError : Logged (Response F)).value.status = 500 :=
          Http.status_buildOr ..
        exact absurd (failed.symm.trans status) (by decide)
      | overflow => cases h

/-- A request that leads to a directory and is answered with a redirect is sent to its own path with a
    slash behind it, and its query, if it has one.  That never begins with two slashes, and is read
    as this path and this query unless it is too long for a target.  It has the same mount, and one
    blank segment more, which shows the very directory; so it is found, and is not answered with a
    redirect again unless an index file holds one.  A request there for a single range, or for none,
    is always answered. -/
theorem redirect_shows_directory {config : Config} {request : Request}
    (served : request.method = "GET" ∨ request.method = "HEAD") (path : Sendable request.uri.path)
    (query : ∀ q, request.uri.query = some q → Sendable q) {place : Nat} {mount : Mount}
    {below : String} (found : (ofConfig config).findMount request.uri.path = some (place, mount, below))
    {segments : List String} (split : splitSegments below = some segments) {n : Node}
    (outcome : (traverse fs mount.root segments).value = .node n) (isDir : n.isDir = true)
    {memory : Memory} {boundary : String} {response : Response F}
    (answered : (respond (ofConfig config) memory fs request boundary).value.1 = .ok response)
    (status : response.status = 302) :
    let location := request.uri.path ++ "/" ++ (request.uri.query.map ("?" ++ ·)).getD ""
    Says response.headers "location" (some location) ∧
    ¬['/', '/'] <+: location.toList ∧
    (∀ target, Http.Uri.parse? target = some request.uri →
      location.utf8ByteSize ≤ Http.Uri.longestTarget →
      Http.Uri.parse? location = some ⟨request.uri.path ++ "/", request.uri.query⟩) ∧
    (ofConfig config).findMount (request.uri.path ++ "/") = some (place, mount, below ++ "/") ∧
    splitSegments (below ++ "/") = some (segments ++ [""]) ∧
    Shows fs mount.root n (traverse fs mount.root (segments ++ [""])).value ∧
    (∀ (again : Request) memory boundary, again.method = "GET" ∨ again.method = "HEAD" →
      again.uri = ⟨request.uri.path ++ "/", request.uri.query⟩ →
      (ofConfig config).data.get? (request.uri.path ++ "/") = none →
      (∀ m, (traverse fs mount.root (segments ++ [""])).value ≠ .processed .stored m) →
      let reply := (respond (ofConfig config) memory fs again boundary).value.1
      (∀ answer, reply = .ok answer → answer.status ≠ 302 ∧ answer.status ≠ 404) ∧
      (AsksForOne again → ∃ answer, reply = .ok answer)) := by
  intro location
  have target : withSlash request.uri = location := withSlash_eq request.uri
  obtain ⟨plain, answer⟩ := redirect_of_respond served found split outcome answered status
  obtain ⟨-, hstrip⟩ := spec_of_findMount found
  obtain ⟨heq, start⟩ := strip?_eq_some_iff.1 hstrip
  have found' : (ofConfig config).findMount (request.uri.path ++ "/")
      = some (place, mount, below ++ "/") := by
    rw [findMount_append_slash, found]
    rfl
  have split' := splitSegments_append_slash start split
  have shows := shows_of_slash outcome isDir
  refine ⟨?_, ?_, ?_, found', split', shows, ?_⟩
  · rw [answer, ← target]
    exact says_redirect (sendable_withSlash path query)
  · rw [← target]
    intro slashes
    obtain ⟨rest, hpath⟩ := two_slashes_of_withSlash plain slashes
    exact not_two_slashes found split outcome rest hpath
  · intro text hparse short
    rw [← target] at short ⊢
    exact Http.Uri.parse?_withSlash (Http.Uri.wellFormed_of_parse hparse)
      (isBelow_of_findMount found) short
  · intro again memory boundary served' uri unfixed unstored reply
    have there : reply = answerOf (servePath fs mount.root (memory[place]?.getD [])
        (segments ++ [""]) again boundary).value.1 :=
      value_respond_of_found (ofConfig config) memory fs served' (by rw [uri]; exact unfixed)
        (by rw [uri]; exact found') split' boundary
    rw [there]
    constructor
    · intro answer h
      have shown := status_of_shows shows unstored h
      refine ⟨fun status => ?_, fun status => ?_⟩
      · rw [status] at shown
        exact absurd shown (by decide)
      · rw [status] at shown
        exact absurd shown (by decide)
    · intro one
      exact exists_answerOf (servePath_ne_overflow one _ _ boundary)

/-- A mount of the directory whose page lies one directory deeper. -/
def deepMount : Config.Mount := ⟨"/", "/srv", "text/html", ["s/i.html"], [], [], [], []⟩

/-- The configuration with nothing but this mount. -/
def deepConfig : Config := { Config.usual with mounts := [deepMount] }

/-- The request for the directory, without a slash. -/
def deepRequest : Request := ⟨"GET", ⟨"/d", none⟩, []⟩

theorem found_of_deepRequest :
    (ofConfig deepConfig).findMount deepRequest.uri.path
      = some (0, Mount.ofConfig deepMount, "/d") := by
  have mounts : (ofConfig deepConfig).mounts = [Mount.ofConfig deepMount] :=
    List.mergeSort_singleton _
  rw [findMount, mounts]
  rfl

theorem split_of_deepRequest : splitSegments "/d" = some ["d"] := by decide +kernel

/-- The directory is asked for without a slash, and the client is sent there with one. -/
theorem respond_deepRequest :
    (respond (ofConfig deepConfig) [] deepPage deepRequest "b").value.1
      = .ok (Http.redirect "/d/" : Logged (Response Unit)).value := by
  rw [value_respond_of_found _ [] deepPage (.inl rfl) rfl found_of_deepRequest split_of_deepRequest]
  rfl

/-- A directory that is asked for without a slash is shown with one. -/
theorem redirect_to_directory :
    ∃ response, (respond (ofConfig deepConfig) [] deepPage deepRequest "b").value.1 = .ok response ∧
      Says response.headers "location" (some "/d/") ∧
      Shows deepPage deepMount.toRoot ⟨"/srv/d", true⟩
        (traverse deepPage deepMount.toRoot ["d", ""]).value := by
  have path : Sendable deepRequest.uri.path := by unfold Sendable; decide
  have query : ∀ q, deepRequest.uri.query = some q → Sendable q := nofun
  have outcome : (traverse deepPage deepMount.toRoot ["d"]).value = .node ⟨"/srv/d", true⟩ := by decide
  have shown := redirect_shows_directory (.inl rfl) path query found_of_deepRequest
    split_of_deepRequest outcome rfl respond_deepRequest (Http.status_redirect "/d/")
  exact ⟨_, respond_deepRequest, shown.1, shown.2.2.2.2.2.1⟩

/-- The page that the client is then shown may lie deeper than in the directory. -/
theorem redirect_may_lead_deeper :
    (∃ response, (respond (ofConfig deepConfig) [] deepPage deepRequest "b").value.1 = .ok response ∧
      response.status = 302) ∧
    (traverse deepPage deepMount.toRoot ["d"]).value = .node ⟨"/srv/d", true⟩ ∧
    ¬((traverse deepPage deepMount.toRoot ["d", ""]).value = .listing ⟨"/srv/d", true⟩ ∨
      ∃ name n, '/' ∉ name.toList ∧ n.path = FilePath.join "/srv/d" name ∧
        (traverse deepPage deepMount.toRoot ["d", ""]).value.node? = some n) := by
  have outcome : (traverse deepPage deepMount.toRoot ["d", ""]).value
      = .node ⟨"/srv/d/s/i.html", false⟩ := by decide
  refine ⟨⟨_, respond_deepRequest, Http.status_redirect "/d/"⟩, by decide, ?_⟩
  rw [outcome]
  rintro (listing | ⟨name, n, free, inside, same⟩)
  · cases listing
  · cases same
    exact deepPage_not_inside free inside.symm

end StaticSite.Site
