/-
  CONFINEMENT: nothing outside a root is served.

  What is not below the root of a mount is not even looked at: file systems that agree below it lead
  to the same walk, and what is found is rendered alike (`servePath_agrees`).  Together with the walk
  that stays below its root this is what a site answers with (`respond_is_confined`).

  Numbered structure:
    §1  file systems that agree
    §2  walks
    §3  what is rendered
    §4  the answer of a site
-/
import StaticSite.Proofs.Site.Mounts
import StaticSite.Proofs.Site.Walk
import StaticSite.Site.Respond

namespace StaticSite.Site

/-! ## §1 File systems that agree -/

/-- The two file systems give the same answers to every question about a path below the root. -/
structure AgreeBelow {F : Type} (root : FilePath) (fs other : FileSystem F) : Prop where
  stat : ∀ {path}, Below root path → other.stat path = fs.stat path
  list : ∀ {path}, Below root path → other.list path = fs.list path
  openFile : ∀ {path}, Below root path → other.openFile path = fs.openFile path
  contents : ∀ {path}, Below root path → other.contents path = fs.contents path

section

variable {F : Type} {fs other : FileSystem F} {root : Root}

theorem AgreeBelow.stat? {root path : FilePath} (agree : AgreeBelow root fs other)
    (below : Below root path) : other.stat? path = fs.stat? path := by
  rw [FileSystem.stat?, FileSystem.stat?, agree.stat below]

theorem AgreeBelow.sortedNames {root path : FilePath} (agree : AgreeBelow root fs other)
    (below : Below root path) : other.sortedNames path = fs.sortedNames path := by
  rw [FileSystem.sortedNames, FileSystem.sortedNames, agree.list below]

/-- A search asks only about the elements of the list. -/
theorem findSome?_congr {α β : Type} {f g : α → Option β} {l : List α} (h : ∀ a ∈ l, f a = g a) :
    l.findSome? f = l.findSome? g := by
  induction l with
  | nil => rfl
  | cons a rest ih =>
    obtain ⟨ha, hrest⟩ := List.forall_mem_cons.1 h
    rw [List.findSome?_cons, List.findSome?_cons, ha, ih hrest]

/-! ## §2 Walks -/

theorem child?_agrees (agree : AgreeBelow root.path fs other) {dir : Node}
    (below : Below root.path dir.path) {name : String} (component : IsComponent name) :
    child? other dir name = child? fs dir name := by
  dsimp only [child?]
  rw [agree.stat? (.join below component)]

theorem findIndex?_agrees (agree : AgreeBelow root.path fs other) (tame : root.Tame) {dir : Node}
    (below : Below root.path dir.path) : findIndex? other root dir = findIndex? fs root dir := by
  refine findSome?_congr fun name hname => ?_
  dsimp only [indexFile?]
  rw [agree.stat? (.join below (tame.index name hname))]

theorem findSibling?_agrees (agree : AgreeBelow root.path fs other) (tame : root.Tame)
    (plain : PlainNames fs) {dir : Node} (below : Below root.path dir.path) {segment : String}
    (component : IsComponent segment) (some : segment ≠ "") :
    findSibling? other root dir segment = findSibling? fs root dir segment := by
  refine findSome?_congr fun ext hext => ?_
  unfold sibling?
  split
  next => rfl
  next present =>
    split
    next =>
      unfold wildcardSibling?
      rw [agree.sortedNames below]
      split
      next => rfl
      next names hnames =>
        refine findSome?_congr fun name hname => child?_agrees agree below ?_
        exact isComponent_of_sortedNames plain hnames (List.mem_filter.1 hname).1
    next =>
      obtain ⟨slash, dot⟩ := tame.extension ext hext
      exact child?_agrees agree below (isComponent_append component some slash dot present)

theorem resolveSegment_agrees (agree : AgreeBelow root.path fs other) (tame : root.Tame)
    (plain : PlainNames fs) {dir : Node} (below : Below root.path dir.path) (segment : String) :
    resolveSegment other root dir segment = resolveSegment fs root dir segment := by
  unfold resolveSegment
  by_cases insecure : isInsecure segment = true
  · rw [if_pos insecure, if_pos insecure]
  · have component := isInsecure_eq_false_iff.1 (Bool.eq_false_iff.2 insecure)
    rw [findIndex?_agrees agree tame below, child?_agrees agree below component]
    by_cases empty : segment = ""
    · rw [if_pos empty, if_pos empty]
    · rw [findSibling?_agrees agree tame plain below component empty]

/-- The walk asks nothing about paths that are not below the root. -/
theorem traverseFrom_agrees (agree : AgreeBelow root.path fs other) (tame : root.Tame)
    (plain : PlainNames fs) {start : Node} (below : Below root.path start.path)
    (segments : List String) :
    traverseFrom other root start segments = traverseFrom fs root start segments := by
  induction segments generalizing start with
  | nil => rfl
  | cons segment rest ih =>
    have same := resolveSegment_agrees agree tame plain below segment
    cases rest with
    | nil => rw [traverseFrom, traverseFrom, same]
    | cons following rest =>
      rw [traverseFrom_cons_cons, traverseFrom_cons_cons, same]
      cases houtcome : resolveSegment fs root start segment with
      | node next => exact ih (resolveSegment_below tame plain below (by rw [houtcome]; rfl))
      | listing n => rfl
      | processed processor n => rfl
      | notFound => rfl
      | insecure => rfl

theorem traverse_agrees (agree : AgreeBelow root.path fs other) (tame : root.Tame)
    (plain : PlainNames fs) (segments : List String) :
    traverse other root segments = traverse fs root segments := by
  have start : rootNode other root = rootNode fs root := by
    rw [rootNode, rootNode, agree.stat? .root]
  rw [traverse, traverse, start]
  exact traverseFrom_agrees agree tame plain .root segments

/-! ## §3 What is rendered -/

/-- What comes after a computation depends on its value only. -/
theorem bind_congr_value {α β : Type} {x : Logged α} {f g : α → Logged β}
    (h : f x.value = g x.value) : x >>= f = x >>= g :=
  congrArg (fun y : Logged β => Logged.mk y.value (x.notes ++ y.notes)) h

theorem entriesOf_agrees (agree : AgreeBelow root.path fs other) {dir : Node}
    (below : Below root.path dir.path) {names : List String} (components : ∀ name ∈ names, IsComponent name) :
    entriesOf other root dir names = entriesOf fs root dir names := by
  induction names with
  | nil => rfl
  | cons name rest ih =>
    obtain ⟨component, others⟩ := List.forall_mem_cons.1 components
    have same : entryOf other root dir name = entryOf fs root dir name := by
      dsimp only [entryOf]
      rw [agree.stat (.join below component)]
    rw [entriesOf, entriesOf, same, ih others]

/-- A listing asks about the directory and its entries. -/
theorem renderListing_agrees (agree : AgreeBelow root.path fs other) (plain : PlainNames fs)
    {dir : Node} (below : Below root.path dir.path) (request : Http.Request) :
    renderListing other root dir none request = renderListing fs root dir none request := by
  have names : namesIn other dir = namesIn fs dir := by
    unfold namesIn
    rw [agree.sortedNames below]
  have components : ∀ name ∈ (namesIn fs dir).value, IsComponent name := by
    unfold namesIn
    cases hnames : fs.sortedNames dir.path with
    | ok found => exact fun name hname => isComponent_of_sortedNames plain hnames hname
    | error e => exact nofun
  have rows : entries other root dir none = entries fs root dir none := by
    dsimp only [entries]
    rw [names]
    exact bind_congr_value (entriesOf_agrees agree below components)
  rw [renderListing, renderListing, rows]

theorem renderNode_agrees (agree : AgreeBelow root.path fs other) (plain : PlainNames fs) {n : Node}
    (below : Below root.path n.path) (media : MediaType) (request : Http.Request)
    (boundary : String) :
    renderNode other root n media request boundary = renderNode fs root n media request boundary := by
  have look : snapshot other media n.path = snapshot fs media n.path := by
    rw [snapshot, snapshot, agree.stat? below]
  have listing := renderListing_agrees agree plain below request
  have opened : other.openFile (snapshot fs media n.path).path = fs.openFile (snapshot fs media n.path).path :=
    agree.openFile below
  simp only [renderNode, renderDirectory, renderFile, look, listing, opened]

theorem renderStored_agrees (agree : AgreeBelow root.path fs other) {path : FilePath}
    (below : Below root.path path) (request : Http.Request) :
    renderStored other path request = renderStored fs path request := by
  rw [renderStored, renderStored, agree.contents below]

/-- Serving a path asks nothing about paths that are not below the root. -/
theorem servePath_agrees (agree : AgreeBelow root.path fs other) (tame : root.Tame)
    (plain : PlainNames fs) (cache : MediaCache) (segments : List String) (request : Http.Request)
    (boundary : String) :
    servePath other root cache segments request boundary
      = servePath fs root cache segments request boundary := by
  unfold servePath
  rw [traverse_agrees agree tame plain]
  refine bind_congr_value ?_
  have below {n : Node} (h : (traverse fs root segments).value.node? = some n) :
      Below root.path n.path := traverseFrom_below tame plain .root h
  cases houtcome : (traverse fs root segments).value with
  | node n =>
    have hn := below (n := n) (by rw [houtcome]; rfl)
    simp only [renderNode_agrees agree plain hn]
  | listing n =>
    have hn := below (n := n) (by rw [houtcome]; rfl)
    simp only [renderListing_agrees agree plain hn]
  | processed processor n =>
    have hn := below (n := n) (by rw [houtcome]; rfl)
    -- a processor reads the file itself, or has it rendered as any other
    cases processor with
    | stored => simp only [renderStored_agrees agree hn]
    | source => simp only [renderNode_agrees agree plain hn]
  | notFound => rfl
  | insecure => rfl

end

/-! ## §4 The answer of a site -/

theorem mem_of_findMountFrom {place place' : Nat} {path below : String} {mounts : List Mount}
    {mount : Mount} (h : findMountFrom place path mounts = some (place', mount, below)) :
    mount ∈ mounts := by
  obtain ⟨i, -, hmount, -⟩ := spec_of_findMountFrom h
  exact List.mem_of_getElem? hmount

/-- What every element gives is among the results. -/
theorem mem_of_mapM {α β : Type} {f : α → Option β} {l : List α} {results : List β}
    (h : l.mapM f = some results) {a : α} (ha : a ∈ l) {b : β} (hb : f a = some b) :
    b ∈ results := by
  induction l generalizing results with
  | nil => cases ha
  | cons first rest ih =>
    rw [List.mapM_cons] at h
    obtain ⟨b', hfirst, h⟩ := Option.bind_eq_some_iff.1 h
    obtain ⟨others, hrest, h⟩ := Option.bind_eq_some_iff.1 h
    cases h
    rcases List.mem_cons.1 ha with rfl | ha
    · rw [hb] at hfirst
      cases hfirst
      exact List.mem_cons_self
    · exact List.mem_cons_of_mem b' (ih hrest ha)

variable {F : Type}

theorem status_notFound : (Http.notFound : Logged (Http.Response F)).value.status = 404 := by
  unfold Http.notFound Http.textPage Http.buildOr
  split
  next response h =>
    obtain ⟨headers, -, rfl⟩ := Option.map_eq_some_iff.1 h
    rfl
  next => rfl

/-- A path that leads nowhere is not found. -/
theorem servePath_of_nowhere {fs : FileSystem F} {root : Root} {segments : List String}
    (nowhere : (traverse fs root segments).value.node? = none) (cache : MediaCache)
    (request : Http.Request) (boundary : String) :
    (servePath fs root cache segments request boundary).value
      = (.ok (Http.notFound : Logged (Http.Response F)).value, cache) := by
  rw [servePath, Logged.value_bind]
  cases houtcome : (traverse fs root segments).value with
  | notFound => rfl
  | insecure => rfl
  | node n => rw [houtcome] at nowhere; cases nowhere
  | listing n => rw [houtcome] at nowhere; cases nowhere
  | processed processor n => rw [houtcome] at nowhere; cases nowhere

/-- The answer to a request that goes to a mount. -/
theorem respond_of_found (site : Site) (fs : FileSystem F) {request : Http.Request}
    (served : request.method = "GET" ∨ request.method = "HEAD")
    (unfixed : site.data.get? request.uri.path = none) {place : Nat} {mount : Mount} {below : String}
    (found : site.findMount request.uri.path = some (place, mount, below)) (memory : Memory)
    (boundary : String) :
    respond site memory fs request boundary = match splitSegments below with
      | none => do
        note .debug ("Rejecting undecodable path " ++ Text.quoted request.uri.path)
        let page ← Http.notFound
        return (.ok page, memory)
      | some segments => do
        let (answer, cache) ←
          respondBelow fs mount (memory[place]?.getD []) segments request boundary
        return (answer, memory.set place cache) := by
  have method : (methodAnswer? request.method : Option (Logged (Http.Response F))) = none :=
    if_pos served
  unfold respond
  split
  next answer h =>
    rw [method] at h
    cases h
  next =>
    split
    next data h =>
      rw [unfixed] at h
      cases h
    next =>
      split
      next h =>
        rw [found] at h
        cases h
      next place' mount' below' h =>
        rw [found] at h
        cases h
        rfl

/-- Whatever is asked of a site with tame rules, nothing outside the root of the mount is served: the
    node that the path leads to is below the root, and the answer is the same on any file system
    that agrees with this one below the root.  A path with a segment that would leave its directory,
    once its escapes are undone, is not found. -/
theorem respond_is_confined {site : Site} (tame : ∀ mount ∈ site.mounts, mount.root.Tame)
    {fs : FileSystem F} (plain : PlainNames fs) {request : Http.Request}
    (served : request.method = "GET" ∨ request.method = "HEAD")
    (unfixed : site.data.get? request.uri.path = none) {place : Nat} {mount : Mount} {below : String}
    (found : site.findMount request.uri.path = some (place, mount, below)) (memory : Memory)
    (boundary : String) :
    (∀ segments n, splitSegments below = some segments →
      (traverse fs mount.root segments).value.node? = some n → Below mount.root.path n.path) ∧
    (∀ other, AgreeBelow mount.root.path fs other →
      respond site memory other request boundary = respond site memory fs request boundary) ∧
    (∀ rest raw text, below.toList = '/' :: rest → raw ∈ Text.fields '/' rest →
      Text.decode? (Text.percentDecode (Text.encode raw)) = some text →
      (text = ['.', '.'] ∨ '/' ∈ text) →
      ∃ page, (respond site memory fs request boundary).value.1 = .ok page ∧ page.status = 404) := by
  have tame := tame mount (mem_of_findMountFrom found)
  refine ⟨?_, ?_, ?_⟩
  · intro segments n _ hnode
    exact traverseFrom_below tame plain .root hnode
  · intro other agree
    rw [respond_of_found site fs served unfixed found, respond_of_found site other served unfixed found]
    cases splitSegments below with
    | none => rfl
    | some segments =>
      dsimp only [respondBelow]
      rw [servePath_agrees agree tame plain]
  · intro rest raw text hbelow hraw hdecode hinsecure
    rw [respond_of_found site fs served unfixed found]
    cases hsegments : splitSegments below with
    | none => exact ⟨_, rfl, status_notFound⟩
    | some segments =>
      -- the segment is on the path as its text, and there it is refused
      have insecure : isInsecure (String.ofList text) = true := by
        rw [isInsecure, Bool.or_eq_true, beq_iff_eq, List.contains_iff_mem, String.toList_ofList]
        rcases hinsecure with rfl | slash
        · exact .inl rfl
        · exact .inr slash
      have hmem : String.ofList text ∈ segments := by
        simp only [splitSegments, hbelow] at hsegments
        exact mem_of_mapM hsegments hraw (by rw [hdecode]; rfl)
      have nowhere : (traverse fs mount.root segments).value.node? = none :=
        traverseFrom_of_insecure (rootNode fs mount.root) hmem insecure
      have answer := servePath_of_nowhere nowhere (memory[place]?.getD []) request boundary
      dsimp only [respondBelow]
      rw [Logged.value_bind, Logged.value_bind, answer]
      exact ⟨_, rfl, status_notFound⟩

/-- A file system with one page in one directory. -/
def onePage : FileSystem Unit where
  stat path :=
    if path = "/srv" then .ok ⟨.directory, 0, ⟨0, 0⟩⟩
    else if path = "/srv/a.txt" then .ok ⟨.regular, 3, ⟨0, 0⟩⟩
    else .error .notFound
  list path := if path = "/srv" then .ok [[0x61, 0x2E, 0x74, 0x78, 0x74]] else .error .notFound
  openFile _ := .ok ()
  contents _ := .ok [1, 2, 3]

/-- A site that serves this directory. -/
def onePageSite : Site := ⟨Config.usual, [⟨"", Root.usual "/srv"⟩], []⟩

/-- A request for what would be above this directory. -/
def escapeRequest : Http.Request := ⟨"GET", ⟨"/%2e%2E/passwd", none⟩, []⟩

/-- Two escaped dots lead nowhere. -/
theorem escaped_dots_are_not_found :
    ∃ page, (respond onePageSite (freshMemory onePageSite) onePage escapeRequest "b").value.1 = .ok page ∧
      page.status = 404 := by
  have tame : ∀ mount ∈ onePageSite.mounts, mount.root.Tame := by
    intro mount hmount
    cases List.mem_singleton.1 hmount
    exact ⟨by unfold IsComponent; decide, nofun⟩
  have plain : PlainNames onePage := by
    intro path names hnames
    dsimp only [onePage] at hnames
    split at hnames
    · cases hnames
      decide
    · cases hnames
  have served : escapeRequest.method = "GET" ∨ escapeRequest.method = "HEAD" := .inl rfl
  have found : onePageSite.findMount escapeRequest.uri.path
      = some (0, ⟨"", Root.usual "/srv"⟩, "/%2e%2E/passwd") := rfl
  have dots : Text.decode? (Text.percentDecode (Text.encode "%2e%2E".toList)) = some ['.', '.'] := by
    have bytes : Text.percentDecode (Text.encode "%2e%2E".toList) = [0x2E, 0x2E] := by decide
    rw [bytes]
    simp [Text.decode?, Text.decode, Text.decodeFrom, Text.readPiece]
  have confined := respond_is_confined tame plain served rfl found (freshMemory onePageSite) "b"
  exact confined.2.2 "%2e%2E/passwd".toList "%2e%2E".toList ['.', '.'] rfl (by decide) dots (.inl rfl)

end StaticSite.Site
