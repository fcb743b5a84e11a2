/-
  PROCESSORS AND DIRECTORIES: a registered extension takes a directory over as it takes a file.

  What a segment found is handed to the processor of its name, and whether it is a file is not asked
  (`dispatch`).  So a directory with such a name is no longer a way to what is in it: it is read as a
  file where stored responses are registered, and where sources are, the client is sent to a path
  with a slash at its end, which leads nowhere (`registered_directory_is_processed`).

  Numbered structure:
    §1  below what a processor has
    §2  directories with a registered name
-/
import StaticSite.Proofs.Site.Confinement
import StaticSite.Proofs.Site.Directories

namespace StaticSite.Site

variable {F : Type} {fs : FileSystem F} {root : Root}

/-! ## §1 Below what a processor has -/

/-- Only a node leads on. -/
theorem traverseFrom_of_processed {start n : Node} {segment : String} {processor : Processor}
    (h : resolveSegment fs root start segment = .processed processor n) (following : String)
    (rest : List String) :
    (traverseFrom fs root start (segment :: following :: rest)).value = .notFound := by
  rw [traverseFrom_cons_cons, h]
  rfl

/-! ## §2 Directories with a registered name -/

/-- What is known of a directory that is served as a source: how to get there with a slash. -/
theorem renderNode_of_directory {n : Node} {s : Stat} (hstat : fs.stat? n.path = some s)
    (isDir : s.isDir = true) {request : Http.Request}
    (slash : endsWithSlash request.uri.path = false) (media : MediaType) (boundary : String) :
    (renderNode fs root n media request boundary).value
      = .ok (Http.redirect (withSlash request.uri) : Logged (Http.Response F)).value := by
  simp only [renderNode, snapshot, hstat, isDir, if_true, renderDirectory, slash]
  rfl

/-- A stored response that cannot be read is a failure, if not one that is answered for itself. -/
theorem renderStored_of_error {path : FilePath} {e : IoError} (h : fs.contents path = .error e)
    (denied : e ≠ .permissionDenied) (missing : e ≠ .notFound) (request : Http.Request) :
    (renderStored fs path request).value = .error (.reported (.io path e)) := by
  unfold renderStored
  rw [h]
  cases e with
  | permissionDenied => exact absurd rfl denied
  | notFound => exact absurd rfl missing
  | _ => rfl

/-- A directory that is found under a registered name is handed to the processor of that name, and
    nothing below it is found.  A stored response is read from it, which fails as reading a
    directory does; as a source it is a redirect to a path that is not found. -/
theorem registered_directory_is_processed {segments : List String} {dir n : Node} {segment : String}
    {processor : Processor} (reached : (traverse fs root segments).value = .node dir)
    (isDir : dir.isDir = true) (component : IsComponent segment)
    (found : candidate? fs root dir segment = some n) (subdirectory : n.isDir = true)
    (registered : root.processors.lookup n.path.fileName = some processor) :
    (traverse fs root (segments ++ [segment])).value = .processed processor n ∧
    (∀ following rest,
      (traverse fs root (segments ++ segment :: following :: rest)).value = .notFound) ∧
    (∀ cache request boundary, match processor with
      | .stored => ∀ e, fs.contents n.path = .error e → e ≠ .permissionDenied → e ≠ .notFound →
        (servePath fs root cache (segments ++ [segment]) request boundary).value.1
          = .error (.reported (.io n.path e))
      | .source => endsWithSlash request.uri.path = false →
        (servePath fs root cache (segments ++ [segment]) request boundary).value.1
          = .ok (Http.redirect (withSlash request.uri) : Logged (Http.Response F)).value ∧
        (servePath fs root cache (segments ++ [segment, ""]) request boundary).value.1
          = .ok (Http.notFound : Logged (Http.Response F)).value) := by
  have taken : resolveSegment fs root dir segment = .processed processor n :=
    (resolveSegment_of_candidate isDir component found).trans (dispatch_of_some registered)
  have outcome : (traverse fs root (segments ++ [segment])).value = .processed processor n :=
    (value_traverseFrom_append reached [segment]).trans
      ((value_traverseFrom_singleton dir segment).trans taken)
  have nothing (following : String) (rest : List String) :
      (traverse fs root (segments ++ segment :: following :: rest)).value = .notFound :=
    (value_traverseFrom_append reached _).trans (traverseFrom_of_processed taken following rest)
  refine ⟨outcome, nothing, fun cache request boundary => ?_⟩
  cases processor with
  | stored =>
    intro e hread denied missing
    rw [servePath, Logged.value_bind, outcome]
    exact renderStored_of_error hread denied missing request
  | source =>
    intro slash
    obtain ⟨s, hstat, sameKind⟩ := found_of_candidate found
    refine ⟨?_, ?_⟩
    · rw [servePath, Logged.value_bind, outcome]
      exact renderNode_of_directory hstat (sameKind.trans subdirectory) slash _ boundary
    · have nowhere : (traverse fs root (segments ++ [segment, ""])).value.node? = none := by
        rw [nothing "" []]
        rfl
      rw [servePath_of_nowhere nowhere]

/-- A file system with one directory below its root, and nothing in it. -/
def oneDirectory : FileSystem Unit where
  stat path :=
    if path = "/srv" ∨ path = "/srv/d.asis" then .ok ⟨.directory, 0, ⟨0, 0⟩⟩ else .error .notFound
  list path := if path = "/srv" then .ok [Text.utf8 "d.asis"] else .ok []
  openFile _ := .error .notFound
  contents _ := .error .isADirectory

/-- A root where files named `.asis` are stored responses. -/
def storedRoot : Root := (Root.usual "/srv").withProcessors [("asis", .stored)]

/-- The directory is read as a stored response, which fails. -/
theorem directory_read_as_stored :
    (servePath oneDirectory storedRoot [] ["d.asis"] ⟨"GET", ⟨"/d.asis", none⟩, []⟩ "b").value.1
      = .error (.reported (.io "/srv/d.asis" .isADirectory)) := by
  have component : IsComponent "d.asis" := by unfold IsComponent; decide
  have found : candidate? oneDirectory storedRoot ⟨"/srv", true⟩ "d.asis"
      = some ⟨"/srv/d.asis", true⟩ := by decide
  have reached : (traverse oneDirectory storedRoot []).value = .node ⟨"/srv", true⟩ := rfl
  have registered : storedRoot.processors.lookup (FilePath.fileName "/srv/d.asis") = some .stored := by
    decide
  have taken := registered_directory_is_processed reached rfl component found rfl registered
  exact taken.2.2 [] ⟨"GET", ⟨"/d.asis", none⟩, []⟩ "b" .isADirectory rfl nofun nofun

/-- What is handed to a processor need not be a file. -/
theorem processed_need_not_be_file :
    ¬∀ (fs : FileSystem Unit) (root : Root) (segments : List String) (processor : Processor) (n : Node),
      (traverse fs root segments).value = .processed processor n → n.isDir = false := by
  intro h
  have outcome : (traverse oneDirectory storedRoot ["d.asis"]).value
      = .processed .stored ⟨"/srv/d.asis", true⟩ := by decide
  have file := h oneDirectory storedRoot ["d.asis"] .stored ⟨"/srv/d.asis", true⟩ outcome
  cases file

end StaticSite.Site
