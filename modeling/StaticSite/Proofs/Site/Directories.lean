/-
  DIRECTORIES: what one more segment leads to.

  A walk along a path goes on from where its front leads (`value_traverse_append`), and gets to its
  last segment only through a node (`exists_of_traverse_concat`).  So a whole path is understood
  from its front and one segment more: a name leads to what it finds in the directory, or to the
  processor of what it finds (`resolveSegment_of_candidate`), and a blank segment SHOWS the
  directory, as a listing or by an index file (`shows_of_blank`).

  Numbered structure:
    §1  names of files
    §2  what a segment finds
    §3  what a blank segment shows
    §4  walks put together
-/
import StaticSite.Proofs.Site.Walk
import StaticSite.Proofs.Text.Fields

namespace StaticSite

/-! ## §1 Names of files -/

namespace FilePath

/-- The last component of a path that was put together is the name that was put behind. -/
theorem fields_join (dir : FilePath) {name : String} (free : '/' ∉ name.toList) :
    ∃ before, Text.fields '/' (dir.join name).toList = before ++ [name.toList] := by
  have alone := Text.fields_of_not_mem free
  unfold join
  split
  next rest slash => exact absurd (slash ▸ List.mem_cons_self) free
  next =>
    split
    next => exact ⟨[], alone⟩
    next slash =>
      -- the directory ends with the slash already
      obtain ⟨front, hdir⟩ := List.getLast?_eq_some_iff.1 slash
      refine ⟨Text.fields '/' front, ?_⟩
      rw [String.toList_append, hdir, List.append_assoc, List.singleton_append,
        Text.fields_append_cons, alone]
    next =>
      refine ⟨Text.fields '/' dir.toList, ?_⟩
      have slash : "/".toList = ['/'] := rfl
      rw [String.toList_append, String.toList_append, slash, List.append_assoc,
        List.singleton_append, Text.fields_append_cons, alone]

/-- The name of a file in a directory, if it is a name at all. -/
theorem fileName_join (dir : FilePath) {name : String} (free : '/' ∉ name.toList) (some : name ≠ "")
    (dot : name ≠ ".") (dots : name ≠ "..") : (dir.join name).fileName = name := by
  obtain ⟨before, hfields⟩ := fields_join dir free
  have kept : (!name.toList.isEmpty && name.toList != ['.']) = true := by
    rw [Bool.and_eq_true, Bool.not_eq_true', bne_iff_ne, ← Bool.not_eq_true, List.isEmpty_iff]
    exact ⟨mt String.toList_eq_nil_iff.1 some, fun h => dot (String.toList_inj.1 h)⟩
  have last : (dir.join name).components.getLast? = .some name.toList := by
    have single : [name.toList].filter (fun c => !c.isEmpty && c != ['.']) = [name.toList] :=
      List.filter_cons_of_pos kept
    rw [components, hfields, List.filter_append, single]
    exact List.getLast?_concat
  rw [fileName, fileName?, last]
  split
  next h => cases h
  next h => exact absurd (String.toList_inj.1 (Option.some.inj h)) dots
  next name' h =>
    cases h
    exact String.ofList_toList

end FilePath

namespace Site

variable {F : Type} {fs : FileSystem F} {root : Root}

/-! ## §2 What a segment finds -/

variable (fs root) in
/-- What a segment names in a directory: an index file if it is blank, else an entry, else a
    sibling. -/
def candidate? (dir : Node) (segment : String) : Option Node :=
  if segment = "" then findIndex? fs root dir
  else (child? fs dir segment).or (findSibling? fs root dir segment)

/-- In a directory a segment that stays there gives what it names.  Where it names nothing, the
    directory is listed for a blank segment, and nothing is found for any other. -/
theorem resolveSegment_eq {dir : Node} (isDir : dir.isDir = true) {segment : String}
    (component : IsComponent segment) :
    resolveSegment fs root dir segment =
      match candidate? fs root dir segment with
      | some n => dispatch root n
      | none => if segment = "" then .listing dir else .notFound := by
  rw [resolveSegment, isDir, isInsecure_eq_false_iff.2 component, candidate?]
  simp only [Bool.not_true, Bool.false_eq_true, if_false]
  split
  next =>
    cases findIndex? fs root dir with
    | some n => rfl
    | none => rfl
  next =>
    cases child? fs dir segment with
    | some n => rfl
    | none =>
      cases findSibling? fs root dir segment with
      | some n => rfl
      | none => rfl

/-- What a segment finds is taken by the processor of its name, if there is one. -/
theorem resolveSegment_of_candidate {dir n : Node} (isDir : dir.isDir = true) {segment : String}
    (component : IsComponent segment) (h : candidate? fs root dir segment = some n) :
    resolveSegment fs root dir segment = dispatch root n := by
  rw [resolveSegment_eq isDir component, h]

variable (fs root) in
/-- Nothing is found below a file. -/
theorem resolveSegment_of_file {n : Node} (file : n.isDir = false) (segment : String) :
    resolveSegment fs root n segment = .notFound := by
  rw [resolveSegment, file]
  rfl

/-- A node without a processor is what it is. -/
theorem dispatch_of_none {n : Node} (h : root.processors.lookup n.path.fileName = none) :
    dispatch root n = .node n := by
  unfold dispatch
  rw [h]

theorem dispatch_of_some {n : Node} {processor : Processor}
    (h : root.processors.lookup n.path.fileName = some processor) :
    dispatch root n = .processed processor n := by
  unfold dispatch
  rw [h]

theorem dispatch_ne_listing (n dir : Node) : dispatch root n ≠ .listing dir := by
  unfold dispatch
  split
  · exact nofun
  · exact nofun

theorem dispatch_ne_insecure (n : Node) : dispatch root n ≠ .insecure := by
  intro h
  have found : (dispatch root n).node? = some n := node?_dispatch n
  rw [h] at found
  cases found

/-- An entry of a directory that can be looked at. -/
theorem child?_of_stat {dir : Node} {name : String} {s : Stat}
    (h : fs.stat (dir.path.join name) = .ok s) :
    child? fs dir name = some ⟨dir.path.join name, s.isDir⟩ := by
  dsimp only [child?, FileSystem.stat?]
  rw [h]
  rfl

/-- A node is there, and is what it says. -/
def Found (fs : FileSystem F) (n : Node) : Prop := ∃ s, fs.stat? n.path = some s ∧ s.isDir = n.isDir

theorem found_of_child {dir n : Node} {name : String} (h : child? fs dir name = some n) :
    Found fs n := by
  obtain ⟨s, hstat, rfl⟩ := Option.map_eq_some_iff.1 h
  exact ⟨s, hstat, rfl⟩

theorem found_of_findIndex {dir n : Node} (h : findIndex? fs root dir = some n) : Found fs n := by
  obtain ⟨name, -, h⟩ := List.exists_of_findSome?_eq_some h
  obtain ⟨s, hstat, regular, rfl⟩ := (indexFile?_eq_some_iff name n).1 h
  exact ⟨s, stat?_eq_some_iff.2 hstat, by rw [Stat.isDir, regular]; rfl⟩

theorem found_of_findSibling {dir n : Node} {segment : String}
    (h : findSibling? fs root dir segment = some n) : Found fs n := by
  obtain ⟨ext, -, h⟩ := List.exists_of_findSome?_eq_some h
  obtain ⟨name, entry⟩ := ((sibling?_eq_some_iff ext n).1 h).exists_hasEntry
  exact found_of_child ((child?_eq_some_iff name n).2 entry)

/-- Whatever a segment finds was looked at. -/
theorem found_of_candidate {dir n : Node} {segment : String}
    (h : candidate? fs root dir segment = some n) : Found fs n := by
  unfold candidate? at h
  split at h
  next => exact found_of_findIndex h
  next =>
    rcases Option.or_eq_some_iff.1 h with child | ⟨-, sibling⟩
    · exact found_of_child child
    · exact found_of_findSibling sibling

/-! ## §3 What a blank segment shows -/

/-- A regular file that an index name of the root names from a directory. -/
def IsIndex (fs : FileSystem F) (root : Root) (dir n : Node) : Prop :=
  ∃ name ∈ root.indexNames, n = ⟨dir.path.join name, false⟩ ∧
    ∃ s, fs.stat? n.path = some s ∧ s.isFile = true

/-- A directory is shown: by an index file of it, or as a listing. -/
def Shows (fs : FileSystem F) (root : Root) (dir : Node) (outcome : Resolution) : Prop :=
  outcome = .listing dir ∨ ∃ n, IsIndex fs root dir n ∧ outcome = dispatch root n

theorem isIndex_of_findIndex {dir n : Node} (h : findIndex? fs root dir = some n) :
    IsIndex fs root dir n := by
  obtain ⟨name, hname, h⟩ := List.exists_of_findSome?_eq_some h
  obtain ⟨s, hstat, regular, rfl⟩ := (indexFile?_eq_some_iff name n).1 h
  exact ⟨name, hname, rfl, s, stat?_eq_some_iff.2 hstat, by rw [Stat.isFile, regular]; rfl⟩

/-- An index file is there, and is no directory. -/
theorem IsIndex.found {dir n : Node} (h : IsIndex fs root dir n) : Found fs n ∧ n.isDir = false := by
  obtain ⟨name, -, rfl, s, hstat, regular⟩ := h
  have kind : s.kind = .regular := eq_of_beq regular
  exact ⟨⟨s, hstat, by rw [Stat.isDir, kind]; rfl⟩, rfl⟩

variable (fs root) in
/-- A blank segment shows the directory. -/
theorem shows_of_blank {dir : Node} (isDir : dir.isDir = true) :
    Shows fs root dir (resolveSegment fs root dir "") := by
  have component : IsComponent "" := by unfold IsComponent; decide
  cases hindex : findIndex? fs root dir with
  | some n =>
    exact .inr ⟨n, isIndex_of_findIndex hindex, resolveSegment_of_candidate isDir component hindex⟩
  | none =>
    refine .inl ?_
    rw [resolveSegment_eq isDir component, candidate?, if_pos rfl, hindex]
    rfl

/-- A file system where the page of a directory lies one directory deeper. -/
def deepPage : FileSystem Unit where
  stat path :=
    if path ∈ ["/srv", "/srv/d", "/srv/d/s"] then .ok ⟨.directory, 0, ⟨0, 0⟩⟩
    else if path = "/srv/d/s/i.html" then .ok ⟨.regular, 1, ⟨0, 0⟩⟩
    else .error .notFound
  list path :=
    if path = "/srv" then .ok [[0x64]]
    else if path = "/srv/d" then .ok [[0x73]]
    else .error .notADirectory
  openFile _ := .ok ()
  contents _ := .ok [1]

/-- A root whose index name leads there. -/
def deepRoot : Root := { Root.usual "/srv" with indexNames := ["s/i.html"] }

/-- The page is no entry of the directory that it is shown for. -/
theorem deepPage_not_inside {name : String} (free : '/' ∉ name.toList) :
    FilePath.join "/srv/d" name ≠ "/srv/d/s/i.html" := by
  intro h
  obtain ⟨before, hfields⟩ := FilePath.fields_join "/srv/d" free
  have parts : Text.fields '/' "/srv/d/s/i.html".toList
      = [[], "srv".toList, ['d'], ['s']] ++ ["i.html".toList] := by decide
  rw [h, parts] at hfields
  obtain ⟨-, last⟩ := List.append_inj' hfields rfl
  have : name = "i.html" := String.toList_inj.1 (List.cons.inj last).1.symm
  subst this
  exact absurd h (by decide)

/-! ## §4 Walks put together -/

/-- A path of one segment. -/
theorem traverseFrom_singleton (start : Node) (segment : String) :
    traverseFrom fs root start [segment] =
      match resolveSegment fs root start segment with
      | .insecure => blocked segment
      | outcome => pure outcome := rfl

theorem value_traverseFrom_singleton (start : Node) (segment : String) :
    (traverseFrom fs root start [segment]).value = resolveSegment fs root start segment := by
  rw [traverseFrom_singleton]
  split
  next h => rw [h]; rfl
  next => rfl

variable (fs root) in
/-- A walk does not get past a file. -/
theorem value_traverseFrom_of_file {n : Node} (file : n.isDir = false) (segment : String)
    (rest : List String) : (traverseFrom fs root n (segment :: rest)).value = .notFound := by
  have nothing := resolveSegment_of_file fs root file segment
  cases rest with
  | nil => rw [value_traverseFrom_singleton, nothing]
  | cons following rest =>
    rw [traverseFrom_cons_cons, nothing]
    rfl

/-- A walk to a node goes on from there, and makes no notes before. -/
theorem traverseFrom_append {start n : Node} {segments : List String}
    (h : (traverseFrom fs root start segments).value = .node n) (rest : List String) :
    traverseFrom fs root start (segments ++ rest) = traverseFrom fs root n rest := by
  induction segments generalizing start with
  | nil =>
    cases h
    rfl
  | cons segment others ih =>
    cases others with
    | nil =>
      rw [value_traverseFrom_singleton] at h
      cases rest with
      | nil =>
        rw [List.append_nil, traverseFrom_singleton, h]
        rfl
      | cons following rest => rw [List.singleton_append, traverseFrom_cons_cons, h]
    | cons following others =>
      rw [traverseFrom_cons_cons] at h
      rw [List.cons_append, List.cons_append, traverseFrom_cons_cons]
      cases houtcome : resolveSegment fs root start segment with
      | node next =>
        rw [houtcome] at h
        exact ih h
      | listing n => rw [houtcome] at h; cases h
      | processed processor n => rw [houtcome] at h; cases h
      | notFound => rw [houtcome] at h; cases h
      | insecure => rw [houtcome] at h; cases h

theorem value_traverseFrom_append {start n : Node} {segments : List String}
    (h : (traverseFrom fs root start segments).value = .node n) (rest : List String) :
    (traverseFrom fs root start (segments ++ rest)).value = (traverseFrom fs root n rest).value :=
  congrArg Logged.value (traverseFrom_append h rest)

/-- The last segment is looked up in the node that those before it lead to. -/
theorem exists_of_traverseFrom_concat {start n : Node} {segments : List String} {last : String}
    (h : (traverseFrom fs root start (segments ++ [last])).value.node? = some n) :
    ∃ dir, (traverseFrom fs root start segments).value = .node dir ∧
      (traverseFrom fs root start (segments ++ [last])).value = resolveSegment fs root dir last := by
  induction segments generalizing start with
  | nil => exact ⟨start, rfl, value_traverseFrom_singleton start last⟩
  | cons segment others ih =>
    obtain ⟨following, rest, hothers⟩ : ∃ following rest, others ++ [last] = following :: rest :=
      List.exists_cons_of_ne_nil (List.append_ne_nil_of_right_ne_nil _ (List.cons_ne_nil _ _))
    rw [List.cons_append, hothers, traverseFrom_cons_cons] at h ⊢
    cases houtcome : resolveSegment fs root start segment with
    | node next =>
      rw [houtcome, ← hothers] at h
      obtain ⟨dir, hdir, hlast⟩ := ih h
      refine ⟨dir, ?_, hothers ▸ hlast⟩
      have first : (traverseFrom fs root start [segment]).value = .node next :=
        (value_traverseFrom_singleton start segment).trans houtcome
      exact (value_traverseFrom_append first others).trans hdir
    | listing n => rw [houtcome] at h; cases h
    | processed processor n => rw [houtcome] at h; cases h
    | notFound => rw [houtcome] at h; cases h
    | insecure => rw [houtcome] at h; cases h

/-- What a walk shows with a slash at the end is the directory that it leads to without. -/
theorem node_of_listing {segments : List String} {dir : Node}
    (h : (traverse fs root (segments ++ [""])).value = .listing dir) :
    (traverse fs root segments).value = .node dir ∧ dir.isDir = true := by
  obtain ⟨dir', hdir, hlast⟩ := exists_of_traverseFrom_concat (n := dir) (by
    show (traverse fs root (segments ++ [""])).value.node? = _
    rw [h]
    rfl)
  have hlisting : resolveSegment fs root dir' "" = .listing dir := hlast.symm.trans h
  cases isDir : dir'.isDir with
  | false =>
    rw [resolveSegment_of_file fs root isDir] at hlisting
    cases hlisting
  | true =>
    rcases shows_of_blank fs root isDir with listing | ⟨n, -, index⟩
    · rw [hlisting] at listing
      cases listing
      exact ⟨hdir, isDir⟩
    · rw [hlisting] at index
      exact absurd index.symm (dispatch_ne_listing n dir)

/-- With a slash at the end a directory is shown. -/
theorem shows_of_slash {segments : List String} {dir : Node}
    (h : (traverse fs root segments).value = .node dir) (isDir : dir.isDir = true) :
    Shows fs root dir (traverse fs root (segments ++ [""])).value := by
  rw [traverse, value_traverseFrom_append h, value_traverseFrom_singleton]
  exact shows_of_blank fs root isDir

end Site

end StaticSite
