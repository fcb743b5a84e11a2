/-
  PRIORITY: of all that a segment may stand for, the first that is there.

  A segment that stays in its directory has candidates in one order.  A blank one asks for the index
  names, any other for the entry of its own name and then for a sibling by each ignored extension; the
  first that is there is taken, and only where none is, the directory is listed or nothing is found
  (`Picks`, `resolveSegment_takes_first`).  So an entry of the name itself is never hidden by a
  sibling, and an extension counts only where all before it miss.

  What stands for all extensions finds what can be listed, by names as text.  An entry whose name is
  no text is missed (`sibling_may_be_missed`).

  Numbered structure:
    §1  what is asked for, and in which order
    §2  the first of all candidates
    §3  siblings that are there and are not found
-/
import StaticSite.Files.Tree
import StaticSite.Proofs.Site.Attempts

namespace StaticSite.Site

variable {F : Type}

/-! ## §1 The order -/

/-- An ignored extension hits: one that is written out if there is an entry with it, and the one that
    stands for all if there is any sibling. -/
inductive Hits (fs : FileSystem F) (dir : Node) (segment : String) : String → Prop
  | written {ext : String} (present : ext ≠ "") (one : ext ≠ "*")
      (there : ∃ n, HasEntry fs dir (segment ++ ext) n) : Hits fs dir segment ext
  | any {name : String} (sibling : IsSibling fs dir segment name)
      (there : ∃ n, HasEntry fs dir name n) : Hits fs dir segment "*"

/-- What a directory has for a segment that stays in it: for a blank one the first page of the index
    names, or the listing where no index name leads to a page, and for any other the entry of this
    name, or the first sibling where there is no entry, or nothing where there is no sibling either. -/
inductive Picks (fs : FileSystem F) (root : Root) (dir : Node) : String → Resolution → Prop
  | page {n : Node} (first : FirstOf (HasPage fs dir) root.indexNames n) :
      Picks fs root dir "" (dispatch root n)
  | listing (pages : ∀ name ∈ root.indexNames, ¬∃ n, HasPage fs dir name n) :
      Picks fs root dir "" (.listing dir)
  | entry {segment : String} {n : Node} (named : segment ≠ "") (own : HasEntry fs dir segment n) :
      Picks fs root dir segment (dispatch root n)
  | sibling {segment : String} {n : Node} (named : segment ≠ "")
      (missing : ¬∃ m, HasEntry fs dir segment m)
      (first : FirstOf (Gives fs dir segment) root.ignoredExts n) :
      Picks fs root dir segment (dispatch root n)
  | nothing {segment : String} (named : segment ≠ "") (missing : ¬∃ m, HasEntry fs dir segment m)
      (misses : ∀ ext ∈ root.ignoredExts, ¬Hits fs dir segment ext) :
      Picks fs root dir segment .notFound

/-! ## §2 The first candidate -/

section

variable {fs : FileSystem F} {root : Root} {dir n : Node} {segment : String}

theorem hits_iff_gives {ext : String} :
    Hits fs dir segment ext ↔ ∃ n, Gives fs dir segment ext n := by
  constructor
  · rintro (⟨present, one, n, entry⟩ | ⟨sibling, there⟩)
    · exact ⟨n, .written present one entry⟩
    · -- of the siblings that are there, the search finds one
      cases hfound : wildcardSibling? fs dir segment with
      | some n => exact ⟨n, wildcardSibling?_eq_some_iff.1 hfound⟩
      | none => exact absurd ⟨_, sibling, there⟩ (wildcardSibling?_eq_none_iff.1 hfound)
  · rintro ⟨n, ⟨present, one, entry⟩ | ⟨sibling, entry, -⟩⟩
    · exact .written present one ⟨n, entry⟩
    · exact .any sibling ⟨n, entry⟩

theorem findIndex?_eq_some_iff :
    findIndex? fs root dir = some n ↔ FirstOf (HasPage fs dir) root.indexNames n :=
  findSome?_eq_some_iff_firstOf indexFile?_eq_some_iff

theorem findIndex?_eq_none_iff :
    findIndex? fs root dir = none ↔ ∀ name ∈ root.indexNames, ¬∃ n, HasPage fs dir name n :=
  findSome?_eq_none_iff_gives indexFile?_eq_some_iff

theorem findSibling?_eq_some_iff : findSibling? fs root dir segment = some n ↔
    FirstOf (Gives fs dir segment) root.ignoredExts n :=
  findSome?_eq_some_iff_firstOf sibling?_eq_some_iff

theorem findSibling?_eq_none_iff : findSibling? fs root dir segment = none ↔
    ∀ ext ∈ root.ignoredExts, ¬Hits fs dir segment ext := by
  rw [findSibling?, findSome?_eq_none_iff_gives sibling?_eq_some_iff]
  exact forall_congr' fun ext => forall_congr' fun _ => not_congr hits_iff_gives.symm

variable (fs root) in
/-- The search that a segment asks for. -/
theorem candidate?_blank : candidate? fs root dir "" = findIndex? fs root dir := if_pos rfl

variable (fs root) in
theorem candidate?_named (named : segment ≠ "") : candidate? fs root dir segment
    = (child? fs dir segment).or (findSibling? fs root dir segment) := if_neg named

theorem picks_resolveSegment (isDir : dir.isDir = true) (stays : ¬Leaves segment) :
    Picks fs root dir segment (resolveSegment fs root dir segment) := by
  rw [resolveSegment_eq isDir (isComponent_of_stays stays)]
  by_cases blank : segment = ""
  · subst blank
    rw [candidate?_blank, if_pos rfl]
    cases hindex : findIndex? fs root dir with
    | some n => exact .page (findIndex?_eq_some_iff.1 hindex)
    | none => exact .listing (findIndex?_eq_none_iff.1 hindex)
  · rw [candidate?_named fs root blank, if_neg blank]
    cases hchild : child? fs dir segment with
    | some n => exact .entry blank ((child?_eq_some_iff segment n).1 hchild)
    | none =>
      have missing := (eq_none_iff_gives (child?_eq_some_iff segment)).1 hchild
      cases hsibling : findSibling? fs root dir segment with
      | some n => exact .sibling blank missing (findSibling?_eq_some_iff.1 hsibling)
      | none => exact .nothing blank missing (findSibling?_eq_none_iff.1 hsibling)

/-- Nothing else is picked. -/
theorem Picks.resolveSegment_eq {outcome : Resolution} (h : Picks fs root dir segment outcome)
    (isDir : dir.isDir = true) (stays : ¬Leaves segment) :
    resolveSegment fs root dir segment = outcome := by
  rw [Site.resolveSegment_eq isDir (isComponent_of_stays stays)]
  cases h with
  | page first => rw [candidate?_blank, findIndex?_eq_some_iff.2 first]
  | listing pages => rw [candidate?_blank, findIndex?_eq_none_iff.2 pages, if_pos rfl]
  | entry named own =>
    rw [candidate?_named fs root named, (child?_eq_some_iff segment _).2 own, Option.some_or]
  | sibling named missing first =>
    rw [candidate?_named fs root named, (eq_none_iff_gives (child?_eq_some_iff segment)).2 missing,
      Option.none_or, findSibling?_eq_some_iff.2 first]
  | nothing named missing misses =>
    rw [candidate?_named fs root named, (eq_none_iff_gives (child?_eq_some_iff segment)).2 missing,
      Option.none_or, findSibling?_eq_none_iff.2 misses, if_neg named]

theorem dispatch_ne_notFound (n : Node) : dispatch root n ≠ .notFound := by
  intro h
  have found : (dispatch root n).node? = some n := node?_dispatch n
  rw [h] at found
  cases found

theorem picks_listing_iff : Picks fs root dir segment (.listing dir) ↔
    segment = "" ∧ ∀ name ∈ root.indexNames, ¬∃ n, HasPage fs dir name n := by
  constructor
  · intro h
    generalize houtcome : Resolution.listing dir = outcome at h
    cases h with
    | listing pages => exact ⟨rfl, pages⟩
    | nothing _ _ _ => cases houtcome
    | _ => exact absurd houtcome.symm (dispatch_ne_listing _ _)
  · rintro ⟨rfl, pages⟩
    exact .listing pages

theorem picks_notFound_iff : Picks fs root dir segment .notFound ↔
    segment ≠ "" ∧ (¬∃ n, HasEntry fs dir segment n) ∧
      ∀ ext ∈ root.ignoredExts, ¬Hits fs dir segment ext := by
  constructor
  · intro h
    generalize houtcome : Resolution.notFound = outcome at h
    cases h with
    | nothing named missing misses => exact ⟨named, missing, misses⟩
    | listing _ => cases houtcome
    | _ => exact absurd houtcome.symm (dispatch_ne_notFound _)
  · rintro ⟨named, missing, misses⟩
    exact .nothing named missing misses

end

/-- In a directory, a segment that stays there gives the first of its candidates that is there, and
    nothing else; the directory is listed exactly if none of its index names leads to a page, and
    nothing is found exactly if there is no entry of the name and no ignored extension hits. -/
theorem resolveSegment_takes_first (fs : FileSystem F) (root : Root) {dir : Node}
    (isDir : dir.isDir = true) {segment : String} (stays : ¬Leaves segment) :
    (∀ outcome, resolveSegment fs root dir segment = outcome ↔ Picks fs root dir segment outcome) ∧
    (resolveSegment fs root dir segment = .listing dir ↔
      segment = "" ∧ ∀ name ∈ root.indexNames, ¬∃ n, HasPage fs dir name n) ∧
    (resolveSegment fs root dir segment = .notFound ↔
      segment ≠ "" ∧ (¬∃ n, HasEntry fs dir segment n) ∧
        ∀ ext ∈ root.ignoredExts, ¬Hits fs dir segment ext) ∧
    ∀ ext, Hits fs dir segment ext ↔ ∃ n, Gives fs dir segment ext n := by
  have picks (outcome : Resolution) :
      resolveSegment fs root dir segment = outcome ↔ Picks fs root dir segment outcome := by
    refine ⟨?_, fun h => h.resolveSegment_eq isDir stays⟩
    rintro rfl
    exact picks_resolveSegment isDir stays
  exact ⟨picks, (picks _).trans picks_listing_iff, (picks _).trans picks_notFound_iff,
    fun ext => hits_iff_gives⟩

/-- A page under two names, and a name that leads nowhere. -/
def drafts : FileSystem Unit where
  stat path :=
    if path = "/srv" then .ok ⟨.directory, 0, ⟨0, 0⟩⟩
    else if path ∈ ["/srv/notes.bb", "/srv/notes.zz"] then .ok ⟨.regular, 1, ⟨0, 0⟩⟩
    else .error .notFound
  list path :=
    if path = "/srv" then .ok (["notes.zz", "notes.aa", "notes.bb"].map Text.utf8)
    else .error .notADirectory
  openFile _ := .ok ()
  contents _ := .ok [1]

/-- A root where any extension may be left out, but one is tried before. -/
def draftsRoot : Root := { Root.usual "/srv" with ignoredExts := ["", ".md", "*"] }

/-- Where two names have the segment in front, the least that leads to anything is taken. -/
theorem first_sibling_is_taken : ¬Leaves "notes" ∧
    resolveSegment drafts draftsRoot ⟨"/srv", true⟩ "notes" = .node ⟨"/srv/notes.bb", false⟩ := by
  have stays : ¬Leaves "notes" := by decide
  have missing : child? drafts ⟨"/srv", true⟩ "notes" = none := by decide
  have earlier : ∀ ext ∈ ["", ".md"], sibling? drafts ⟨"/srv", true⟩ "notes" ext = none := by
    decide +kernel
  have sibling : IsSibling drafts ⟨"/srv", true⟩ "notes" "notes.bb" :=
    ⟨⟨_, rfl, Text.utf8 "notes.bb", by decide, by decide +kernel⟩, "bb", by decide⟩
  have entry : child? drafts ⟨"/srv", true⟩ "notes.bb" = some ⟨"/srv/notes.bb", false⟩ := by decide
  have least : ∀ bytes ∈ ["notes.zz", "notes.aa", "notes.bb"].map Text.utf8,
      child? drafts ⟨"/srv", true⟩ (String.ofList (Text.decodeLossy bytes)) ≠ none →
        Text.utf8 "notes.bb" ≤ Text.utf8 (String.ofList (Text.decodeLossy bytes)) := by
    decide +kernel
  have gives : Gives drafts ⟨"/srv", true⟩ "notes" "*" ⟨"/srv/notes.bb", false⟩ := by
    refine .any sibling ((child?_eq_some_iff _ _).1 entry) ?_
    rintro other ⟨⟨names, hnames, bytes, hbytes, rfl⟩, -⟩ ⟨m, hm⟩
    cases hnames
    exact least bytes hbytes (by rw [(child?_eq_some_iff _ m).2 hm]; exact nofun)
  have picks : Picks drafts draftsRoot ⟨"/srv", true⟩ "notes"
      (dispatch draftsRoot ⟨"/srv/notes.bb", false⟩) :=
    .sibling (by decide) ((eq_none_iff_gives (child?_eq_some_iff _)).1 missing)
      ⟨["", ".md"], "*", [], rfl, gives, fun ext hext =>
        (eq_none_iff_gives (sibling?_eq_some_iff ext)).1 (earlier ext hext)⟩
  exact ⟨stays, ((resolveSegment_takes_first drafts draftsRoot rfl stays).1 _).2 picks⟩

/-! ## §3 Siblings that are missed -/

open Files (Tree)

/-- The top of a tree has an entry of a name, and it can be told what that is. -/
def TopHas (t : Tree) (name : Text.Bytes) : Prop :=
  (∃ access entries, t.node Tree.top = .directory access entries ∧
    name ∈ entries.map fun e => e.1) ∧
  ∃ h, t.walk false Files.linkLimit [] Tree.top [name] = .ok h

theorem find_top {t : Tree} {access : Files.Access} {entries : List (Text.Bytes × Files.Handle)}
    (top : t.node Tree.top = .directory access entries) : t.find "/" = .ok Tree.top := by
  have components : Files.componentsOf (Text.utf8 "/") = [] := by decide
  rw [Tree.find, components, Tree.walk, if_neg (by decide), if_neg (by decide), if_neg (by decide)]
  dsimp only
  rw [top]

/-- Where the walk to a name fails the top has no entry of it. -/
theorem not_hasEntry_of_walk {t : Tree} {name : String} {components : List Text.Bytes} {e : IoError}
    (path : Files.componentsOf (Text.utf8 (FilePath.join "/" name)) = components)
    (lost : t.walk false Files.linkLimit [] Tree.top components = .error e) :
    ¬∃ n, HasEntry t.system ⟨"/", true⟩ name n := by
  rintro ⟨n, s, hstat, -⟩
  dsimp only [Tree.system] at hstat
  rw [Tree.find, path, lost] at hstat
  split at hstat
  next => cases hstat
  next =>
    split at hstat
    next => cases hstat
    next =>
      split at hstat
      next => cases hstat
      next => cases hstat

/-- A root where any extension may be left out, and the node of its directory. -/
def anyRoot : Root := { Root.usual "/" with ignoredExts := ["*"] }

def topNode : Node := ⟨"/", true⟩

theorem notFound_of_no_sibling {fs : FileSystem F} (missing : ¬∃ n, HasEntry fs topNode "notes" n)
    (nothing : ∀ name, IsSibling fs topNode "notes" name → ¬∃ n, HasEntry fs topNode name n) :
    resolveSegment fs anyRoot topNode "notes" = .notFound := by
  have misses : ∀ ext ∈ anyRoot.ignoredExts, ¬Hits fs topNode "notes" ext := by
    rintro ext hext (⟨-, one, -⟩ | ⟨sibling, there⟩)
    · exact one (List.mem_singleton.1 hext)
    · exact nothing _ sibling there
  exact (Picks.nothing (by decide) missing misses).resolveSegment_eq rfl (by decide)

/-- A page whose name is no text. -/
def garbledPage : Tree :=
  ⟨#[.directory .full [(Text.utf8 "notes." ++ [0xFF], 1)], .regular .full [] Files.epoch]⟩

theorem topHas_garbledPage : TopHas garbledPage (Text.utf8 "notes." ++ [0xFF]) := by
  refine ⟨⟨_, _, rfl, List.mem_singleton_self _⟩, 1, ?_⟩
  rw [Tree.walk]
  rfl

theorem garbledPage_missed : resolveSegment garbledPage.system anyRoot topNode "notes" = .notFound := by
  have lost : garbledPage.walk false Files.linkLimit [] Tree.top [Text.utf8 "notes"]
      = .error .notFound := by
    rw [Tree.walk]
    rfl
  have decoded : String.ofList (Text.decodeLossy (Text.utf8 "notes." ++ [0xFF])) = "notes.\uFFFD" := by
    decide +kernel
  have replaced : garbledPage.walk false Files.linkLimit [] Tree.top [Text.utf8 "notes.\uFFFD"]
      = .error .notFound := by
    rw [Tree.walk]
    rfl
  refine notFound_of_no_sibling (not_hasEntry_of_walk (by decide) lost) ?_
  rintro name ⟨⟨names, hnames, bytes, hbytes, rfl⟩, -⟩
  have found : garbledPage.find "/" = .ok Tree.top := find_top rfl
  dsimp only [Tree.system, topNode] at hnames
  rw [found] at hnames
  cases hnames
  rw [List.mem_singleton.1 hbytes, decoded]
  exact not_hasEntry_of_walk (by decide) replaced

/-- An entry that begins with a segment and a dot is missed where its name is no text. -/
theorem sibling_may_be_missed :
    TopHas garbledPage (Text.utf8 "notes." ++ [0xFF]) ∧
    resolveSegment garbledPage.system anyRoot topNode "notes" = .notFound ∧
    ¬∀ (t : Tree) (root : Root) (segment : String), ¬Leaves segment → "*" ∈ root.ignoredExts →
      (∃ name, Text.utf8 (segment ++ ".") <+: name ∧ TopHas t name) →
        resolveSegment t.system root topNode segment ≠ .notFound := by
  refine ⟨topHas_garbledPage, garbledPage_missed, fun found => ?_⟩
  exact found garbledPage anyRoot "notes" (by decide) (by decide)
    ⟨Text.utf8 "notes." ++ [0xFF], List.prefix_append _ _, topHas_garbledPage⟩ garbledPage_missed

end StaticSite.Site
