/-
  MEMORY: the types that a site remembers are those that it would work out again.

  A cache is FAITHFUL to a root if what it has for a path is the type of the file name there.  A
  fresh cache is, and asking for a path keeps it so (`faithful_mediaForPath`), whatever is found on
  the way; so all caches of a site stay faithful from one request to the next
  (`faithful_of_reached`), also where the files change between the requests.

  Numbered structure:
    §1  the cache of one root
    §2  the caches of a site
-/
import StaticSite.Proofs.Site.Mounts
import StaticSite.Site.Respond

namespace StaticSite.Site

/-! ## §1 The cache of one root -/

/-- What is remembered of a path is the type of the file name there. -/
def MediaCache.Faithful (root : Root) (cache : MediaCache) : Prop :=
  ∀ path media, cache.get? path = some media → media = root.mediaForName path.fileName

theorem faithful_nil (root : Root) : MediaCache.Faithful root [] := nofun

/-- Asking a faithful cache gives the type of the file name. -/
theorem mediaForPath_of_faithful {root : Root} {cache : MediaCache}
    (faithful : MediaCache.Faithful root cache) (path : FilePath) :
    (root.mediaForPath cache path).1 = root.mediaForName path.fileName := by
  unfold Root.mediaForPath
  split
  next media h => exact faithful path media h
  next => rfl

/-- What is put in front is found, or what was there before. -/
theorem MediaCache.get?_cons (path other : FilePath) (media : MediaType) (cache : MediaCache) :
    MediaCache.get? ((path, media) :: cache) other
      = if path = other then some media else cache.get? other := by
  rw [MediaCache.get?, List.find?_cons]
  by_cases same : path = other
  · rw [if_pos same, show (path == other) = true from beq_iff_eq.2 same]
    rfl
  · rw [if_neg same, show (path == other) = false from beq_eq_false_iff_ne.2 same]
    rfl

/-- Asking for a path keeps a cache faithful. -/
theorem faithful_mediaForPath {root : Root} {cache : MediaCache}
    (faithful : MediaCache.Faithful root cache) (path : FilePath) :
    MediaCache.Faithful root (root.mediaForPath cache path).2 := by
  unfold Root.mediaForPath
  split
  next => exact faithful
  next =>
    intro other media h
    dsimp only at h
    rw [MediaCache.get?_cons] at h
    split at h
    next same =>
      cases h
      rw [same]
    next => exact faithful other media h

variable {F : Type}

/-- Serving a path asks the cache of its root for one path at most. -/
theorem cache_of_servePath (fs : FileSystem F) (root : Root) (cache : MediaCache)
    (segments : List String) (request : Http.Request) (boundary : String) :
    let left := (servePath fs root cache segments request boundary).value.2
    left = cache ∨ ∃ path, left = (root.mediaForPath cache path).2 := by
  dsimp only
  rw [servePath, Logged.value_bind]
  cases (traverse fs root segments).value with
  | node n => exact .inr ⟨n.path, rfl⟩
  | listing n => exact .inl rfl
  | processed processor n =>
    cases processor with
    | stored => exact .inl rfl
    | source => exact .inr ⟨n.path, rfl⟩
  | notFound => exact .inl rfl
  | insecure => exact .inl rfl

theorem cache_of_respondBelow (fs : FileSystem F) (mount : Mount) (cache : MediaCache)
    (segments : List String) (request : Http.Request) (boundary : String) :
    (respondBelow fs mount cache segments request boundary).value.2
      = (servePath fs mount.root cache segments request boundary).value.2 := by
  dsimp only [respondBelow]
  rw [Logged.value_bind]
  split
  next => rfl
  next => rfl
  next => rfl

/-! ## §2 The caches of a site -/

/-- The cache of every mount is faithful to its root. -/
def Memory.Faithful (site : Site) (memory : Memory) : Prop :=
  ∀ (place : Nat) (mount : Mount), site.mounts[place]? = some mount →
    MediaCache.Faithful mount.root (memory[place]?.getD [])

theorem faithful_freshMemory (site : Site) : Memory.Faithful site (freshMemory site) := by
  intro place mount hmount
  rw [freshMemory, List.getElem?_map, hmount]
  exact faithful_nil mount.root

/-- A cache that is set in place of a faithful one. -/
theorem faithful_set {site : Site} {memory : Memory} (faithful : Memory.Faithful site memory)
    {place : Nat} {mount : Mount} (hmount : site.mounts[place]? = some mount) {cache : MediaCache}
    (hcache : MediaCache.Faithful mount.root cache) :
    Memory.Faithful site (memory.set place cache) := by
  intro place' mount' hmount'
  rw [List.getElem?_set]
  split
  next same =>
    subst same
    rw [hmount] at hmount'
    cases hmount'
    split
    next => exact hcache
    next => exact faithful_nil mount.root
  next => exact faithful place' mount' hmount'

theorem set_cache_self (memory : Memory) (place : Nat) :
    memory.set place (memory[place]?.getD []) = memory := by
  by_cases inside : place < memory.length
  · rw [List.getElem?_eq_getElem inside, Option.getD_some, List.set_getElem_self]
  · exact List.set_eq_of_length_le (Nat.not_lt.1 inside)

/-- A request leaves the memory as it was, or with the cache of one mount asked for one path. -/
theorem memory_of_respond (site : Site) (memory : Memory) (fs : FileSystem F)
    (request : Http.Request) (boundary : String) :
    let left := (respond site memory fs request boundary).value.2
    left = memory ∨ ∃ (place : Nat) (mount : Mount) (path : FilePath),
      site.mounts[place]? = some mount ∧
      left = memory.set place (mount.root.mediaForPath (memory[place]?.getD []) path).2 := by
  dsimp only
  unfold respond
  split
  next => exact .inl rfl
  next =>
    split
    next => exact .inl rfl
    next =>
      split
      next => exact .inl rfl
      next place mount below hfound =>
        split
        next => exact .inl rfl
        next segments _ =>
          have served := cache_of_respondBelow fs mount (memory[place]?.getD []) segments request boundary
          rcases cache_of_servePath fs mount.root (memory[place]?.getD []) segments request boundary
            with untouched | ⟨path, asked⟩
          · have same := congrArg (memory.set place) (served.trans untouched)
            exact .inl (same.trans (set_cache_self memory place))
          · have set := congrArg (memory.set place) (served.trans asked)
            exact .inr ⟨place, mount, path, (spec_of_findMount hfound).1, set⟩

/-- A request keeps all caches faithful. -/
theorem faithful_respond {site : Site} {memory : Memory} (faithful : Memory.Faithful site memory)
    (fs : FileSystem F) (request : Http.Request) (boundary : String) :
    Memory.Faithful site (respond site memory fs request boundary).value.2 := by
  rcases memory_of_respond site memory fs request boundary with same | ⟨place, mount, path, hmount, asked⟩
  · rw [same]
    exact faithful
  · rw [asked]
    exact faithful_set faithful hmount (faithful_mediaForPath (faithful place mount hmount) path)

/-- What a site may remember: that of a fresh site, and of a site after one more request, the files
    being then as they may. -/
inductive Reached (F : Type) (site : Site) : Memory → Prop
  | fresh : Reached F site (freshMemory site)
  | after {memory : Memory} (reached : Reached F site memory) (fs : FileSystem F)
      (request : Http.Request) (boundary : String) :
      Reached F site (respond site memory fs request boundary).value.2

/-- Whatever a site was asked before, its caches are faithful. -/
theorem faithful_of_reached {site : Site} {memory : Memory} (h : Reached F site memory) :
    Memory.Faithful site memory := by
  induction h with
  | fresh => exact faithful_freshMemory site
  | after _ fs request boundary ih => exact faithful_respond ih fs request boundary

end StaticSite.Site
