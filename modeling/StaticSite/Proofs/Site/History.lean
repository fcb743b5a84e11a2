/-
  HISTORIES: what a site was asked before does not show in its answers.

  The only thing that a request leaves behind is a media type in a cache, and what it finds there is
  what it would work out itself (`Memory.Faithful`).  So the answer to a request, and the notes made
  on the way, are those of a site that was never asked for anything (`reply_of_faithful`).

  Requests may overlap.  One that finds nothing in the cache works the type out and puts it there
  later; in between others may find nothing either, work out the same and put it there as well.  A
  HISTORY is a list of turns in which requests are answered and findings are kept in any order, the
  files being at every request as they may.  Caches stay faithful over each turn (`sound_after`), and
  so over a history, which gives the law for all its answers (`replies_of_history`).

  Numbered structure:
    §1  answers from faithful caches
    §2  what a request finds out
    §3  histories
-/
import StaticSite.Proofs.Site.Confinement
import StaticSite.Proofs.Site.Memory

namespace StaticSite.Site

open Http (Request Response)

variable {F : Type}

/-! ## §1 Answers from faithful caches -/

/-- The answer of a site to a request, if there is one, and the notes on it. -/
def reply (site : Site) (memory : Memory) (fs : FileSystem F) (request : Request)
    (boundary : String) : Logged (Except Overflow (Response F)) :=
  Prod.fst <$> respond site memory fs request boundary

/-- Two computations that go on alike from answers that are alike. -/
theorem map_fst_bind {α β γ δ : Type} {x y : Logged (α × β)} (same : Prod.fst <$> x = Prod.fst <$> y)
    {f g : α × β → Logged (γ × δ)}
    (alike : ∀ a b b', Prod.fst <$> f (a, b) = Prod.fst <$> g (a, b')) :
    Prod.fst <$> (x >>= f) = Prod.fst <$> (y >>= g) := by
  obtain ⟨⟨a, b⟩, notes⟩ := x
  obtain ⟨⟨a', b'⟩, notes'⟩ := y
  have value : a = a' := congrArg Logged.value same
  have made : notes = notes' := by
    have := congrArg Logged.notes same
    rwa [Logged.notes_map, Logged.notes_map] at this
  subst value made
  have onwards := alike a b b'
  apply Logged.eq_of_parts
  · have answers : (f (a, b)).value.1 = (g (a, b')).value.1 := congrArg Logged.value onwards
    exact answers
  · have more := congrArg Logged.notes onwards
    rw [Logged.notes_map, Logged.notes_map] at more
    rw [Logged.notes_map, Logged.notes_map, Logged.notes_bind, Logged.notes_bind]
    exact congrArg (notes ++ ·) more

/-- Whatever two faithful caches hold, a path is served from both alike. -/
theorem servePath_of_faithful {root : Root} {cache other : MediaCache}
    (faithful : MediaCache.Faithful root cache) (faithful' : MediaCache.Faithful root other)
    (fs : FileSystem F) (segments : List String) (request : Request) (boundary : String) :
    Prod.fst <$> servePath fs root cache segments request boundary
      = Prod.fst <$> servePath fs root other segments request boundary := by
  have media (path : FilePath) :
      (root.mediaForPath cache path).1 = (root.mediaForPath other path).1 := by
    rw [mediaForPath_of_faithful faithful, mediaForPath_of_faithful faithful']
  unfold servePath
  rw [map_bind, map_bind]
  refine bind_congr fun outcome => ?_
  cases outcome with
  | node n =>
    simp only [map_bind, map_pure]
    rw [media]
  | listing n => simp only [map_bind, map_pure]
  | processed processor n =>
    cases processor with
    | stored => simp only [map_bind, map_pure]
    | source =>
      simp only [map_bind, map_pure]
      rw [media]
  | notFound => simp only [map_bind, map_pure]
  | insecure => simp only [map_bind, map_pure]

theorem respondBelow_of_faithful {mount : Mount} {cache other : MediaCache}
    (faithful : MediaCache.Faithful mount.root cache)
    (faithful' : MediaCache.Faithful mount.root other) (fs : FileSystem F) (segments : List String)
    (request : Request) (boundary : String) :
    Prod.fst <$> respondBelow fs mount cache segments request boundary
      = Prod.fst <$> respondBelow fs mount other segments request boundary := by
  apply map_fst_bind (servePath_of_faithful faithful faithful' fs segments request boundary)
  intro answer cache cache'
  cases answer with
  | ok response => rfl
  | error failure =>
    cases failure with
    | reported e => rfl
    | overflow => rfl

/-- Whatever two faithful memories hold, a request is answered from both alike. -/
theorem reply_of_faithful {site : Site} {memory other : Memory}
    (faithful : Memory.Faithful site memory) (faithful' : Memory.Faithful site other)
    (fs : FileSystem F) (request : Request) (boundary : String) :
    reply site memory fs request boundary = reply site other fs request boundary := by
  unfold reply respond
  split
  next => rfl
  next =>
    split
    next => rfl
    next =>
      split
      next => rfl
      next place mount below hfound =>
        split
        next => rfl
        next segments _ =>
          have hmount := (spec_of_findMount hfound).1
          apply map_fst_bind (respondBelow_of_faithful (faithful place mount hmount)
            (faithful' place mount hmount) fs segments request boundary)
          intro response cache cache'
          rfl

/-! ## §2 What a request finds out -/

/-- The type of a path, worked out for the mount in some place. -/
structure Finding where
  place : Nat
  path : FilePath
  media : MediaType

/-- What a site remembers once it has kept a finding. -/
def Memory.keep (memory : Memory) (finding : Finding) : Memory :=
  memory.set finding.place
    ((finding.path, finding.media) :: memory[finding.place]?.getD [])

/-- The finding in front of a cache, if the cache has one more than before. -/
def findingAt? (before after : Memory) (place : Nat) : Option Finding :=
  match after[place]?.getD [] with
  | [] => none
  | (path, media) :: rest =>
    if rest.length = (before[place]?.getD []).length then some ⟨place, path, media⟩ else none

/-- The finding that a memory has kept since it was as before. -/
def finding? (before after : Memory) : Option Finding :=
  (List.range after.length).findSome? (findingAt? before after)

/-- A finding is the type of the file name, by the rules of its mount. -/
def Finding.Correct (site : Site) (finding : Finding) : Prop :=
  ∀ mount, site.mounts[finding.place]? = some mount →
    finding.media = mount.root.mediaForName finding.path.fileName

theorem findingAt?_self (memory : Memory) (place : Nat) : findingAt? memory memory place = none := by
  unfold findingAt?
  cases memory[place]?.getD [] with
  | nil => rfl
  | cons entry rest => exact if_neg (by rw [List.length_cons]; omega)

/-- Nothing was found where the memory is as before. -/
theorem finding?_self (memory : Memory) : finding? memory memory = none := by
  rw [finding?, List.findSome?_eq_none_iff]
  exact fun place _ => findingAt?_self memory place

theorem findingAt?_keep {memory : Memory} {finding : Finding} (inside : finding.place < memory.length)
    (place : Nat) : findingAt? memory (memory.keep finding) place
      = if place = finding.place then some finding else none := by
  by_cases here : place = finding.place
  · rw [if_pos here, here, findingAt?, Memory.keep, List.getElem?_set_self inside]
    exact if_pos rfl
  · have same : (memory.keep finding)[place]? = memory[place]? :=
      List.getElem?_set_ne (Ne.symm here)
    rw [if_neg here, ← findingAt?_self memory place, findingAt?, same, findingAt?]

/-- What was kept is what was found. -/
theorem finding?_keep {memory : Memory} {finding : Finding} (inside : finding.place < memory.length) :
    finding? memory (memory.keep finding) = some finding := by
  have length : (memory.keep finding).length = memory.length := List.length_set
  have mem : finding.place ∈ List.range memory.length := List.mem_range.2 inside
  rw [finding?, length, funext (findingAt?_keep inside)]
  cases h : (List.range memory.length).findSome? fun place =>
      if place = finding.place then some finding else none with
  | none =>
    rw [List.findSome?_eq_none_iff] at h
    exact absurd (h finding.place mem) (by rw [if_pos rfl]; exact nofun)
  | some other =>
    obtain ⟨place, -, hplace⟩ := List.exists_of_findSome?_eq_some h
    split at hplace
    next => exact hplace.symm
    next => cases hplace

/-- A request leaves the memory as it was, or with one finding kept, which is correct. -/
theorem finding_of_respond (site : Site) (memory : Memory) (fs : FileSystem F) (request : Request)
    (boundary : String) :
    let left := (respond site memory fs request boundary).value.2
    left = (finding? memory left).elim memory memory.keep ∧
    ∀ finding ∈ finding? memory left, finding.Correct site := by
  -- where nothing is kept, nothing was found
  have untouched {left : Memory} (same : left = memory) :
      left = (finding? memory left).elim memory memory.keep ∧
      ∀ finding ∈ finding? memory left, finding.Correct site := by
    rw [same, finding?_self]
    exact ⟨rfl, nofun⟩
  rcases memory_of_respond site memory fs request boundary with same | ⟨place, mount, path, hmount, asked⟩
  · exact untouched same
  · cases known : (memory[place]?.getD []).get? path with
    | some media =>
      have asking : (mount.root.mediaForPath (memory[place]?.getD []) path).2
          = memory[place]?.getD [] := by
        rw [Root.mediaForPath, known]
      rw [asking, set_cache_self] at asked
      exact untouched asked
    | none =>
      let finding : Finding := ⟨place, path, mount.root.mediaForName path.fileName⟩
      have kept : (respond site memory fs request boundary).value.2 = memory.keep finding := by
        rw [asked, Root.mediaForPath, known]
        rfl
      by_cases inside : place < memory.length
      · have correct : finding.Correct site := by
          intro other hother
          rw [hmount] at hother
          cases hother
          rfl
        dsimp only
        rw [kept, finding?_keep inside]
        exact ⟨rfl, fun other hother => Option.some.inj hother ▸ correct⟩
      · exact untouched (kept.trans (List.set_eq_of_length_le (Nat.not_lt.1 inside)))

/-! ## §3 Histories -/

/-- What happens next at a site. -/
inductive Turn (F : Type)
  /-- A request is answered, and its finding is kept at once. -/
  | serve (fs : FileSystem F) (request : Request) (boundary : String)
  /-- A request is answered, and its finding is still to be kept. -/
  | answer (fs : FileSystem F) (request : Request) (boundary : String)
  /-- One of the findings that are still to be kept is kept. -/
  | keep (which : Nat)

/-- What a site remembers, and the findings that are still to be kept. -/
structure Situation where
  memory : Memory
  pending : List Finding

/-- A site that was never asked for anything. -/
def Situation.first (site : Site) : Situation := ⟨freshMemory site, []⟩

/-- The situation after a turn. -/
def Turn.next (site : Site) (now : Situation) : Turn F → Situation
  | .serve fs request boundary =>
    { now with memory := (respond site now.memory fs request boundary).value.2 }
  | .answer fs request boundary =>
    let left := (respond site now.memory fs request boundary).value.2
    { now with pending := now.pending ++ (finding? now.memory left).toList }
  | .keep which =>
    match now.pending[which]? with
    | some finding => ⟨now.memory.keep finding, now.pending.eraseIdx which⟩
    | none => now

/-- The reply that a turn gives, if it gives one. -/
def Turn.reply? (site : Site) (now : Situation) : Turn F → Option (Logged (Except Overflow (Response F)))
  | .serve fs request boundary => some (reply site now.memory fs request boundary)
  | .answer fs request boundary => some (reply site now.memory fs request boundary)
  | .keep _ => none

/-- The situation after some turns. -/
def Situation.after (site : Site) (now : Situation) (turns : List (Turn F)) : Situation :=
  turns.foldl (Turn.next site) now

/-- The replies that some turns give, one after the other. -/
def replies (site : Site) (now : Situation) : List (Turn F) → List (Logged (Except Overflow (Response F)))
  | [] => []
  | turn :: rest => (turn.reply? site now).toList ++ replies site (turn.next site now) rest

/-- Whatever is remembered, or is still to be kept, is what would be worked out again. -/
structure Situation.Sound (site : Site) (now : Situation) : Prop where
  faithful : Memory.Faithful site now.memory
  correct : ∀ finding ∈ now.pending, finding.Correct site

theorem sound_first (site : Site) : (Situation.first site).Sound site :=
  ⟨faithful_freshMemory site, nofun⟩

/-- Keeping a correct finding, at whatever moment, keeps all caches faithful. -/
theorem faithful_keep {site : Site} {memory : Memory} (faithful : Memory.Faithful site memory)
    {finding : Finding} (correct : finding.Correct site) :
    Memory.Faithful site (memory.keep finding) := by
  cases hmount : site.mounts[finding.place]? with
  | some mount =>
    refine faithful_set faithful hmount ?_
    intro path media h
    rw [MediaCache.get?_cons] at h
    split at h
    next same =>
      cases h
      rw [← same]
      exact correct mount hmount
    next => exact faithful finding.place mount hmount path media h
  | none =>
    intro place mount hplace
    have elsewhere : finding.place ≠ place := by
      rintro rfl
      rw [hmount] at hplace
      cases hplace
    rw [Memory.keep, List.getElem?_set_ne elsewhere]
    exact faithful place mount hplace

/-- A turn leaves a site sound. -/
theorem sound_next {site : Site} {now : Situation} (sound : now.Sound site) (turn : Turn F) :
    (turn.next site now).Sound site := by
  cases turn with
  | serve fs request boundary =>
    exact ⟨faithful_respond sound.faithful fs request boundary, sound.correct⟩
  | answer fs request boundary =>
    obtain ⟨-, correct⟩ := finding_of_respond site now.memory fs request boundary
    refine ⟨sound.faithful, fun finding mem => ?_⟩
    rcases List.mem_append.1 mem with before | found
    · exact sound.correct finding before
    · exact correct finding (Option.mem_toList.1 found)
  | keep which =>
    dsimp only [Turn.next]
    split
    next finding chosen =>
      have pending : finding ∈ now.pending := List.mem_of_getElem? chosen
      refine ⟨faithful_keep sound.faithful (sound.correct finding pending), fun other mem => ?_⟩
      exact sound.correct other (List.mem_of_mem_eraseIdx mem)
    next => exact sound

/-- A reply from a sound site is that of one that was never asked for anything. -/
theorem reply?_of_sound {site : Site} {now : Situation} (sound : now.Sound site) (turn : Turn F) :
    turn.reply? site now = turn.reply? site (Situation.first site) := by
  have fresh := faithful_freshMemory site
  cases turn with
  | serve fs request boundary =>
    exact congrArg some (reply_of_faithful sound.faithful fresh fs request boundary)
  | answer fs request boundary =>
    exact congrArg some (reply_of_faithful sound.faithful fresh fs request boundary)
  | keep which => rfl

theorem sound_after {site : Site} {now : Situation} (sound : now.Sound site) (turns : List (Turn F)) :
    (now.after site turns).Sound site := by
  induction turns generalizing now with
  | nil => exact sound
  | cons turn rest ih => exact ih (sound_next sound turn)

theorem replies_of_sound {site : Site} {now : Situation} (sound : now.Sound site)
    (turns : List (Turn F)) :
    replies site now turns = turns.filterMap (Turn.reply? site (Situation.first site)) := by
  induction turns generalizing now with
  | nil => rfl
  | cons turn rest ih =>
    rw [replies, reply?_of_sound sound, ih (sound_next sound turn), List.filterMap_cons]
    cases turn.reply? site (Situation.first site) with
    | none => rfl
    | some reply => rfl

/-- Whatever a site was asked before, and however requests overlapped, each request is answered, and
    noted, as by a site of the same configuration that was never asked for anything, with the files
    as they are at that request.  And whatever path a mount is asked for, the type it has for it is
    that of the file name. -/
theorem replies_of_history (config : Config) (turns : List (Turn F)) :
    let site := ofConfig config
    let first := Situation.first site
    replies site first turns = turns.filterMap (Turn.reply? site first) ∧
    ∀ (place : Fin site.mounts.length) (path : FilePath),
      let root := site.mounts[place].root
      let cache := (first.after site turns).memory[place.val]?.getD []
      (root.mediaForPath cache path).1 = root.mediaForName path.fileName := by
  intro site first
  have start : first.Sound site := sound_first site
  refine ⟨replies_of_sound start turns, fun place path => ?_⟩
  have here : site.mounts[place.val]? = some site.mounts[place] := List.getElem?_eq_getElem place.isLt
  exact mediaForPath_of_faithful ((sound_after start turns).faithful place.val _ here) path

/-- A request for the page in a directory. -/
def pageRequest : Request := ⟨"GET", ⟨"/a.txt", none⟩, []⟩

/-- Two requests for one path overlap: both work its type out, and both keep it. -/
example : ((Situation.first onePageSite).after onePageSite
      [.answer onePage pageRequest "b", .answer onePage pageRequest "b",
        .keep (0 : Nat), .keep 0]).memory
    = [[("/srv/a.txt", ⟨"text/plain", none⟩), ("/srv/a.txt", ⟨"text/plain", none⟩)]] := by
  decide +kernel

end StaticSite.Site
