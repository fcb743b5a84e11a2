/-
  THE NEAREST MOUNT: of the mounts that cover a request path, the longest is found.

  Mounts that cover one path are all beginnings of it, so two of them that are equally long are at the
  same path (`eq_of_covers`).  A site tries its mounts in the order of their length, the longest first
  (`pairwise_orderMounts`), and those at one path as they were configured (`filter_orderMounts`): so the
  first that covers a path is the longest that does, and the first configured at its path (`IsNearest`).

  There is one such mount at most (`IsNearest.unique`), and which it is can be told from the mounts at
  each path alone.  So the order of the configuration counts only among mounts at the same path
  (`findMount_is_nearest`).

  Numbered structure:
    §1  covering, and the paths of mounts
    §2  the order in which mounts are tried
    §3  the first mount that covers a path
    §4  the mount of a request path
-/
import Mathlib.Data.List.Infix
import StaticSite.Proofs.Site.Mounts

namespace StaticSite.Site

/-! ## §1 Covering -/

/-- What a mount covers: its own path, and whatever goes on from there with a slash. -/
def Covers (at_ path : String) : Prop := path = at_ ∨ (at_ ++ "/").toList <+: path.toList

theorem covers_iff {at_ path : String} : Covers at_ path ↔ ∃ below, at_ ++ below = path ∧ IsBelow below := by
  have slash : "/".toList = ['/'] := rfl
  constructor
  · rintro (rfl | ⟨rest, hrest⟩)
    · exact ⟨"", String.append_empty, .inl rfl⟩
    · refine ⟨String.ofList ('/' :: rest), ?_, .inr ⟨rest, String.toList_ofList⟩⟩
      apply String.toList_inj.1
      rw [String.toList_append, String.toList_ofList, ← hrest, String.toList_append, slash,
        List.append_assoc, List.singleton_append]
  · rintro ⟨below, rfl, rfl | ⟨rest, hrest⟩⟩
    · exact .inl String.append_empty
    · refine .inr ⟨rest, ?_⟩
      rw [String.toList_append, String.toList_append, hrest, slash, List.append_assoc,
        List.singleton_append]

theorem covers_iff_strip? {m : Mount} {path : String} :
    Covers m.at_ path ↔ ∃ below, m.strip? path = some below := by
  rw [covers_iff]
  constructor
  · rintro ⟨below, whole, start⟩
    exact ⟨below, strip?_eq_some_iff.2 ⟨whole.symm, start⟩⟩
  · rintro ⟨below, h⟩
    obtain ⟨whole, start⟩ := strip?_eq_some_iff.1 h
    exact ⟨below, whole.symm, start⟩

theorem not_covers_iff_strip? {m : Mount} {path : String} :
    ¬Covers m.at_ path ↔ m.strip? path = none := by
  rw [covers_iff_strip?, not_exists, Option.eq_none_iff_forall_ne_some]

/-- Of two beginnings of a text the shorter is a beginning of the longer, so they differ in length or
    not at all. -/
theorem eq_of_append_eq {s t a b : String} (h : s ++ a = t ++ b)
    (size : s.utf8ByteSize = t.utf8ByteSize) : s = t := by
  have longer {s t a b : String} (h : s.toList ++ a.toList = t.toList ++ b.toList)
      (size : s.utf8ByteSize = t.utf8ByteSize) (more : List Char) (ht : t.toList = s.toList ++ more) :
      s = t := by
    have whole : t = s ++ String.ofList more := by
      apply String.toList_inj.1
      rw [String.toList_append, String.toList_ofList, ht]
    have nothing : (String.ofList more).utf8ByteSize = 0 := by
      have := congrArg String.utf8ByteSize whole
      rw [String.utf8ByteSize_append] at this
      omega
    rw [String.utf8ByteSize_eq_zero_iff.1 nothing, String.append_empty] at whole
    exact whole.symm
  have chars : s.toList ++ a.toList = t.toList ++ b.toList := by
    rw [← String.toList_append, h, String.toList_append]
  rcases List.append_eq_append_iff.1 chars with ⟨more, ht, -⟩ | ⟨more, hs, -⟩
  · exact longer chars size more ht
  · exact (longer chars.symm size.symm more hs).symm

theorem eq_of_covers {s t path : String} (hs : Covers s path) (ht : Covers t path)
    (size : s.utf8ByteSize = t.utf8ByteSize) : s = t := by
  obtain ⟨a, ha, -⟩ := covers_iff.1 hs
  obtain ⟨b, hb, -⟩ := covers_iff.1 ht
  exact eq_of_append_eq (ha.trans hb.symm) size

/-- The path of a mount, made from one with any number of slashes around it: what is left between them
    behind one slash, or nothing. -/
def IsNormal (given normal : String) : Prop :=
  ∃ front core back, given.toList = front ++ (core ++ back) ∧ (∀ c ∈ front ++ back, c = '/') ∧
    core.head? ≠ some '/' ∧ core.getLast? ≠ some '/' ∧
    normal.toList = if core = [] then [] else '/' :: core

/-- A mount is spelled with one slash in front, if there is anything behind it. -/
theorem toList_normalizeMount {given : String} {core : List Char}
    (h : ((given.toList.dropWhile (· == '/')).reverse.dropWhile (· == '/')).reverse = core) :
    (normalizeMount given).toList = if core = [] then [] else '/' :: core := by
  unfold normalizeMount
  dsimp only
  rw [h]
  cases core with
  | nil => rfl
  | cons c rest => exact String.toList_ofList

theorem isNormal_normalizeMount (given : String) : IsNormal given (normalizeMount given) := by
  let isSlash (c : Char) : Bool := c == '/'
  let behind := given.toList.dropWhile isSlash
  let core := (behind.reverse.dropWhile isSlash).reverse
  have dropped (l : List Char) : ∀ c ∈ l.takeWhile isSlash, c = '/' := by
    intro c hc
    exact eq_of_beq (List.all_eq_true.1 List.all_takeWhile c hc)
  have front : given.toList = given.toList.takeWhile isSlash ++ behind :=
    List.takeWhile_append_dropWhile.symm
  have back : behind = core ++ (behind.reverse.takeWhile isSlash).reverse := by
    rw [← List.reverse_append, List.takeWhile_append_dropWhile, List.reverse_reverse]
  have solid {c : Char} {rest : List Char} (h : core = c :: rest) :
      c ≠ '/' ∧ core.getLast? ≠ some '/' := by
    obtain ⟨first, last⟩ := eq_false_of_trim h
    refine ⟨beq_eq_false_iff_ne.1 first, fun slash => ?_⟩
    exact beq_eq_false_iff_ne.1 (last '/' (h ▸ slash)) rfl
  refine ⟨_, core, _, front.trans (congrArg _ back), ?_, ?_, ?_, ?_⟩
  · rw [List.forall_mem_append]
    exact ⟨dropped _, fun c hc => dropped _ c (List.mem_reverse.1 hc)⟩
  · intro first
    obtain ⟨rest, hcore⟩ := List.head?_eq_some_iff.1 first
    exact (solid hcore).1 rfl
  · intro last
    cases hcore : core with
    | nil =>
      rw [hcore] at last
      cases last
    | cons c rest => exact (solid hcore).2 last
  · exact toList_normalizeMount rfl

/-! ## §2 The order in which mounts are tried -/

/-- Longer mounts stand in front of shorter ones. -/
theorem pairwise_orderMounts (mounts : List Mount) :
    (orderMounts mounts).Pairwise fun a b => b.at_.utf8ByteSize ≤ a.at_.utf8ByteSize := by
  have sorted := @List.pairwise_mergeSort Mount (fun a b =>
    decide (b.at_.utf8ByteSize ≤ a.at_.utf8ByteSize)) (by simp; omega) (by simp; omega) mounts
  exact sorted.imp fun h => of_decide_eq_true h

/-- Mounts at the same path stay in their order. -/
theorem filter_orderMounts (mounts : List Mount) (at_ : String) :
    (orderMounts mounts).filter (·.at_ = at_) = mounts.filter (·.at_ = at_) := by
  have same : (mounts.filter (·.at_ = at_)).Pairwise fun a b =>
      decide (b.at_.utf8ByteSize ≤ a.at_.utf8ByteSize) = true := by
    apply List.pairwise_of_forall_mem_list
    intro a ha b hb
    rw [of_decide_eq_true (List.mem_filter.1 ha).2, of_decide_eq_true (List.mem_filter.1 hb).2]
    exact decide_eq_true (Nat.le_refl _)
  have kept : (mounts.filter (·.at_ = at_)).Sublist (orderMounts mounts) :=
    List.sublist_mergeSort (by simp; omega) (by simp; omega) same List.filter_sublist
  have again := kept.filter (·.at_ = at_)
  rw [List.filter_filter] at again
  simp only [Bool.and_self] at again
  exact (again.eq_of_length (((List.mergeSort_perm _ _).filter _).length_eq.symm)).symm

/-! ## §3 The first mount that covers a path -/

/-- What is said of the mount that belongs to a path, and of the path below it: together they are the
    path; no longer mount covers it; and none at the same path was configured earlier. -/
structure IsNearest (mounts : List Mount) (path : String) (mount : Mount) (below : String) : Prop where
  whole : mount.at_ ++ below = path
  start : IsBelow below
  longest : ∀ m ∈ mounts, Covers m.at_ path → m.at_.utf8ByteSize ≤ mount.at_.utf8ByteSize
  first : ∃ before after, mounts = before ++ mount :: after ∧ ∀ m ∈ before, m.at_ ≠ mount.at_

variable {mounts : List Mount} {path below : String} {mount : Mount}

theorem IsNearest.mem (h : IsNearest mounts path mount below) : mount ∈ mounts := by
  obtain ⟨before, after, rfl, -⟩ := h.first
  exact List.mem_append_right _ List.mem_cons_self

theorem IsNearest.covers (h : IsNearest mounts path mount below) : Covers mount.at_ path :=
  covers_iff.2 ⟨below, h.whole, h.start⟩

/-- The first of those at its path. -/
theorem first_iff_filter : (∃ before after, mounts = before ++ mount :: after ∧
      ∀ m ∈ before, m.at_ ≠ mount.at_) ↔
    ∃ others, mounts.filter (·.at_ = mount.at_) = mount :: others := by
  constructor
  · rintro ⟨before, after, rfl, differ⟩
    have none : before.filter (·.at_ = mount.at_) = [] :=
      List.filter_eq_nil_iff.2 fun m hm => by simpa using differ m hm
    have here : (mount :: after).filter (·.at_ = mount.at_) = mount :: after.filter (·.at_ = mount.at_) :=
      List.filter_cons_of_pos (decide_eq_true rfl)
    exact ⟨after.filter (·.at_ = mount.at_), by rw [List.filter_append, none, here, List.nil_append]⟩
  · rintro ⟨others, h⟩
    obtain ⟨before, after, whole, differ, -⟩ := List.filter_eq_cons_iff.1 h
    exact ⟨before, after, whole, fun m hm => by simpa using differ m hm⟩

/-- A path belongs to one mount at most. -/
theorem IsNearest.unique {mount' : Mount} {below' : String} (h : IsNearest mounts path mount below)
    (h' : IsNearest mounts path mount' below') : (mount, below) = (mount', below') := by
  have size : mount.at_.utf8ByteSize = mount'.at_.utf8ByteSize :=
    Nat.le_antisymm (h'.longest mount h.mem h.covers) (h.longest mount' h'.mem h'.covers)
  have same : mount.at_ = mount'.at_ := eq_of_covers h.covers h'.covers size
  obtain ⟨others, hfilter⟩ := first_iff_filter.1 h.first
  obtain ⟨others', hfilter'⟩ := first_iff_filter.1 h'.first
  rw [same, hfilter'] at hfilter
  have whole := h.whole.trans h'.whole.symm
  rw [same] at whole
  rw [(List.cons.inj hfilter).1, (String.append_right_inj _).1 whole]

/-- Where a mount was found is left out: the first that covers the path, and the path below it. -/
theorem snd_findMountFrom (place : Nat) :
    (findMountFrom place path mounts).map Prod.snd
      = mounts.findSome? fun m => (m.strip? path).map fun below => (m, below) := by
  induction mounts generalizing place with
  | nil => rfl
  | cons m rest ih =>
    rw [findMountFrom, List.findSome?_cons]
    cases m.strip? path with
    | none => exact ih (place + 1)
    | some below => rfl

/-- The first mount that is tried and covers the path is the nearest. -/
theorem isNearest_of_found (h : (findMountFrom 0 path (orderMounts mounts)).map Prod.snd
    = some (mount, below)) : IsNearest mounts path mount below := by
  rw [snd_findMountFrom] at h
  obtain ⟨before, m, after, horder, hm, hbefore⟩ := List.findSome?_eq_some_iff.1 h
  obtain ⟨below', hstrip, heq⟩ := Option.map_eq_some_iff.1 hm
  cases heq
  obtain ⟨whole, start⟩ := strip?_eq_some_iff.1 hstrip
  have passed : ∀ m ∈ before, ¬Covers m.at_ path := fun m hm =>
    not_covers_iff_strip?.2 (Option.map_eq_none_iff.1 (hbefore m hm))
  have covered : Covers mount.at_ path := covers_iff_strip?.2 ⟨below, hstrip⟩
  refine ⟨whole.symm, start, ?_, ?_⟩
  · -- what covers the path was not passed, so it stands behind
    intro m hm hcovers
    have place : m ∈ before ++ mount :: after := horder ▸ List.mem_mergeSort.2 hm
    have sorted := pairwise_orderMounts mounts
    rw [horder, List.pairwise_append] at sorted
    rcases List.mem_append.1 place with earlier | here
    · exact absurd hcovers (passed m earlier)
    · rcases List.mem_cons.1 here with rfl | later
      · exact Nat.le_refl _
      · exact List.rel_of_pairwise_cons sorted.2.1 later
  · rw [first_iff_filter, ← filter_orderMounts, horder, ← first_iff_filter]
    exact ⟨before, after, rfl, fun m hm same => passed m hm (same ▸ covered)⟩

theorem found_eq_none_iff :
    findMountFrom 0 path (orderMounts mounts) = none ↔ ∀ m ∈ mounts, ¬Covers m.at_ path := by
  rw [← Option.map_eq_none_iff (f := Prod.snd), snd_findMountFrom, List.findSome?_eq_none_iff]
  constructor
  · intro h m hm
    exact not_covers_iff_strip?.2 (Option.map_eq_none_iff.1 (h m (List.mem_mergeSort.2 hm)))
  · intro h m hm
    exact Option.map_eq_none_iff.2 (not_covers_iff_strip?.1 (h m (List.mem_mergeSort.1 hm)))

/-- The nearest mount is found. -/
theorem found_eq_some_iff : (findMountFrom 0 path (orderMounts mounts)).map Prod.snd
    = some (mount, below) ↔ IsNearest mounts path mount below := by
  constructor
  · exact isNearest_of_found
  · intro h
    cases found : (findMountFrom 0 path (orderMounts mounts)).map Prod.snd with
    | none =>
      have uncovered := found_eq_none_iff.1 (Option.map_eq_none_iff.1 found)
      exact absurd h.covers (uncovered mount h.mem)
    | some other => exact congrArg some (h.unique (isNearest_of_found found)).symm

/-- The mounts at each path say which is the nearest. -/
theorem IsNearest.of_filters {others : List Mount} (h : IsNearest mounts path mount below)
    (same : ∀ at_, mounts.filter (·.at_ = at_) = others.filter (·.at_ = at_)) :
    IsNearest others path mount below := by
  refine ⟨h.whole, h.start, ?_, ?_⟩
  · intro m hm hcovers
    have here : m ∈ others.filter (·.at_ = m.at_) := List.mem_filter.2 ⟨hm, decide_eq_true rfl⟩
    rw [← same] at here
    exact h.longest m (List.mem_filter.1 here).1 hcovers
  · rw [first_iff_filter, ← same, ← first_iff_filter]
    exact h.first

/-! ## §4 The mount of a request path -/

/-- The same mounts in another order, but for those at the same path. -/
structure Reordered (mounts others : List Config.Mount) : Prop where
  perm : mounts.Perm others
  order : ∀ at_, mounts.filter (normalizeMount ·.at_ = at_) = others.filter (normalizeMount ·.at_ = at_)

theorem filter_map_ofConfig (mounts : List Config.Mount) (at_ : String) :
    (mounts.map Mount.ofConfig).filter (·.at_ = at_)
      = (mounts.filter (normalizeMount ·.at_ = at_)).map Mount.ofConfig := by
  rw [List.filter_map]
  rfl

/-- Slashes around the path of a mount do not count.  The mount that is found for a request path is
    the longest that covers it, of several at one path the first that was configured, and what is left
    is the path below it; none is found exactly if none covers the path.  The order of the mounts
    shows only among those at the same path. -/
theorem findMount_is_nearest (config : Config) (path : String) :
    (∀ m ∈ config.mounts, IsNormal m.at_ (Mount.ofConfig m).at_) ∧
    (∀ mount below, ((ofConfig config).findMount path).map Prod.snd = some (mount, below) ↔
      IsNearest (config.mounts.map Mount.ofConfig) path mount below) ∧
    ((ofConfig config).findMount path = none ↔
      ∀ m ∈ config.mounts, ¬Covers (Mount.ofConfig m).at_ path) ∧
    ∀ other : Config, Reordered config.mounts other.mounts →
      ((ofConfig other).findMount path).map Prod.snd
        = ((ofConfig config).findMount path).map Prod.snd := by
  have found (config : Config) (mount : Mount) (below : String) :
      ((ofConfig config).findMount path).map Prod.snd = some (mount, below) ↔
        IsNearest (config.mounts.map Mount.ofConfig) path mount below := found_eq_some_iff
  refine ⟨fun m _ => isNormal_normalizeMount m.at_, found config, ?_, ?_⟩
  · rw [findMount, ofConfig, found_eq_none_iff, List.forall_mem_map]
  · intro other reordered
    have same (at_ : String) : (config.mounts.map Mount.ofConfig).filter (·.at_ = at_)
        = (other.mounts.map Mount.ofConfig).filter (·.at_ = at_) := by
      rw [filter_map_ofConfig, filter_map_ofConfig, reordered.order]
    apply Option.ext
    rintro ⟨mount, below⟩
    rw [found, found]
    constructor
    · intro h
      exact h.of_filters fun at_ => (same at_).symm
    · intro h
      exact h.of_filters same

end StaticSite.Site
