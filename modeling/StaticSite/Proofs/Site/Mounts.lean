/-
  MOUNTS: which paths a mount covers.

  A mount covers its own path and what follows it after a slash (`strip?_eq_some_iff`).  The path of
  a mount is blank, or has one slash in front and none at its end, as `normalizeMount` leaves it; so
  a slash behind a request path is never the last of a mount, and the same mount covers the path
  with the slash and without (`findMount_append_slash`).

  Numbered structure:
    §1  the paths of mounts
    §2  what a mount covers
    §3  the mount of a request path
-/
import StaticSite.Site.Mount

namespace StaticSite.Site

/-! ## §1 The paths of mounts -/

/-- A path as mounts have it: blank, or with one slash in front and none behind. -/
def IsMountPath (path : String) : Prop :=
  path = "" ∨ ∃ c rest, path.toList = '/' :: c :: rest ∧ c ≠ '/' ∧ path.toList.getLast? ≠ some '/'

/-- What is left after dropping characters from the front does not begin with one of them. -/
theorem eq_false_of_dropWhile {p : Char → Bool} {l rest : List Char} {c : Char}
    (h : l.dropWhile p = c :: rest) : p c = false := by
  have head := List.head?_dropWhile_not p l
  rw [h] at head
  exact head

/-- What is left after dropping characters at both ends does not begin or end with one of them. -/
theorem eq_false_of_trim {p : Char → Bool} {l rest : List Char} {c : Char}
    (h : ((l.dropWhile p).reverse.dropWhile p).reverse = c :: rest) :
    p c = false ∧ ∀ d, (c :: rest).getLast? = some d → p d = false := by
  obtain ⟨dropped, hfront⟩ := List.dropWhile_suffix (l := (l.dropWhile p).reverse) p
  have front : l.dropWhile p = c :: (rest ++ dropped.reverse) := by
    rw [← List.reverse_reverse (l.dropWhile p), ← hfront, List.reverse_append, h, List.cons_append]
  refine ⟨eq_false_of_dropWhile front, fun d hd => ?_⟩
  rw [← h, List.getLast?_reverse] at hd
  obtain ⟨others, back⟩ := List.head?_eq_some_iff.1 hd
  exact eq_false_of_dropWhile back

/-- The path of every mount is one of these. -/
theorem isMountPath_normalizeMount (path : String) : IsMountPath (normalizeMount path) := by
  dsimp only [normalizeMount]
  split
  next => exact .inl rfl
  next some =>
    obtain ⟨c, rest, trimmed⟩ := List.exists_cons_of_ne_nil some
    obtain ⟨first, last⟩ := eq_false_of_trim trimmed
    rw [trimmed]
    refine .inr ⟨c, rest, String.toList_ofList, beq_eq_false_iff_ne.1 first, fun h => ?_⟩
    rw [String.toList_ofList, List.getLast?_cons_cons] at h
    exact beq_eq_false_iff_ne.1 (last '/' h) rfl

/-- The path of a mount does not end with a slash. -/
theorem IsMountPath.getLast? {path : String} (h : IsMountPath path) :
    path.toList.getLast? ≠ some '/' := by
  rcases h with rfl | ⟨c, rest, -, -, last⟩
  · decide
  · exact last

theorem isMountPath_of_mem {config : Config} {mount : Mount}
    (h : mount ∈ (ofConfig config).mounts) : IsMountPath mount.at_ := by
  obtain ⟨section_, -, rfl⟩ := List.mem_map.1 (List.mem_mergeSort.1 h)
  exact isMountPath_normalizeMount section_.at_

/-! ## §2 What a mount covers -/

/-- A path below a mount: that of the mount itself, or one that goes on with a slash. -/
def IsBelow (below : String) : Prop := below = "" ∨ ∃ rest, below.toList = '/' :: rest

/-- A mount covers its own path, and what follows it after a slash. -/
theorem strip?_eq_some_iff {m : Mount} {path below : String} :
    m.strip? path = some below ↔ path = m.at_ ++ below ∧ IsBelow below := by
  constructor
  · intro h
    refine ⟨(Mount.append_of_strip? h).symm, ?_⟩
    unfold Mount.strip? at h
    split at h
    next => exact .inl (Option.some.inj h).symm
    next rest _ =>
      cases h
      exact .inr ⟨rest, String.toList_ofList⟩
    next => cases h
  · rintro ⟨rfl, hbelow⟩
    have left : Text.dropStart? m.at_.toList (m.at_ ++ below).toList = some below.toList :=
      Text.dropStart?_eq_some_iff.2 String.toList_append
    unfold Mount.strip?
    rw [left]
    rcases hbelow with rfl | ⟨rest, hrest⟩
    · rfl
    · rw [hrest]
      exact congrArg some (String.toList_inj.1 (by rw [String.toList_ofList, hrest]))

theorem isBelow_append_slash {below : String} (h : IsBelow below) : IsBelow (below ++ "/") := by
  rcases h with rfl | ⟨rest, hrest⟩
  · exact .inr ⟨[], rfl⟩
  · exact .inr ⟨rest ++ ['/'], by rw [String.toList_append, hrest]; rfl⟩

/-- A slash at the end leaves a path below a mount, or is that of the mount alone. -/
theorem isBelow_dropLast {below : String} (h : IsBelow below) :
    IsBelow (String.ofList below.toList.dropLast) := by
  rcases h with rfl | ⟨rest, hrest⟩
  · exact .inl rfl
  · rw [hrest]
    cases rest with
    | nil => exact .inl rfl
    | cons c others => exact .inr ⟨(c :: others).dropLast, String.toList_ofList⟩

/-- A mount covers a path with a slash behind it exactly if it covers the path. -/
theorem strip?_append_slash {m : Mount} (plain : m.at_.toList.getLast? ≠ some '/') (path : String) :
    m.strip? (path ++ "/") = (m.strip? path).map (· ++ "/") := by
  cases h : m.strip? path with
  | some below =>
    obtain ⟨rfl, hbelow⟩ := strip?_eq_some_iff.1 h
    exact strip?_eq_some_iff.2 ⟨String.append_assoc, isBelow_append_slash hbelow⟩
  | none =>
    cases h' : m.strip? (path ++ "/") with
    | none => rfl
    | some below =>
      obtain ⟨heq, hbelow⟩ := strip?_eq_some_iff.1 h'
      have chars : path.toList ++ ['/'] = m.at_.toList ++ below.toList := by
        rw [← String.toList_append, ← heq, String.toList_append]
        rfl
      -- the slash is not that of the mount, so it is the last of what is below
      have some : below.toList ≠ [] := by
        intro none
        rw [none, List.append_nil] at chars
        exact plain (by rw [← chars, List.getLast?_concat])
      rw [← List.dropLast_concat_getLast some, ← List.append_assoc] at chars
      obtain ⟨front, -⟩ := List.append_inj' chars rfl
      have covered : m.strip? path = .some (String.ofList below.toList.dropLast) := by
        refine strip?_eq_some_iff.2 ⟨String.toList_inj.1 ?_, isBelow_dropLast hbelow⟩
        rw [String.toList_append, String.toList_ofList, front]
      rw [h] at covered
      cases covered

/-! ## §3 The mount of a request path -/

theorem findMountFrom_append_slash {mounts : List Mount}
    (plain : ∀ m ∈ mounts, m.at_.toList.getLast? ≠ some '/') (place : Nat) (path : String) :
    findMountFrom place (path ++ "/") mounts
      = (findMountFrom place path mounts).map fun found => (found.1, found.2.1, found.2.2 ++ "/") := by
  induction mounts generalizing place with
  | nil => rfl
  | cons m rest ih =>
    obtain ⟨hm, hrest⟩ := List.forall_mem_cons.1 plain
    unfold findMountFrom
    rw [strip?_append_slash hm, ih hrest]
    cases m.strip? path with
    | none => rfl
    | some below => rfl

/-- The mount that covers a path covers it with a slash behind, too. -/
theorem findMount_append_slash (config : Config) (path : String) :
    (ofConfig config).findMount (path ++ "/")
      = ((ofConfig config).findMount path).map fun found => (found.1, found.2.1, found.2.2 ++ "/") :=
  findMountFrom_append_slash (fun _ h => (isMountPath_of_mem h).getLast?) 0 path

/-- The mount that is found stands at its place, and covers the path. -/
theorem spec_of_findMountFrom {place place' : Nat} {path below : String} {mounts : List Mount}
    {mount : Mount} (h : findMountFrom place path mounts = some (place', mount, below)) :
    ∃ i, place' = place + i ∧ mounts[i]? = some mount ∧ mount.strip? path = some below := by
  induction mounts generalizing place with
  | nil => cases h
  | cons first rest ih =>
    unfold findMountFrom at h
    split at h
    next below' hstrip =>
      cases h
      exact ⟨0, rfl, rfl, hstrip⟩
    next =>
      obtain ⟨i, hplace, hmount, hstrip⟩ := ih h
      exact ⟨i + 1, by omega, hmount, hstrip⟩

theorem spec_of_findMount {site : Site} {path below : String} {place : Nat} {mount : Mount}
    (h : site.findMount path = some (place, mount, below)) :
    site.mounts[place]? = some mount ∧ mount.strip? path = some below := by
  obtain ⟨i, hplace, found⟩ := spec_of_findMountFrom h
  rw [hplace, Nat.zero_add]
  exact found

/-- A path that has a mount is blank, or begins with a slash. -/
theorem isBelow_of_findMount {config : Config} {path below : String} {place : Nat} {mount : Mount}
    (h : (ofConfig config).findMount path = some (place, mount, below)) : IsBelow path := by
  obtain ⟨hmount, hstrip⟩ := spec_of_findMount h
  obtain ⟨rfl, hbelow⟩ := strip?_eq_some_iff.1 hstrip
  rcases isMountPath_of_mem (List.mem_of_getElem? hmount) with blank | ⟨c, rest, hat, -, -⟩
  · rw [blank, String.empty_append]
    exact hbelow
  · exact .inr ⟨c :: rest ++ below.toList, by rw [String.toList_append, hat]; rfl⟩

end StaticSite.Site
