/-
  CANDIDATES: what a directory has for a segment.

  A directory HAS AN ENTRY under a name when it can be told what the two together lead to, and a PAGE
  when they lead to a regular file (`child?_eq_some_iff`, `indexFile?_eq_some_iff`).

  An ignored extension GIVES a sibling of a segment: an extension that is written out the entry with
  this extension, and the one that stands for all the first of the entries that begin with the segment
  and a dot (`sibling?_eq_some_iff`).  The names are sorted before any is looked at, so the first that
  is there is the least, whatever order the directory lists them in.

  A search through a row gives what the FIRST OF the row gives that gives anything
  (`findSome?_eq_some_iff_firstOf`).

  Numbered structure:
    §1  the first of a row
    §2  entries and pages
    §3  siblings
-/
import StaticSite.Proofs.Text.Order
import StaticSite.Site.Resolve

namespace StaticSite.Site

/-! ## §1 The first of a row -/

section

variable {α β : Type}

/-- The first member of a row that gives anything gives `b`. -/
def FirstOf (gives : α → β → Prop) (row : List α) (b : β) : Prop :=
  ∃ before a after, row = before ++ a :: after ∧ gives a b ∧ ∀ earlier ∈ before, ¬∃ c, gives earlier c

/-- Nothing is given where nothing is found. -/
theorem eq_none_iff_gives {gives : β → Prop} {found : Option β}
    (h : ∀ b, found = some b ↔ gives b) : found = none ↔ ¬∃ b, gives b := by
  rw [Option.eq_none_iff_forall_ne_some, not_exists]
  exact forall_congr' fun b => not_congr (h b)

variable {gives : α → β → Prop} {f : α → Option β} {row : List α}

theorem findSome?_eq_some_iff_firstOf (h : ∀ a b, f a = some b ↔ gives a b) {b : β} :
    row.findSome? f = some b ↔ FirstOf gives row b := by
  rw [List.findSome?_eq_some_iff]
  refine exists_congr fun before => exists_congr fun a => exists_congr fun after => ?_
  rw [h a b]
  refine and_congr_right fun _ => and_congr_right fun _ => ?_
  exact forall_congr' fun earlier => forall_congr' fun _ => eq_none_iff_gives (h earlier)

theorem findSome?_eq_none_iff_gives (h : ∀ a b, f a = some b ↔ gives a b) :
    row.findSome? f = none ↔ ∀ a ∈ row, ¬∃ b, gives a b := by
  rw [List.findSome?_eq_none_iff]
  exact forall_congr' fun a => forall_congr' fun _ => eq_none_iff_gives (h a)

/-- In a row that stands in order, the first that gives anything is the least. -/
theorem FirstOf.least {le : α → α → Prop} (refl : ∀ a, le a a) (ordered : row.Pairwise le) {b : β}
    (h : FirstOf gives row b) :
    ∃ a ∈ row, gives a b ∧ ∀ other ∈ row, (∃ c, gives other c) → le a other := by
  obtain ⟨before, a, after, rfl, ha, earlier⟩ := h
  refine ⟨a, List.mem_append_right _ List.mem_cons_self, ha, fun other hother found => ?_⟩
  rcases List.mem_append.1 hother with front | back
  · exact absurd found (earlier other front)
  · rcases List.mem_cons.1 back with rfl | later
    · exact refl other
    · exact List.rel_of_pairwise_cons (List.pairwise_append.1 ordered).2.1 later

end

variable {F : Type}

/-! ## §2 Entries and pages -/

/-- A directory has a node under a name: it can be told what the two together lead to. -/
def HasEntry (fs : FileSystem F) (dir : Node) (name : String) (n : Node) : Prop :=
  ∃ s, fs.stat (dir.path.join name) = .ok s ∧ n = ⟨dir.path.join name, s.isDir⟩

/-- A directory has a regular file under a name. -/
def HasPage (fs : FileSystem F) (dir : Node) (name : String) (n : Node) : Prop :=
  ∃ s, fs.stat (dir.path.join name) = .ok s ∧ s.kind = .regular ∧ n = ⟨dir.path.join name, false⟩

variable {fs : FileSystem F} {dir : Node}

theorem stat?_eq_some_iff {path : FilePath} {s : Stat} :
    fs.stat? path = some s ↔ fs.stat path = .ok s := by
  unfold FileSystem.stat?
  cases fs.stat path with
  | ok t => exact ⟨fun h => congrArg Except.ok (Option.some.inj h), fun h => by cases h; rfl⟩
  | error e => exact ⟨nofun, nofun⟩

theorem child?_eq_some_iff (name : String) (n : Node) :
    child? fs dir name = some n ↔ HasEntry fs dir name n := by
  dsimp only [child?]
  rw [Option.map_eq_some_iff]
  exact exists_congr fun s => and_congr stat?_eq_some_iff eq_comm

theorem indexFile?_eq_some_iff (name : String) (n : Node) :
    indexFile? fs dir name = some n ↔ HasPage fs dir name n := by
  dsimp only [indexFile?]
  constructor
  · intro h
    split at h
    next s hstat =>
      split at h
      next file =>
        cases h
        have regular : s.kind = .regular := eq_of_beq file
        have isDir : s.isDir = false := by rw [Stat.isDir, regular]; rfl
        exact ⟨s, stat?_eq_some_iff.1 hstat, regular, by rw [isDir]⟩
      next => cases h
    next => cases h
  · rintro ⟨s, hstat, regular, rfl⟩
    have file : s.isFile = true := by rw [Stat.isFile, regular]; rfl
    have isDir : s.isDir = false := by rw [Stat.isDir, regular]; rfl
    rw [stat?_eq_some_iff.2 hstat]
    dsimp only
    rw [if_pos file, isDir]

/-! ## §3 Siblings -/

/-- A name in a directory that can be listed, decoded where it is no text, that begins with a segment
    and a dot. -/
structure IsSibling (fs : FileSystem F) (dir : Node) (segment name : String) : Prop where
  listed : ∃ names, fs.list dir.path = .ok names ∧
    ∃ bytes ∈ names, name = String.ofList (Text.decodeLossy bytes)
  begins : ∃ rest, name = segment ++ "." ++ rest

/-- What an ignored extension gives for a segment.  The empty one gives nothing. -/
inductive Gives (fs : FileSystem F) (dir : Node) (segment : String) : String → Node → Prop
  /-- An extension is put behind the segment. -/
  | written {ext : String} {n : Node} (present : ext ≠ "") (one : ext ≠ "*")
      (entry : HasEntry fs dir (segment ++ ext) n) : Gives fs dir segment ext n
  /-- Of all siblings that are there, the one whose name has the least bytes. -/
  | any {name : String} {n : Node} (sibling : IsSibling fs dir segment name)
      (entry : HasEntry fs dir name n)
      (least : ∀ other, IsSibling fs dir segment other → (∃ m, HasEntry fs dir other m) →
        Text.utf8 name ≤ Text.utf8 other) : Gives fs dir segment "*" n

variable {segment : String}

theorem Gives.exists_hasEntry {ext : String} {n : Node} (h : Gives fs dir segment ext n) :
    ∃ name, HasEntry fs dir name n := by
  cases h with
  | written _ _ entry => exact ⟨segment ++ ext, entry⟩
  | @any name _ _ entry _ => exact ⟨name, entry⟩

/-- Names are decoded, then sorted. -/
theorem exists_of_sortedNames {path : FilePath} {names : List String}
    (h : fs.sortedNames path = .ok names) : ∃ entries, fs.list path = .ok entries ∧
      names = (entries.map fun bytes => String.ofList (Text.decodeLossy bytes)).mergeSort
        fun a b => decide (a ≤ b) := by
  unfold FileSystem.sortedNames at h
  cases hlist : fs.list path with
  | error e =>
    rw [hlist] at h
    cases h
  | ok entries =>
    rw [hlist] at h
    cases h
    exact ⟨entries, rfl, rfl⟩

theorem mem_sortedNames {path : FilePath} {names : List String} (h : fs.sortedNames path = .ok names)
    {name : String} : name ∈ names ↔ ∃ entries, fs.list path = .ok entries ∧
      ∃ bytes ∈ entries, name = String.ofList (Text.decodeLossy bytes) := by
  obtain ⟨entries, hentries, rfl⟩ := exists_of_sortedNames h
  rw [List.mem_mergeSort, List.mem_map, hentries]
  constructor
  · rintro ⟨bytes, hbytes, rfl⟩
    exact ⟨entries, rfl, bytes, hbytes, rfl⟩
  · rintro ⟨_, same, bytes, hbytes, rfl⟩
    cases same
    exact ⟨bytes, hbytes, rfl⟩

theorem pairwise_sortedNames {path : FilePath} {names : List String}
    (h : fs.sortedNames path = .ok names) : names.Pairwise (· ≤ ·) := by
  obtain ⟨entries, -, rfl⟩ := exists_of_sortedNames h
  have ordered := @List.pairwise_mergeSort String (fun a b => decide (a ≤ b))
    (fun a b c hab hbc => decide_eq_true
      (String.le_trans (of_decide_eq_true hab) (of_decide_eq_true hbc)))
    (fun a b => by simpa using String.le_total a b)
    (entries.map fun bytes => String.ofList (Text.decodeLossy bytes))
  exact ordered.imp of_decide_eq_true

theorem begins_iff {name : String} : (segment ++ ".").toList.isPrefixOf name.toList = true ↔
    ∃ rest, name = segment ++ "." ++ rest := by
  rw [List.isPrefixOf_iff_prefix]
  constructor
  · rintro ⟨rest, hrest⟩
    refine ⟨String.ofList rest, String.toList_inj.1 ?_⟩
    rw [String.toList_append, String.toList_ofList, hrest]
  · rintro ⟨rest, rfl⟩
    exact ⟨rest.toList, String.toList_append.symm⟩

variable (fs dir segment) in
/-- The siblings of a segment stand in a row, in order, and the first that is there is taken. -/
theorem exists_siblings : ∃ siblings : List String, siblings.Pairwise (· ≤ ·) ∧
    (∀ name, name ∈ siblings ↔ IsSibling fs dir segment name) ∧
    wildcardSibling? fs dir segment = siblings.findSome? (child? fs dir) := by
  unfold wildcardSibling?
  cases hnames : fs.sortedNames dir.path with
  | ok names =>
    refine ⟨_, (pairwise_sortedNames hnames).filter _, fun name => ?_, rfl⟩
    rw [List.mem_filter, mem_sortedNames hnames, begins_iff]
    exact ⟨fun ⟨listed, begins⟩ => ⟨listed, begins⟩, fun ⟨listed, begins⟩ => ⟨listed, begins⟩⟩
  | error e =>
    refine ⟨[], .nil, fun name => ⟨nofun, fun ⟨⟨bytes, hbytes, _⟩, _⟩ => ?_⟩, rfl⟩
    rw [FileSystem.sortedNames, hbytes] at hnames
    cases hnames

theorem wildcardSibling?_eq_none_iff : wildcardSibling? fs dir segment = none ↔
    ¬∃ name, IsSibling fs dir segment name ∧ ∃ n, HasEntry fs dir name n := by
  obtain ⟨siblings, -, mem, hfound⟩ := exists_siblings fs dir segment
  rw [hfound, findSome?_eq_none_iff_gives child?_eq_some_iff]
  constructor
  · rintro nothing ⟨name, sibling, entry⟩
    exact nothing name ((mem name).2 sibling) entry
  · intro nothing name hname entry
    exact nothing ⟨name, (mem name).1 hname, entry⟩

theorem gives_of_wildcardSibling? {n : Node} (h : wildcardSibling? fs dir segment = some n) :
    Gives fs dir segment "*" n := by
  obtain ⟨siblings, ordered, mem, hfound⟩ := exists_siblings fs dir segment
  rw [hfound, findSome?_eq_some_iff_firstOf child?_eq_some_iff] at h
  obtain ⟨name, hname, entry, least⟩ := h.least String.le_refl ordered
  exact .any ((mem name).1 hname) entry fun other sibling found =>
    Text.utf8_le_iff.2 (least other ((mem other).2 sibling) found)

theorem HasEntry.unique {name : String} {n m : Node} (hn : HasEntry fs dir name n)
    (hm : HasEntry fs dir name m) : n = m :=
  Option.some.inj (((child?_eq_some_iff name n).2 hn).symm.trans ((child?_eq_some_iff name m).2 hm))

/-- There is one least name. -/
theorem wildcardSibling?_eq_some_iff {n : Node} :
    wildcardSibling? fs dir segment = some n ↔ Gives fs dir segment "*" n := by
  refine ⟨gives_of_wildcardSibling?, fun h => ?_⟩
  cases h with
  | written _ one _ => exact absurd rfl one
  | @any name _ sibling entry least =>
    cases hfound : wildcardSibling? fs dir segment with
    | none => exact absurd ⟨name, sibling, n, entry⟩ (wildcardSibling?_eq_none_iff.1 hfound)
    | some m =>
      cases gives_of_wildcardSibling? hfound with
      | written _ one _ => exact absurd rfl one
      | @any name' _ sibling' entry' least' =>
        have up := Text.utf8_le_iff.1 (least name' sibling' ⟨m, entry'⟩)
        have down := Text.utf8_le_iff.1 (least' name sibling ⟨n, entry⟩)
        cases String.le_antisymm up down
        rw [entry'.unique entry]

theorem sibling?_eq_some_iff (ext : String) (n : Node) :
    sibling? fs dir segment ext = some n ↔ Gives fs dir segment ext n := by
  unfold sibling?
  by_cases empty : ext = ""
  · rw [if_pos empty]
    refine ⟨nofun, fun h => ?_⟩
    cases h with
    | written present _ _ => exact absurd empty present
    | any _ _ _ => exact absurd empty (by decide)
  · rw [if_neg empty]
    by_cases all : ext = anyExtension
    · rw [if_pos all, wildcardSibling?_eq_some_iff, all]
      rfl
    · rw [if_neg all, child?_eq_some_iff]
      refine ⟨.written empty all, fun h => ?_⟩
      cases h with
      | written _ _ entry => exact entry
      | any _ _ _ => exact absurd rfl all

end StaticSite.Site
