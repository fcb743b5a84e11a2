/-
  ROWS: a listing has one row for each name that can be looked at.

  A row shows what was seen under its name, and nothing that was not (`Seen`), so the names of rows
  tell all of them (`eq_of_names`).  The names are looked at one by one: those that lead to something
  have a row, in their order and as often as they stand there, and one that leads nowhere costs no
  other its row (`names_entriesOf`).

  The names in a directory are sorted before they are looked at.  So it does not show in which order
  the directory lists them, and the rows stand in the order of their bytes (`rows_of_directory`).  Two
  rows have one name only where names that are no text are shown alike.

  Numbered structure:
    §1  what a row shows
    §2  names one by one
    §3  the names in a directory
-/
import StaticSite.Proofs.Site.Candidates
import StaticSite.Site.Listing
import Mathlib.Data.List.Nodup

namespace StaticSite.Site

variable {F : Type} {fs : FileSystem F} {root : Root} {dir : Node}

/-! ## §1 What a row shows -/

/-- A row shows what is seen under its name: a directory without size and type, and all else with the
    size that it has and the type that its name has. -/
inductive Seen (fs : FileSystem F) (root : Root) (dir : Node) : Entry → Prop
  | directory {name : String} {s : Stat} (stat : fs.stat (dir.path.join name) = .ok s)
      (kind : s.kind = .directory) : Seen fs root dir ⟨name, true, 0, none⟩
  | file {name : String} {s : Stat} (stat : fs.stat (dir.path.join name) = .ok s)
      (kind : s.kind ≠ .directory) :
      Seen fs root dir ⟨name, false, s.size, some (root.mediaForName name)⟩

/-- Whether a name leads to anything from a directory. -/
def leadsOn (fs : FileSystem F) (dir : Node) (name : String) : Bool :=
  (fs.stat? (dir.path.join name)).isSome

theorem leadsOn_iff {name : String} :
    leadsOn fs dir name = true ↔ ∃ s, fs.stat (dir.path.join name) = .ok s := by
  rw [leadsOn, Option.isSome_iff_exists]
  exact exists_congr fun s => stat?_eq_some_iff

theorem Seen.leadsOn {row : Entry} (h : Seen fs root dir row) : leadsOn fs dir row.name = true := by
  cases h with
  | directory stat _ => exact leadsOn_iff.2 ⟨_, stat⟩
  | file stat _ => exact leadsOn_iff.2 ⟨_, stat⟩

/-- There is one row to a name. -/
theorem Seen.eq_of_name {row row' : Entry} (h : Seen fs root dir row) (h' : Seen fs root dir row')
    (same : row.name = row'.name) : row = row' := by
  cases h with
  | directory stat kind =>
    cases h' with
    | directory _ _ => cases same; rfl
    | file stat' kind' =>
      cases same
      cases stat.symm.trans stat'
      exact absurd kind kind'
  | file stat kind =>
    cases h' with
    | directory stat' kind' =>
      cases same
      cases stat.symm.trans stat'
      exact absurd kind' kind
    | file stat' _ =>
      cases same
      cases stat.symm.trans stat'
      rfl

/-- Rows that show what is seen are told by their names. -/
theorem eq_of_names {rows rows' : List Entry} (h : ∀ row ∈ rows, Seen fs root dir row)
    (h' : ∀ row ∈ rows', Seen fs root dir row) (same : rows.map Entry.name = rows'.map Entry.name) :
    rows = rows' := by
  induction rows generalizing rows' with
  | nil => exact (List.map_eq_nil_iff.1 same.symm).symm
  | cons row rest ih =>
    cases rows' with
    | nil => cases same
    | cons row' rest' =>
      obtain ⟨first, others⟩ := List.forall_mem_cons.1 h
      obtain ⟨first', others'⟩ := List.forall_mem_cons.1 h'
      obtain ⟨name, names⟩ := List.cons.inj same
      rw [first.eq_of_name first' name, ih others others' names]

/-- What is seen in one file system is seen in another that has the same under the name. -/
theorem Seen.congr {other : FileSystem F} {row : Entry} (h : Seen fs root dir row)
    (same : other.stat (dir.path.join row.name) = fs.stat (dir.path.join row.name)) :
    Seen other root dir row := by
  cases h with
  | directory stat kind => exact .directory (same.trans stat) kind
  | file stat kind => exact .file (same.trans stat) kind

/-! ## §2 Names one by one -/

theorem entryOf_spec (fs : FileSystem F) (root : Root) (dir : Node) (name : String) :
    (leadsOn fs dir name = true ∧ ∃ row, (entryOf fs root dir name).value = some row ∧
      row.name = name ∧ Seen fs root dir row) ∨
    (leadsOn fs dir name = false ∧ (entryOf fs root dir name).value = none) := by
  dsimp only [entryOf]
  cases hstat : fs.stat (dir.path.join name) with
  | error e =>
    refine .inr ⟨?_, rfl⟩
    rw [leadsOn, FileSystem.stat?, hstat]
    rfl
  | ok s =>
    refine .inl ⟨leadsOn_iff.2 ⟨s, hstat⟩, _, rfl, ?_⟩
    split
    next isDir => exact ⟨rfl, .directory hstat (eq_of_beq isDir)⟩
    next isFile => exact ⟨rfl, .file hstat fun kind => isFile (beq_iff_eq.2 kind)⟩

/-- Each name that leads to something has a row, in the order of the names. -/
theorem names_entriesOf (names : List String) :
    (entriesOf fs root dir names).value.map Entry.name = names.filter (leadsOn fs dir) := by
  induction names with
  | nil => rfl
  | cons name rest ih =>
    show ((entryOf fs root dir name).value.toList ++ (entriesOf fs root dir rest).value).map Entry.name
      = _
    rw [List.map_append, ih, List.filter_cons]
    rcases entryOf_spec fs root dir name with
      ⟨leads, row, hrow, rfl, -⟩ | ⟨lost, hnone⟩
    · rw [hrow, if_pos leads]
      rfl
    · rw [hnone, lost]
      rfl

theorem seen_of_mem_entriesOf {names : List String} {row : Entry}
    (h : row ∈ (entriesOf fs root dir names).value) : Seen fs root dir row := by
  induction names with
  | nil => cases h
  | cons name rest ih =>
    rcases List.mem_append.1 h with first | others
    · rcases entryOf_spec fs root dir name with
        ⟨-, row', hrow, -, seen⟩ | ⟨-, hnone⟩
      · rw [hrow] at first
        cases List.mem_singleton.1 first
        exact seen
      · rw [hnone] at first
        cases first
    · exact ih others

/-! ## §3 The names in a directory -/

/-- A name as a listing shows it. -/
def shownName (name : Text.Bytes) : String := String.ofList (Text.decodeLossy name)

/-- A name that is text is shown as it is. -/
theorem shownName_utf8 (text : String) : shownName (Text.utf8 text) = text := by
  rw [shownName, Text.utf8, Text.decodeLossy_encode, String.ofList_toList]

theorem names_entries (root : Root) {names : List Text.Bytes} (listed : fs.list dir.path = .ok names) :
    ∃ sorted : List String, sorted.Perm (names.map shownName) ∧ sorted.Pairwise (· ≤ ·) ∧
      (entries fs root dir none).value = (entriesOf fs root dir sorted).value := by
  have hsorted : fs.sortedNames dir.path
      = .ok ((names.map shownName).mergeSort fun a b => decide (a ≤ b)) := by
    rw [FileSystem.sortedNames, listed]
    rfl
  refine ⟨_, List.mergeSort_perm _ _, pairwise_sortedNames hsorted, ?_⟩
  show (entriesOf fs root dir (namesIn fs dir).value).value = _
  rw [namesIn, hsorted]
  rfl

section

variable {names : List Text.Bytes} (listed : fs.list dir.path = .ok names)

include listed

theorem perm_names_entries : ((entries fs root dir none).value.map Entry.name).Perm
    ((names.map shownName).filter (leadsOn fs dir)) := by
  obtain ⟨sorted, perm, -, hrows⟩ := names_entries root listed
  rw [hrows, names_entriesOf]
  exact perm.filter _

theorem pairwise_names_entries :
    ((entries fs root dir none).value.map Entry.name).Pairwise (· ≤ ·) := by
  obtain ⟨sorted, -, ordered, hrows⟩ := names_entries root listed
  rw [hrows, names_entriesOf]
  exact ordered.filter _

theorem seen_of_mem_entries {row : Entry} (h : row ∈ (entries fs root dir none).value) :
    Seen fs root dir row := by
  obtain ⟨sorted, -, -, hrows⟩ := names_entries root listed
  rw [hrows] at h
  exact seen_of_mem_entriesOf h

/-- Different names that are texts are shown differently. -/
theorem nodup_names_entries (nodup : names.Nodup) (texts : ∀ name ∈ names, ∃ text, Text.utf8 text = name) :
    ((entries fs root dir none).value.map Entry.name).Nodup := by
  rw [(perm_names_entries listed).nodup_iff]
  refine List.Nodup.filter _ ?_
  refine List.Nodup.map_on (fun name hname other hother same => ?_) nodup
  obtain ⟨text, rfl⟩ := texts name hname
  obtain ⟨text', rfl⟩ := texts other hother
  rw [shownName_utf8, shownName_utf8] at same
  rw [same]

/-- The rows of a directory that lists the same names in another order, where fewer of them may lead
    to anything, are those of the names that do. -/
theorem entries_of_fewer {other : FileSystem F} {names' : List Text.Bytes}
    (listed' : other.list dir.path = .ok names') (perm : names'.Perm names)
    (fewer : ∀ name s, other.stat (dir.path.join name) = .ok s → fs.stat (dir.path.join name) = .ok s) :
    (entries other root dir none).value
      = (entries fs root dir none).value.filter fun row => leadsOn other dir row.name := by
  have kept : ∀ name, leadsOn other dir name = true → leadsOn fs dir name = true := by
    intro name leads
    obtain ⟨s, hstat⟩ := leadsOn_iff.1 leads
    exact leadsOn_iff.2 ⟨s, fewer name s hstat⟩
  refine eq_of_names (fun row => seen_of_mem_entries listed') (fun row hrow => ?_) ?_
  · obtain ⟨mem, leads⟩ := List.mem_filter.1 hrow
    obtain ⟨s, hstat⟩ := leadsOn_iff.1 leads
    exact (seen_of_mem_entries listed mem).congr (hstat.trans (fewer _ s hstat).symm)
  · -- both rows of names are sorted, and they are the same names
    have filtered : ((entries fs root dir none).value.filter fun row => leadsOn other dir row.name).map
        Entry.name = ((entries fs root dir none).value.map Entry.name).filter (leadsOn other dir) := by
      rw [List.filter_map]
      rfl
    have twice : ((names.map shownName).filter (leadsOn fs dir)).filter (leadsOn other dir)
        = (names.map shownName).filter (leadsOn other dir) := by
      rw [List.filter_filter]
      refine List.filter_congr fun name _ => ?_
      cases leads : leadsOn other dir name with
      | false => rfl
      | true => rw [kept name leads]; rfl
    rw [filtered]
    refine List.Perm.eq_of_pairwise (fun a b _ _ => String.le_antisymm) (pairwise_names_entries listed')
      ((pairwise_names_entries listed).filter _) ?_
    refine (perm_names_entries listed').trans ?_
    refine .trans ?_ ((perm_names_entries listed).filter _).symm
    rw [twice]
    exact (perm.map shownName).filter _

end

/-- The listing of a directory that can be listed has one row for each entry whose name, decoded where
    it is no text, leads to something, in the order of the bytes of these names, which differ where all
    names are texts; each row shows what is seen under its name.  The order in which the entries are
    listed does not show, and where some lead nowhere the rows of the others stay as they are.  For
    names that are given, the rows are those of the names that lead to something, in the given order. -/
theorem rows_of_directory (fs : FileSystem F) (root : Root) (dir : Node) :
    (∀ names, fs.list dir.path = .ok names →
      ((entries fs root dir none).value.map Entry.name).Perm
        ((names.map shownName).filter (leadsOn fs dir)) ∧
      (entries fs root dir none).value.Pairwise
        (fun row later => Text.utf8 row.name ≤ Text.utf8 later.name) ∧
      (names.Nodup → (∀ name ∈ names, ∃ text, Text.utf8 text = name) →
        (entries fs root dir none).value.Pairwise
          (fun row later => Text.utf8 row.name < Text.utf8 later.name)) ∧
      (∀ row ∈ (entries fs root dir none).value, Seen fs root dir row) ∧
      ∀ (other : FileSystem F) names', other.list dir.path = .ok names' → names'.Perm names →
        (∀ name s, other.stat (dir.path.join name) = .ok s →
          fs.stat (dir.path.join name) = .ok s) →
        (entries other root dir none).value
          = (entries fs root dir none).value.filter fun row => leadsOn other dir row.name) ∧
    ∀ chosen : List String,
      (entries fs root dir (some chosen)).value.map Entry.name = chosen.filter (leadsOn fs dir) ∧
      ∀ row ∈ (entries fs root dir (some chosen)).value, Seen fs root dir row := by
  refine ⟨fun names listed => ?_, fun chosen => ?_⟩
  · have ordered : (entries fs root dir none).value.Pairwise fun row later => row.name ≤ later.name :=
      List.pairwise_map.1 (pairwise_names_entries listed)
    refine ⟨perm_names_entries listed, ordered.imp Text.utf8_le_iff.2, fun nodup texts => ?_,
      fun row => seen_of_mem_entries listed, fun other names' => entries_of_fewer listed⟩
    have differ : (entries fs root dir none).value.Pairwise fun row later => row.name ≠ later.name :=
      List.pairwise_map.1 (nodup_names_entries listed nodup texts)
    refine (ordered.and differ).imp fun {row later} h => Text.utf8_lt_iff.2 ?_
    exact Std.lt_of_le_of_ne h.1 h.2
  · exact ⟨names_entriesOf chosen, fun row => seen_of_mem_entriesOf⟩

/-- A directory with the given names, of which some lead to a file. -/
def shelf (names : List Text.Bytes) (there : List String) : FileSystem Unit where
  stat path :=
    if path ∈ there.map (FilePath.join "/srv") then .ok ⟨.regular, 3, ⟨0, 0⟩⟩ else .error .notFound
  list path := if path = "/srv" then .ok names else .error .notADirectory
  openFile _ := .ok ()
  contents _ := .ok [1, 2, 3]

/-- A name that leads nowhere, and two that are shown alike, of which one is no text. -/
def mixedShelf : FileSystem Unit :=
  shelf [Text.utf8 "c.txt", Text.utf8 "gone", [0xFF], Text.utf8 "\uFFFD", Text.utf8 "b"]
    ["c.txt", "\uFFFD", "b"]

/-- Names that are texts, and the same names when one of them has gone. -/
def plainShelf : FileSystem Unit := shelf [Text.utf8 "c.txt", Text.utf8 "b"] ["c.txt", "b"]

def wornShelf : FileSystem Unit := shelf [Text.utf8 "b", Text.utf8 "c.txt"] ["b"]

def shelfNode : Node := ⟨"/srv", true⟩

/-- Two entries that are shown alike have a row each. -/
theorem rows_of_shelves :
    (((entries mixedShelf (Root.usual "/srv") shelfNode none).value.map Entry.name).Perm
        ["c.txt", "\uFFFD", "\uFFFD", "b"] ∧
      (entries mixedShelf (Root.usual "/srv") shelfNode none).value.Pairwise
        (fun row later => Text.utf8 row.name ≤ Text.utf8 later.name)) ∧
    ((entries plainShelf (Root.usual "/srv") shelfNode none).value.Pairwise
        (fun row later => Text.utf8 row.name < Text.utf8 later.name) ∧
      (entries wornShelf (Root.usual "/srv") shelfNode none).value
        = (entries plainShelf (Root.usual "/srv") shelfNode none).value.filter
            fun row => leadsOn wornShelf shelfNode row.name) ∧
    (entries plainShelf (Root.usual "/srv") shelfNode (some ["c.txt", "gone", "b", "c.txt"])).value.map
      Entry.name = ["c.txt", "b", "c.txt"] := by
  have shown : ([Text.utf8 "c.txt", Text.utf8 "gone", [0xFF], Text.utf8 "\uFFFD", Text.utf8 "b"].map
      shownName).filter (leadsOn mixedShelf shelfNode) = ["c.txt", "\uFFFD", "\uFFFD", "b"] := by
    decide +kernel
  obtain ⟨mixed, -⟩ := rows_of_directory mixedShelf (Root.usual "/srv") shelfNode
  obtain ⟨plain, chosen⟩ := rows_of_directory plainShelf (Root.usual "/srv") shelfNode
  obtain ⟨perm, ordered, -⟩ := mixed _ rfl
  obtain ⟨-, -, strict, -, fewer⟩ := plain _ rfl
  have texts : ∀ name ∈ [Text.utf8 "c.txt", Text.utf8 "b"], ∃ text, Text.utf8 text = name := by
    intro name hname
    rcases List.mem_cons.1 hname with rfl | hname
    · exact ⟨_, rfl⟩
    · exact ⟨_, (List.mem_singleton.1 hname).symm⟩
  have worn : ∀ name s, wornShelf.stat (shelfNode.path.join name) = .ok s →
      plainShelf.stat (shelfNode.path.join name) = .ok s := by
    intro name s hstat
    dsimp only [wornShelf, shelf] at hstat
    split at hstat
    next there =>
      cases hstat
      exact if_pos (List.mem_cons_of_mem _ there)
    next => cases hstat
  rw [shown] at perm
  refine ⟨⟨perm, ordered⟩, ⟨strict (by decide) texts, fewer wornShelf _ rfl (.swap _ _ _) worn⟩, ?_⟩
  exact (chosen _).1.trans (by decide +kernel)

end StaticSite.Site
