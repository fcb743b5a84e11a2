/-
  ROWS AND LINKS: every row of a listing leads to what it shows.

  A row is there for a name in the directory that can be looked at, and shows what was seen
  (`isRow_of_mem`); the page has its link (`linked_listingPage`).  Followed from the path of the
  listing, the link is cut and read back into the name (`splitSegments_href`), and the walk finds the
  entry there, if no processor takes it.

  Numbered structure:
    §1  names in a directory
    §2  rows
    §3  the page
    §4  where a link leads
    §5  what a link gives
-/
import StaticSite.Proofs.Site.Answers
import StaticSite.Proofs.Site.Memory
import StaticSite.Proofs.Site.Rows
import StaticSite.Proofs.Site.Segments

namespace StaticSite.Site

variable {F : Type} {fs : FileSystem F} {root : Root}

/-! ## §1 Names in a directory -/

/-- A name of something in a directory. -/
structure IsEntryName (name : String) : Prop where
  some : name ≠ ""
  free : '/' ∉ name.toList
  dot : name ≠ "."
  dots : name ≠ ".."

/-- The names that directories list are names of things in them: none is blank, none has a slash, and
    none is that of the directory itself or of the one above. -/
def EntryNames (fs : FileSystem F) : Prop :=
  ∀ path names, fs.list path = .ok names →
    ∀ name ∈ names, name ≠ [] ∧ (0x2F : UInt8) ∉ name ∧ name ≠ [0x2E] ∧ name ≠ [0x2E, 0x2E]

/-- What is listed is a name as text, too. -/
theorem isEntryName_of_bytes {name : Text.Bytes} (some : name ≠ []) (slash : (0x2F : UInt8) ∉ name)
    (dot : name ≠ [0x2E]) (dots : name ≠ [0x2E, 0x2E]) :
    IsEntryName (String.ofList (Text.decodeLossy name)) := by
  obtain ⟨free, above⟩ := isComponent_of_entry slash dots
  refine ⟨fun h => some ?_, free, fun h => dot ?_, above⟩
  · exact eq_of_decodeLossy h (by decide) (by decide)
  · exact eq_of_decodeLossy h (by decide) (by decide)

/-- The names that a listing is made of. -/
theorem isEntryName_of_namesIn (listed : EntryNames fs) {dir : Node} {name : String}
    (h : name ∈ (namesIn fs dir).value) : IsEntryName name := by
  unfold namesIn at h
  cases hnames : fs.sortedNames dir.path with
  | error e =>
    rw [hnames] at h
    cases h
  | ok names =>
    rw [hnames] at h
    obtain ⟨entries, hlist, bytes, hbytes, rfl⟩ := (mem_sortedNames hnames).1 h
    obtain ⟨some, slash, dot, dots⟩ := listed dir.path entries hlist bytes hbytes
    exact isEntryName_of_bytes some slash dot dots

/-! ## §2 Rows -/

/-- A row shows what was seen of an entry of the directory. -/
structure IsRow (fs : FileSystem F) (root : Root) (dir : Node) (e : Entry) (s : Stat) : Prop where
  stat : fs.stat (dir.path.join e.name) = .ok s
  isDir : e.isDir = s.isDir
  size : s.isDir = false → e.size = s.size
  media : s.isDir = false → e.media = some (root.mediaForName e.name)

/-- A row that shows what is seen under its name has all of it. -/
theorem isRow_of_seen {dir : Node} {e : Entry} (h : Seen fs root dir e) :
    ∃ s, IsRow fs root dir e s := by
  cases h with
  | @directory name s stat kind =>
    have isDir : s.isDir = true := beq_iff_eq.2 kind
    exact ⟨s, stat, isDir.symm, by simp [isDir], by simp [isDir]⟩
  | @file name s stat kind =>
    have isFile : s.isDir = false := Bool.eq_false_iff.2 (mt eq_of_beq kind)
    exact ⟨s, stat, isFile.symm, fun _ => rfl, fun _ => rfl⟩

/-- A row of the listing of a directory has the name of something in it, and shows what was seen of
    it. -/
theorem isRow_of_mem (listed : EntryNames fs) {dir : Node} {e : Entry}
    (h : e ∈ (entries fs root dir none).value) :
    IsEntryName e.name ∧ ∃ s, IsRow fs root dir e s := by
  have inNames : e ∈ (entriesOf fs root dir (namesIn fs dir).value).value := h
  have leads : e.name ∈ (namesIn fs dir).value.filter (leadsOn fs dir) := by
    rw [← names_entriesOf]
    exact List.mem_map_of_mem inNames
  exact ⟨isEntryName_of_namesIn listed (List.mem_filter.1 leads).1,
    isRow_of_seen (seen_of_mem_entriesOf inNames)⟩

/-! ## §3 The page -/

/-- The link of a row. -/
def Entry.href (e : Entry) : String := linkText e.name ++ if e.isDir then "/" else ""

/-- The anchor of a row. -/
def Entry.anchor (e : Entry) : String := "<a href=\"" ++ e.href ++ "\">"

/-- A text stands in another. -/
def Within (part whole : String) : Prop := ∃ before after, whole = before ++ part ++ after

theorem Within.trans {a b c : String} (h : Within a b) (h' : Within b c) : Within a c := by
  obtain ⟨before, after, rfl⟩ := h
  obtain ⟨before', after', rfl⟩ := h'
  exact ⟨before' ++ before, after ++ after', by simp only [String.append_assoc]⟩

theorem within_append (before part after : String) : Within part (before ++ part ++ after) :=
  ⟨before, after, rfl⟩

theorem anchor_within_row (e : Entry) (index : Nat) : Within e.anchor (e.row index) := by
  have cut : "    <td><a href=\"" = "    <td>" ++ "<a href=\"" := by decide
  unfold Entry.row
  obtain ⟨size, type, encoding⟩ := e.cells
  refine ⟨"<tr class=\"" ++ (if index % 2 = 0 then "odd" else "even") ++ "\">\n" ++ "    <td>",
    escapeText e.name ++ (if e.isDir then "/" else "") ++ "</a></td>\n" ++ "    <td>" ++ size ++
      "</td>\n" ++ "    <td>" ++ type ++ "</td>\n" ++ "    <td>" ++ encoding ++ "</td>\n" ++
      "</tr>\n", ?_⟩
  simp only [Entry.anchor, Entry.href, cut, String.append_assoc]

/-- The rows of all entries stand in the page. -/
theorem row_within_rows {e : Entry} {es : List Entry} (h : e ∈ es) (index : Nat) :
    ∃ place, Within (e.row place) (rowsFrom index es) := by
  induction es generalizing index with
  | nil => cases h
  | cons first rest ih =>
    rcases List.mem_cons.1 h with rfl | hrest
    · exact ⟨index, "", rowsFrom (index + 1) rest, by rw [String.empty_append]; rfl⟩
    · obtain ⟨place, before, after, hrows⟩ := ih hrest (index + 1)
      refine ⟨place, first.row index ++ before, after, ?_⟩
      rw [rowsFrom, hrows]
      simp only [String.append_assoc]

/-- The page has the row of every entry, and in it the link. -/
theorem row_within_page {e : Entry} {es : List Entry} (h : e ∈ es) (requestPath : String) :
    ∃ place, Within (e.row place) (listingPage es requestPath) := by
  obtain ⟨place, hrow⟩ := row_within_rows h 0
  refine ⟨place, hrow.trans ?_⟩
  unfold listingPage
  exact within_append _ (rowsFrom 0 es) _

/-! ## §4 Where a link leads -/

/-- Followed from the path of a listing, the link of a row is cut into the name, and a blank segment
    behind that of a directory. -/
theorem splitSegments_href {below : String} {segments : List String}
    (split : splitSegments below = some (segments ++ [""])) {e : Entry} (free : '/' ∉ e.name.toList) :
    splitSegments (below ++ e.href)
      = some (segments ++ if e.isDir then [e.name, ""] else [e.name]) := by
  have name := splitSegments_link split free
  unfold Entry.href
  cases e.isDir with
  | false =>
    simp only [Bool.false_eq_true, if_false, String.append_empty]
    exact name
  | true =>
    have start := exists_of_splitSegments name (List.append_ne_nil_of_right_ne_nil _ (by simp))
    have slash := splitSegments_append_slash (.inr start) name
    rw [List.append_assoc, String.append_assoc] at slash
    exact slash

/-- The walk to a row of a listing finds what the row shows. -/
theorem value_traverse_of_row {segments : List String} {dir : Node}
    (shown : (traverse fs root (segments ++ [""])).value = .listing dir) {e : Entry}
    (entry : IsEntryName e.name) {s : Stat} (row : IsRow fs root dir e s)
    (plain : root.processors.lookup e.name = none) :
    (traverse fs root (segments ++ [e.name])).value = .node ⟨dir.path.join e.name, e.isDir⟩ := by
  obtain ⟨reached, isDir⟩ := node_of_listing shown
  have file : (dir.path.join e.name).fileName = e.name :=
    FilePath.fileName_join dir.path entry.free entry.some entry.dot entry.dots
  have found : candidate? fs root dir e.name = some ⟨dir.path.join e.name, e.isDir⟩ := by
    rw [candidate?, if_neg entry.some, child?_of_stat row.stat, row.isDir]
    rfl
  have outcome : resolveSegment fs root dir e.name = .node ⟨dir.path.join e.name, e.isDir⟩ := by
    rw [resolveSegment_of_candidate isDir ⟨entry.free, entry.dots⟩ found]
    exact dispatch_of_none (by rw [file]; exact plain)
  rw [traverse, value_traverseFrom_append reached, value_traverseFrom_singleton, outcome]

/-! ## §5 What a link gives -/

/-- What is served of a file, whatever was remembered before: its type is that of its name. -/
theorem whole_of_servePath {cache : MediaCache} (faithful : MediaCache.Faithful root cache)
    {segments : List String} {n : Node} (outcome : (traverse fs root segments).value = .node n)
    {stat : Stat} (hstat : fs.stat? n.path = some stat) (isFile : stat.isDir = false) {file : F}
    (opened : fs.openFile n.path = .ok file) (sendable : root.Sendable) {request : Http.Request}
    (unconditional : request.headers.text? "if-modified-since" = none)
    (unranged : request.headers.text? "range" = none) (boundary : String) :
    ∃ response, (servePath fs root cache segments request boundary).value.1 = .ok response ∧
      Whole response (root.mediaForName n.path.fileName) stat.size := by
  have media := mediaForPath_of_faithful faithful n.path
  obtain ⟨contentType, encoding⟩ := sendable.media n.path.fileName
  have answered : ∃ response, (renderNode fs root n (root.mediaForName n.path.fileName) request
      boundary).value = .ok response ∧ Whole response (root.mediaForName n.path.fileName) stat.size :=
    answer_of_unconditional hstat isFile opened contentType encoding unconditional unranged boundary
  obtain ⟨response, hresponse, whole⟩ := answered
  refine ⟨response, ?_, whole⟩
  rw [servePath, Logged.value_bind, outcome]
  simp only [Logged.value_bind, Logged.value_pure, media, hresponse]

/-- Type and encoding as the row of a file shows them. -/
theorem cells_of_media {e : Entry} (isFile : e.isDir = false) {media : MediaType}
    (h : e.media = some media) :
    e.cells = (sizeText e.size, "[" ++ escapeText media.contentType ++ "]",
      (media.encoding.map fun encoding => "[" ++ escapeText encoding ++ "]").getD "") := by
  unfold Entry.cells
  rw [isFile, h]
  cases hencoding : media.encoding with
  | none => simp [hencoding]
  | some encoding => simp [hencoding]

/-- Every link of a listing works.  The page has the link of each row; followed from the path of the
    listing it leads to the name in the row, with a blank segment behind that of a directory; and if
    no processor takes that name, the walk finds the file there, or the directory is shown, as a
    listing or by a file that an index name names from it.  A request for all of a regular file that
    can be opened is answered with the size, the type and the encoding in the row, whatever the root
    remembers; and so is it by a site that finds the root for the link, whatever it was asked
    before. -/
theorem links_of_listing (listed : EntryNames fs) (sendable : root.Sendable) {below : String}
    {segments : List String} {dir : Node} (split : splitSegments below = some (segments ++ [""]))
    (shown : (traverse fs root (segments ++ [""])).value = .listing dir) {e : Entry}
    (row : e ∈ (entries fs root dir none).value) (plain : root.processors.lookup e.name = none) :
    (∀ request : Http.Request, request.isHead = false →
      ∃ page, (renderListing fs root dir none request).value.body = .full (Text.utf8 page) ∧
        ∃ place, Within (e.row place) page ∧ Within e.anchor (e.row place)) ∧
    splitSegments (below ++ e.href)
      = some (segments ++ if e.isDir then [e.name, ""] else [e.name]) ∧
    (e.isDir = false →
      (traverse fs root (segments ++ [e.name])).value = .node ⟨dir.path.join e.name, false⟩) ∧
    (e.isDir = true → Shows fs root ⟨dir.path.join e.name, true⟩
      (traverse fs root (segments ++ [e.name, ""])).value) ∧
    (∀ stat file, fs.stat (dir.path.join e.name) = .ok stat → stat.isFile = true →
      fs.openFile (dir.path.join e.name) = .ok file →
      ∃ media, e.cells = (sizeText e.size, "[" ++ escapeText media.contentType ++ "]",
          (media.encoding.map fun encoding => "[" ++ escapeText encoding ++ "]").getD "") ∧
        ∀ (request : Http.Request) boundary, request.method = "GET" →
          request.headers.text? "if-modified-since" = none →
          request.headers.text? "range" = none →
          (∀ cache, MediaCache.Faithful root cache → ∃ response,
            (servePath fs root cache (segments ++ [e.name]) request boundary).value.1 = .ok response ∧
            Whole response media e.size) ∧
          (∀ (site : Site) memory, Reached F site memory → ∀ place mount, mount.root = root →
            site.data.get? request.uri.path = none →
            site.findMount request.uri.path = some (place, mount, below ++ e.href) →
            ∃ response, (respond site memory fs request boundary).value.1 = .ok response ∧
              Whole response media e.size)) := by
  obtain ⟨entry, s, seen⟩ := isRow_of_mem listed row
  have href := splitSegments_href split entry.free
  have found := value_traverse_of_row shown entry seen plain
  refine ⟨fun request full => ?_, href, fun isFile => isFile ▸ found, fun isDir => ?_, ?_⟩
  · obtain ⟨place, hrow⟩ := row_within_page row request.uri.text
    exact ⟨_, body_renderListing dir none full, place, hrow, anchor_within_row e place⟩
  · rw [isDir] at found
    have slash := shows_of_slash found rfl
    rw [List.append_assoc] at slash
    exact slash
  · intro stat file hstat regular opened
    rw [seen.stat] at hstat
    cases hstat
    have kind : s.kind = .regular := eq_of_beq regular
    have isFile : s.isDir = false := by rw [Stat.isDir, kind]; rfl
    have isFile' : e.isDir = false := seen.isDir.trans isFile
    refine ⟨root.mediaForName e.name, cells_of_media isFile' (seen.media isFile), ?_⟩
    intro request boundary get unconditional unranged
    have name : (dir.path.join e.name).fileName = e.name :=
      FilePath.fileName_join dir.path entry.free entry.some entry.dot entry.dots
    rw [isFile'] at href found
    have one : splitSegments (below ++ e.href) = some (segments ++ [e.name]) := href
    have there : fs.stat? (dir.path.join e.name) = some s := by rw [FileSystem.stat?, seen.stat]; rfl
    have served (cache : MediaCache) (faithful : MediaCache.Faithful root cache) :
        ∃ response,
          (servePath fs root cache (segments ++ [e.name]) request boundary).value.1 = .ok response ∧
          Whole response (root.mediaForName e.name) e.size := by
      obtain ⟨response, hresponse, whole⟩ := whole_of_servePath faithful found there isFile opened
        sendable unconditional unranged boundary
      rw [name, ← seen.size isFile] at whole
      exact ⟨response, hresponse, whole⟩
    refine ⟨served, ?_⟩
    rintro site memory reached place mount rfl unfixed hfound
    have faithful := faithful_of_reached reached place mount (spec_of_findMount hfound).1
    obtain ⟨response, hresponse, whole⟩ := served _ faithful
    refine ⟨response, ?_, whole⟩
    rw [value_respond_of_found site memory fs (.inl get) unfixed hfound one, hresponse]
    rfl

/-- The rows of the directory with one page. -/
theorem entries_onePage : (entries onePage (Root.usual "/srv") ⟨"/srv", true⟩ none).value
    = [⟨"a.txt", false, 3, some ⟨"text/plain", none⟩⟩] := by
  decide +kernel

/-- The link in the listing of a directory with one page. -/
theorem link_of_one_page :
    (traverse onePage (Root.usual "/srv") ["a.txt"]).value = .node ⟨"/srv/a.txt", false⟩ ∧
    ∃ media response, (respond onePageSite (freshMemory onePageSite) onePage
      ⟨"GET", ⟨"/a.txt", none⟩, []⟩ "b").value.1 = .ok response ∧ Whole response media 3 := by
  have listed : EntryNames onePage := by
    intro path names hnames
    dsimp only [onePage] at hnames
    split at hnames
    · cases hnames
      decide
    · cases hnames
  have split : splitSegments "/" = some ([] ++ [""]) :=
    splitSegments_append_slash (.inl rfl) splitSegments_of_empty
  have shown : (traverse onePage (Root.usual "/srv") [""]).value = .listing ⟨"/srv", true⟩ := by
    decide
  have works := links_of_listing listed (sendable_usual "/srv") split shown
    (entries_onePage ▸ List.mem_singleton_self _) (by decide)
  obtain ⟨-, -, found, -, answered⟩ := works
  obtain ⟨media, -, whole⟩ := answered ⟨.regular, 3, ⟨0, 0⟩⟩ () rfl rfl rfl
  have request := whole ⟨"GET", ⟨"/a.txt", none⟩, []⟩ "b" rfl rfl rfl
  exact ⟨found rfl, media, request.2 onePageSite _ .fresh 0 ⟨"", Root.usual "/srv"⟩ rfl rfl rfl⟩

/-- The link of a directory may lead to a page that lies deeper than in the directory: an index name
    may have a slash. -/
theorem link_may_lead_deeper :
    (traverse deepPage deepRoot [""]).value = .listing ⟨"/srv", true⟩ ∧
    ⟨"d", true, 0, none⟩ ∈ (entries deepPage deepRoot ⟨"/srv", true⟩ none).value ∧
    deepRoot.processors.lookup "d" = none ∧ deepRoot.Sendable ∧
    ¬((traverse deepPage deepRoot ["d", ""]).value = .listing ⟨"/srv/d", true⟩ ∨
      ∃ name n, '/' ∉ name.toList ∧ n.path = FilePath.join "/srv/d" name ∧
        (traverse deepPage deepRoot ["d", ""]).value.node? = some n) := by
  have rows : (entries deepPage deepRoot ⟨"/srv", true⟩ none).value = [⟨"d", true, 0, none⟩] := by decide +kernel
  have outcome : (traverse deepPage deepRoot ["d", ""]).value = .node ⟨"/srv/d/s/i.html", false⟩ := by
    decide
  have usual := sendable_usual "/srv"
  refine ⟨by decide, by rw [rows]; exact List.mem_singleton_self _, by decide,
    ⟨usual.types, usual.encodings, usual.defaultType⟩, ?_⟩
  rw [outcome]
  rintro (listing | ⟨name, n, free, inside, same⟩)
  · cases listing
  · cases same
    exact deepPage_not_inside free inside.symm

end StaticSite.Site
