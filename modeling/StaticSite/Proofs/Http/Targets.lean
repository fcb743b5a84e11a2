/-
  REQUEST TARGETS: a path and a query that were read are read again.

  Whatever a target is read as has only characters that a path and a query may have
  (`wellFormed_of_parse`), and none of these ends a path or a query.  So a path of such characters
  and a query of such, put together, can be told apart (`text_inj`) and are read as they were
  (`readPath_of_chars`), and the target that a client is sent to is read as its path with a slash
  behind it (`parse?_withSlash`).

  Numbered structure:
    §1  what a target is read as
    §2  reading it again
-/
import StaticSite.Proofs.Text.Fields
import StaticSite.Site.Serve

namespace StaticSite.Http.Uri

/-! ## §1 What a target is read as -/

/-- Path and query have the characters that they may have. -/
structure WellFormed (uri : Uri) : Prop where
  path : ∀ c ∈ uri.path.toList, isPathChar c = true
  query : ∀ q, uri.query = some q → ∀ c ∈ q.toList, isQueryChar c = true

/-- The parts that a target is cut into are tested; a blank path stands for a slash. -/
theorem wellFormed_of_parts {path : List Char} {query : Option (List Char)} {uri : Uri}
    (h : (if path.all isPathChar && (query.getD []).all isQueryChar then
      some (⟨if path.isEmpty then "/" else String.ofList path, query.map String.ofList⟩ : Uri)
      else none) = some uri) : uri.WellFormed := by
  split at h
  next allowed =>
    cases h
    obtain ⟨hpath, hquery⟩ := (Bool.and_eq_true _ _).mp allowed
    have slash : isPathChar '/' = true := by decide
    refine ⟨?_, ?_⟩
    · dsimp only
      split
      · exact List.forall_mem_singleton.2 slash
      · rw [String.toList_ofList]
        exact List.all_eq_true.1 hpath
    · intro q hq
      obtain ⟨chars, rfl, rfl⟩ := Option.map_eq_some_iff.1 hq
      rw [String.toList_ofList]
      exact List.all_eq_true.1 hquery
  next => cases h

theorem wellFormed_of_readPath {s : List Char} {uri : Uri} (h : readPath s = some uri) :
    uri.WellFormed := by
  dsimp only [readPath] at h
  split at h
  next => exact wellFormed_of_parts h
  next => exact @wellFormed_of_parts _ none uri h

theorem wellFormed_of_readFull {s : List Char} {uri : Uri} (h : readFull s = some uri) :
    uri.WellFormed := by
  unfold readFull at h
  split at h
  next => cases h
  next absolute rest _ =>
    split at h
    next => cases h
    next after _ =>
      split at h
      next =>
        split at h
        next => cases h
        next => exact wellFormed_of_readPath h
      next =>
        split at h
        next =>
          cases h
          exact ⟨List.forall_mem_nil _, by rintro q ⟨⟩⟩
        next => cases h

/-- Whatever a target is read as is well-formed. -/
theorem wellFormed_of_parse {text : String} {uri : Uri} (h : parse? text = some uri) :
    uri.WellFormed := by
  unfold parse? at h
  split at h
  next => cases h
  next =>
    cases h
    have asterisk : isPathChar '*' = true := by decide
    exact ⟨List.forall_mem_singleton.2 asterisk, nofun⟩
  next =>
    split at h
    next => cases h
    next => exact wellFormed_of_readPath h
  next =>
    split at h
    next => cases h
    next => exact wellFormed_of_readFull h

/-! ## §2 Reading it again -/

/-- Characters of a path end neither a path nor a target. -/
theorem ne_of_isPathChar {c : Char} (h : isPathChar c = true) : c ≠ '?' ∧ c ≠ '#' := by
  constructor <;> rintro rfl <;> exact absurd h (by decide)

theorem ne_of_isQueryChar {c : Char} (h : isQueryChar c = true) : c ≠ '#' := by
  rintro rfl
  exact absurd h (by decide)

/-- Path and query of a text, which a question mark divides. -/
def ofText (text : String) : Uri :=
  match Text.cut? '?' text.toList with
  | some (path, query) => ⟨String.ofList path, some (String.ofList query)⟩
  | none => ⟨text, none⟩

theorem ofText_text {uri : Uri} (wellFormed : uri.WellFormed) : ofText uri.text = uri := by
  have free : '?' ∉ uri.path.toList := fun mem => (ne_of_isPathChar (wellFormed.path _ mem)).1 rfl
  obtain ⟨path, query⟩ := uri
  cases query with
  | none =>
    show ofText path = _
    rw [ofText, Text.cut?_of_not_mem free]
  | some q =>
    have parts : (path ++ "?" ++ q).toList = path.toList ++ '?' :: q.toList := by
      rw [String.toList_append, String.toList_append, List.append_assoc]
      rfl
    show ofText (path ++ "?" ++ q) = _
    rw [ofText, parts, Text.cut?_append_cons free]
    dsimp only
    rw [String.ofList_toList, String.ofList_toList]

/-- Path and query can be told from what was sent of them. -/
theorem text_inj {uri uri' : Uri} (wellFormed : uri.WellFormed) (wellFormed' : uri'.WellFormed)
    (h : uri.text = uri'.text) : uri = uri' := by
  rw [← ofText_text wellFormed, h, ofText_text wellFormed']

theorem takeWhile_eq_self {p : Char → Bool} {l : List Char} (h : ∀ c ∈ l, p c = true) :
    l.takeWhile p = l := by
  have whole : (l ++ []).takeWhile p = l ++ [].takeWhile p := List.takeWhile_append_of_pos h
  rwa [List.append_nil, List.takeWhile_nil, List.append_nil] at whole

/-- A path that is not blank and a query, put together, are read as they were. -/
theorem readPath_of_chars {path : List Char} (some : path ≠ [])
    (hpath : ∀ c ∈ path, isPathChar c = true) {query : Option (List Char)}
    (hquery : ∀ q, query = .some q → ∀ c ∈ q, isQueryChar c = true) :
    readPath (path ++ (query.map ('?' :: ·)).getD [])
      = .some ⟨String.ofList path, query.map String.ofList⟩ := by
  have free : '?' ∉ path := fun h => (ne_of_isPathChar (hpath _ h)).1 rfl
  have whole : (path ++ (query.map ('?' :: ·)).getD []).takeWhile (· != '#')
      = path ++ (query.map ('?' :: ·)).getD [] := by
    refine takeWhile_eq_self fun c hc => bne_iff_ne.2 ?_
    rcases List.mem_append.1 hc with inPath | inQuery
    · exact (ne_of_isPathChar (hpath c inPath)).2
    · cases query with
      | none => cases inQuery
      | some q =>
        rcases List.mem_cons.1 inQuery with rfl | inQuery
        · decide
        · exact ne_of_isQueryChar (hquery q rfl c inQuery)
  have notBlank : path.isEmpty = false := Bool.eq_false_iff.2 (mt List.isEmpty_iff.1 some)
  have tested : path.all isPathChar = true := List.all_eq_true.2 hpath
  unfold readPath
  rw [whole]
  cases query with
  | none =>
    simp only [Option.map_none, Option.getD_none, List.append_nil, Text.cut?_of_not_mem free]
    simp only [tested, notBlank]
    rfl
  | some q =>
    have tested' : q.all isQueryChar = true := List.all_eq_true.2 (hquery q rfl)
    simp only [Option.map_some, Option.getD_some, Text.cut?_append_cons free, tested, tested', notBlank]
    rfl

/-- The target that a client is sent to is read as the path that it asked for, with a slash behind it,
    unless it is too long for a target. -/
theorem parse?_withSlash {uri : Uri} (wellFormed : uri.WellFormed)
    (start : uri.path = "" ∨ ∃ rest, uri.path.toList = '/' :: rest)
    (short : (Site.withSlash uri).utf8ByteSize ≤ longestTarget) :
    parse? (Site.withSlash uri) = some ⟨uri.path ++ "/", uri.query⟩ := by
  have chars : (Site.withSlash uri).toList
      = (uri.path ++ "/").toList ++ ((uri.query.map String.toList).map ('?' :: ·)).getD [] := by
    unfold Site.withSlash
    cases uri.query with
    | none => simp
    | some q => simp
  have slash : ∃ rest, (uri.path ++ "/").toList = '/' :: rest := by
    rcases start with blank | ⟨rest, hrest⟩
    · exact ⟨[], by rw [blank]; rfl⟩
    · exact ⟨rest ++ ['/'], by rw [String.toList_append, hrest]; rfl⟩
  have hpath : ∀ c ∈ (uri.path ++ "/").toList, isPathChar c = true := by
    intro c hc
    rw [String.toList_append] at hc
    rcases List.mem_append.1 hc with inPath | last
    · exact wellFormed.path c inPath
    · rw [List.mem_singleton.1 last]
      decide
  have hquery : ∀ q, uri.query.map String.toList = some q → ∀ c ∈ q, isQueryChar c = true := by
    intro q hq
    obtain ⟨text, htext, rfl⟩ := Option.map_eq_some_iff.1 hq
    exact wellFormed.query text htext
  obtain ⟨rest, hrest⟩ := slash
  have read := readPath_of_chars (hrest ▸ List.cons_ne_nil '/' rest) hpath hquery
  have query : (uri.query.map String.toList).map String.ofList = uri.query := by
    cases uri.query with
    | none => rfl
    | some q => exact congrArg some String.ofList_toList
  have begins := chars
  rw [hrest, List.cons_append] at begins
  unfold parse?
  rw [begins]
  show (if _ > longestTarget then none else readPath ('/' :: _)) = _
  rw [if_neg (Nat.not_lt.2 short), ← begins, chars, read, String.ofList_toList, query]

end StaticSite.Http.Uri
