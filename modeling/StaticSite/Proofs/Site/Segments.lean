/-
  SEGMENTS: how a request path is put together and cut again.

  A path is cut before escapes are undone, so each segment is read by itself (`readSegment?`), and
  one that was written as a link has no slash (`not_mem_linkText`) and is read back as the name it
  was written from (`readSegment?_linkText`).

  A slash at the end adds a blank segment (`splitSegments_append_slash`); a relative link that is
  followed from there takes its place (`splitSegments_link`).

  Numbered structure:
    §1  one segment
    §2  names as links
    §3  paths
-/
import StaticSite.Proofs.Text.Fields
import StaticSite.Proofs.Text.RoundTrip
import StaticSite.Site.Respond

namespace StaticSite.Site

/-! ## §1 One segment -/

/-- The segment that stands between two slashes, its escapes undone. -/
def readSegment? (raw : List Char) : Option String :=
  (Text.decode? (Text.percentDecode (Text.encode raw))).map String.ofList

/-- A path is cut first; then each segment is read. -/
theorem splitSegments_of_slash {below : String} {rest : List Char} (h : below.toList = '/' :: rest) :
    splitSegments below = (Text.fields '/' rest).mapM readSegment? := by
  rw [splitSegments, h]
  rfl

theorem splitSegments_of_empty : splitSegments "" = some [] := rfl

theorem readSegment?_nil : readSegment? [] = some "" := by
  have none : Text.decode? [] = some [] := Text.decode?_encode []
  exact congrArg (Option.map String.ofList) none

/-- Only between two slashes with nothing between them there is a blank segment. -/
theorem eq_nil_of_readSegment?_blank {raw : List Char} (h : readSegment? raw = some "") :
    raw = [] := by
  obtain ⟨text, htext, hblank⟩ := Option.map_eq_some_iff.1 h
  have blank : text = [] := by
    rw [← String.toList_ofList (l := text), hblank]
    rfl
  subst blank
  cases raw with
  | nil => rfl
  | cons c rest =>
    have some := Text.percentDecode_ne_nil (Text.encode_ne_nil (List.cons_ne_nil c rest))
    exact absurd (Text.decode?_eq_some_iff.1 htext).symm some

/-! ## §2 Names as links -/

/-- Letters and digits are ASCII. -/
theorem toNat_lt_of_isAlphanum {c : Char} (h : c.isAlphanum = true) : c.toNat < 0x80 := by
  have below {high : UInt32} (small : high.toNat < 0x80) (within : c.val ≤ high) : c.toNat < 0x80 :=
    Nat.lt_of_le_of_lt (UInt32.le_iff_toNat_le.1 within) small
  rcases Bool.or_eq_true_iff.1 h with letter | digit
  · rcases Bool.or_eq_true_iff.1 letter with upper | lower
    · exact below (by decide) (of_decide_eq_true upper).2
    · exact below (by decide) (of_decide_eq_true (Bool.and_eq_true_iff.1 lower).2)
  · exact below (by decide) (of_decide_eq_true (Bool.and_eq_true_iff.1 digit).2)

/-- The characters that stand for themselves in a link are ASCII, and no escape begins with them. -/
theorem ascii_of_isPlainInLink {c : Char} (h : isPlainInLink c = true) :
    c.toNat < 0x80 ∧ c ≠ '%' := by
  refine ⟨?_, ?_⟩
  · simp only [isPlainInLink, Bool.or_eq_true, beq_iff_eq] at h
    rcases h with ((((alphanumeric | rfl) | rfl) | rfl) | rfl) | rfl
    · exact toNat_lt_of_isAlphanum alphanumeric
    all_goals decide
  · rintro rfl
    exact absurd h (by decide)

/-- No digit of an escape is a slash. -/
theorem not_mem_escapedByte (b : UInt8) : '/' ∉ Text.escapedByte b := by
  have small := b.toNat_lt
  have digit : ∀ n < 16, '/' ≠ Text.upperHexDigit n := by decide
  have hi := digit (b.toNat / 16) (by omega)
  have lo := digit (b.toNat % 16) (by omega)
  simp only [Text.escapedByte, List.mem_cons, not_or]
  exact ⟨by decide, hi, lo, List.not_mem_nil⟩

/-- A link to a name without a slash has none. -/
theorem not_mem_linkText {name : String} (free : '/' ∉ name.toList) :
    '/' ∉ (linkText name).toList := by
  rw [linkText, String.toList_ofList]
  intro h
  obtain ⟨c, hc, h⟩ := List.mem_flatMap.1 h
  split at h
  next =>
    rw [List.mem_singleton] at h
    exact free (h ▸ hc)
  next =>
    obtain ⟨b, -, hb⟩ := List.mem_flatMap.1 h
    exact not_mem_escapedByte b hb

/-- A link is read as the name that it was written from. -/
theorem readSegment?_linkText (name : String) :
    readSegment? (linkText name).toList = some name := by
  have back : Text.decode? (Text.percentDecode (Text.encode (linkText name).toList))
      = some name.toList := by
    rw [linkText, String.toList_ofList,
      Text.percentDecode_percentEncode (fun _ h => ascii_of_isPlainInLink h), Text.decode?_encode]
  rw [readSegment?, back]
  exact congrArg some String.ofList_toList

/-! ## §3 Paths -/

/-- A part of a list is read as a part of the result. -/
theorem mapM_append_some {α β : Type} {f : α → Option β} {l l' : List α} {results results' : List β}
    (h : l.mapM f = some results) (h' : l'.mapM f = some results') :
    (l ++ l').mapM f = some (results ++ results') := by
  rw [List.mapM_append, h, h']
  rfl

/-- What is read last comes from what stands last. -/
theorem exists_of_mapM_concat {α β : Type} {f : α → Option β} {l : List α} {results : List β} {b : β}
    (h : l.mapM f = some (results ++ [b])) :
    ∃ before a, l = before ++ [a] ∧ before.mapM f = some results ∧ f a = some b := by
  rcases List.eq_nil_or_concat l with rfl | ⟨before, a, rfl⟩
  · exact absurd (Option.some.inj h) (by simp)
  · rw [List.concat_eq_append] at h ⊢
    rw [List.mapM_append] at h
    obtain ⟨results', hbefore, h⟩ := Option.bind_eq_some_iff.1 h
    obtain ⟨last, ha, h⟩ := Option.bind_eq_some_iff.1 h
    rw [List.mapM_cons] at ha
    obtain ⟨b', hb', ha⟩ := Option.bind_eq_some_iff.1 ha
    cases ha
    obtain ⟨hresults, hlast⟩ := List.append_inj' (Option.some.inj h) rfl
    cases hresults
    cases hlast
    exact ⟨before, a, rfl, hbefore, hb'⟩

/-- A path with segments begins with a slash. -/
theorem exists_of_splitSegments {below : String} {segments : List String}
    (h : splitSegments below = some segments) (some : segments ≠ []) :
    ∃ rest, below.toList = '/' :: rest := by
  unfold splitSegments at h
  split at h
  next rest hrest => exact ⟨rest, hrest⟩
  next => exact absurd (Option.some.inj h).symm some

/-- A slash at the end adds a blank segment. -/
theorem splitSegments_append_slash {below : String} {segments : List String}
    (start : below = "" ∨ ∃ rest, below.toList = '/' :: rest)
    (h : splitSegments below = some segments) :
    splitSegments (below ++ "/") = some (segments ++ [""]) := by
  have blank : [([] : List Char)].mapM readSegment? = some [""] := by
    rw [List.mapM_cons, readSegment?_nil]
    rfl
  rcases start with rfl | ⟨rest, hrest⟩
  · cases h
    have slash : ("" ++ "/").toList = '/' :: [] := rfl
    rw [splitSegments_of_slash slash]
    exact blank
  · have slash : (below ++ "/").toList = '/' :: (rest ++ '/' :: []) := by
      rw [String.toList_append, hrest]
      rfl
    rw [splitSegments_of_slash slash, Text.fields_append_cons]
    rw [splitSegments_of_slash hrest] at h
    exact mapM_append_some h blank

/-- What follows a slash at the end takes the place of the blank segment. -/
theorem splitSegments_append {below : String} {segments : List String}
    (h : splitSegments below = some (segments ++ [""])) (more : String) {others : List String}
    (hmore : (Text.fields '/' more.toList).mapM readSegment? = some others) :
    splitSegments (below ++ more) = some (segments ++ others) := by
  obtain ⟨rest, hrest⟩ := exists_of_splitSegments h (List.append_ne_nil_of_right_ne_nil _ (by decide))
  rw [splitSegments_of_slash hrest] at h
  obtain ⟨before, last, hfields, hbefore, hlast⟩ := exists_of_mapM_concat h
  rw [eq_nil_of_readSegment?_blank hlast] at hfields
  have slash : (below ++ more).toList = '/' :: (rest ++ more.toList) := by
    rw [String.toList_append, hrest]
    rfl
  rw [splitSegments_of_slash slash, Text.fields_append_of_open hfields]
  exact mapM_append_some hbefore hmore

/-- A link that is followed from a path with a slash at its end leads to the name that it was
    written from. -/
theorem splitSegments_link {below : String} {segments : List String}
    (h : splitSegments below = some (segments ++ [""])) {name : String} (free : '/' ∉ name.toList) :
    splitSegments (below ++ linkText name) = some (segments ++ [name]) := by
  refine splitSegments_append h _ ?_
  rw [Text.fields_of_not_mem (not_mem_linkText free), List.mapM_cons, readSegment?_linkText]
  rfl

end StaticSite.Site
