/-
  SPLITTING: a request path is cut at its slashes, and then the escapes of each piece are undone once.

  1. What a piece is read as is said by the escapes in it alone: the segment is the text whose bytes are
     left when they are undone (`readSegment?_eq_some_iff`), and there is none if these bytes spell no
     text (`readSegment?_eq_none_iff`).
  2. A path is read piece by piece (`splitSegments_eq_some_iff`), so it has a segment for each of its
     slashes (`length_fields`); an escaped slash is none of them.
  3. Segments that were escaped in any way that leaves no slash are the pieces of the path they are put
     together to, and are read back (`splitSegments_undoes_escapes`).

  There is no such path for no segments at all: a lone slash is the path of one blank segment
  (`lone_slash_is_a_segment`).
-/
import Mathlib.Data.List.Forall2
import StaticSite.Proofs.Site.Segments
import StaticSite.Proofs.Text.Marks
import StaticSite.Proofs.Text.Unescaping

namespace StaticSite

/-! ## Pieces -/

namespace Text

/-- The bytes spell a text. -/
def IsText (bytes : Bytes) : Prop := ∃ text : String, utf8 text = bytes

end Text

namespace Site

open Text (Escapes Unescapes IsSplit IsText encode utf8)

/-- A piece is read as the text that its bytes spell when their escapes are undone. -/
theorem readSegment?_eq_some_iff {raw : List Char} {segment : String} :
    readSegment? raw = some segment ↔ Unescapes (encode raw) (utf8 segment) := by
  rw [← Text.percentDecode_eq_iff, readSegment?, Option.map_eq_some_iff]
  constructor
  · rintro ⟨text, htext, rfl⟩
    rw [utf8, String.toList_ofList]
    exact (Text.decode?_eq_some_iff.1 htext).symm
  · intro h
    exact ⟨segment.toList, Text.decode?_eq_some_iff.2 h.symm, String.ofList_toList⟩

/-- It is not read if they spell no text. -/
theorem readSegment?_eq_none_iff {raw : List Char} : readSegment? raw = none ↔
    ∃ bytes, Unescapes (encode raw) bytes ∧ ¬IsText bytes := by
  constructor
  · intro h
    refine ⟨_, Text.unescapes_percentDecode _, ?_⟩
    rintro ⟨segment, hbytes⟩
    rw [readSegment?_eq_some_iff.2 (Text.percentDecode_eq_iff.1 hbytes.symm)] at h
    cases h
  · rintro ⟨bytes, undone, noText⟩
    cases h : readSegment? raw with
    | none => rfl
    | some segment =>
      have same := Text.percentDecode_eq_iff.2 (readSegment?_eq_some_iff.1 h)
      exact absurd ⟨segment, same.symm.trans (Text.percentDecode_eq_iff.2 undone)⟩ noText

/-! ## Paths -/

/-- A list is read element by element. -/
theorem mapM_eq_some_iff {α β : Type} {f : α → Option β} {l : List α} {results : List β} :
    l.mapM f = some results ↔ List.Forall₂ (fun a b => f a = some b) l results := by
  induction l generalizing results with
  | nil =>
    rw [List.forall₂_nil_left_iff]
    constructor
    · rintro ⟨⟩
      rfl
    · rintro rfl
      rfl
  | cons a rest ih =>
    rw [List.mapM_cons, Option.bind_eq_bind, Option.bind_eq_some_iff]
    constructor
    · rintro ⟨first, hfirst, h⟩
      obtain ⟨others, hothers, ⟨⟩⟩ := Option.bind_eq_some_iff.1 h
      exact .cons hfirst (ih.1 hothers)
    · rintro (_ | ⟨hfirst, hothers⟩)
      exact ⟨_, hfirst, Option.bind_eq_some_iff.2 ⟨_, ih.2 hothers, rfl⟩⟩

theorem mapM_eq_none_iff {α β : Type} {f : α → Option β} {l : List α} :
    l.mapM f = none ↔ ∃ a ∈ l, f a = none := by
  induction l with
  | nil => exact ⟨nofun, nofun⟩
  | cons a rest ih =>
    rw [List.mapM_cons, List.exists_mem_cons_iff, ← ih]
    cases f a with
    | none => exact ⟨fun _ => .inl rfl, fun _ => rfl⟩
    | some first =>
      cases rest.mapM f with
      | none => exact ⟨fun _ => .inr rfl, fun _ => rfl⟩
      | some others => exact ⟨nofun, nofun⟩

/-- A path is read piece by piece. -/
theorem splitSegments_eq_some_iff {path : String} {rest : List Char} {pieces : List (List Char)}
    (h : path.toList = '/' :: rest) (split : IsSplit '/' rest pieces) {segments : List String} :
    splitSegments path = some segments ↔
      List.Forall₂ (fun piece segment => Unescapes (encode piece) (utf8 segment)) pieces segments := by
  rw [splitSegments_of_slash h, Text.fields_eq_iff.2 split, mapM_eq_some_iff]
  simp only [readSegment?_eq_some_iff]

theorem splitSegments_eq_none_iff {path : String} {rest : List Char} {pieces : List (List Char)}
    (h : path.toList = '/' :: rest) (split : IsSplit '/' rest pieces) :
    splitSegments path = none ↔
      ∃ piece ∈ pieces, ∃ bytes, Unescapes (encode piece) bytes ∧ ¬IsText bytes := by
  rw [splitSegments_of_slash h, Text.fields_eq_iff.2 split, mapM_eq_none_iff]
  simp only [readSegment?_eq_none_iff]

/-- Escaped segments have no slashes. -/
theorem free_of_escapes {segments raws : List String}
    (h : List.Forall₂ (fun segment raw => Escapes (utf8 segment) (utf8 raw)) segments raws) :
    ∀ raw ∈ raws, '/' ∉ raw.toList := by
  induction h with
  | nil => exact List.forall_mem_nil _
  | cons first _ ih =>
    have free : '/' ∉ String.toList _ := mt (Text.mem_encode_iff (by decide)).2 first.not_mem
    exact List.forall_mem_cons.2 ⟨free, ih⟩

/-- With slashes between them they are the pieces of a path. -/
theorem isSplit_of_escapes {segments raws : List String} (some : segments ≠ [])
    (h : List.Forall₂ (fun segment raw => Escapes (utf8 segment) (utf8 raw)) segments raws) :
    IsSplit '/' ("/".intercalate raws).toList (raws.map String.toList) := by
  refine ⟨?_, ?_, String.toList_intercalate⟩
  · cases h with
    | nil => exact absurd rfl some
    | cons => exact List.cons_ne_nil _ _
  · rw [List.forall_mem_map]
    exact free_of_escapes h

/-- A path made of escaped segments is read as these segments, whatever was escaped in them besides the
    slash and the percent sign.  Any path that begins with a slash is read as one segment for each of
    its slashes: the pieces between them, the escapes in each undone once; and it is not read exactly if
    some piece spells no text then. -/
theorem splitSegments_undoes_escapes :
    (∀ segments raws : List String, segments ≠ [] →
      List.Forall₂ (fun segment raw => Escapes (utf8 segment) (utf8 raw)) segments raws →
      splitSegments ("/" ++ "/".intercalate raws) = some segments) ∧
    ∀ (path : String) (rest : List Char), path.toList = '/' :: rest →
      ∃ pieces, IsSplit '/' rest pieces ∧
        (∀ segments, splitSegments path = some segments ↔
          List.Forall₂ (fun piece segment => Unescapes (encode piece) (utf8 segment)) pieces segments) ∧
        (∀ segments, splitSegments path = some segments → segments.length = path.toList.count '/') ∧
        (splitSegments path = none ↔
          ∃ piece ∈ pieces, ∃ bytes, Unescapes (encode piece) bytes ∧ ¬IsText bytes) := by
  constructor
  · intro segments raws some escaped
    have slash : ("/" ++ "/".intercalate raws).toList = '/' :: ("/".intercalate raws).toList := by
      rw [String.toList_append]
      rfl
    rw [splitSegments_eq_some_iff slash (isSplit_of_escapes some escaped), List.forall₂_map_left_iff]
    exact escaped.flip.imp fun _ _ h => h.unescapes
  · intro path rest slash
    have split : IsSplit '/' rest (Text.fields '/' rest) := Text.fields_eq_iff.1 rfl
    refine ⟨_, split, fun _ => splitSegments_eq_some_iff slash split, ?_,
      splitSegments_eq_none_iff slash split⟩
    intro segments h
    rw [← ((splitSegments_eq_some_iff slash split).1 h).length_eq, Text.length_fields, slash,
      List.count_cons_self]

example : splitSegments "/%2e%2E/a%252Fb" = some ["..", "a%2Fb"] := by decide +kernel

/-- No segments have no path that begins with a slash: a lone slash is one blank segment. -/
theorem lone_slash_is_a_segment :
    splitSegments ("/" ++ "/".intercalate []) = some [""] ∧
    ¬∀ segments raws : List String,
      List.Forall₂ (fun segment raw => Escapes (utf8 segment) (utf8 raw)) segments raws →
      splitSegments ("/" ++ "/".intercalate raws) = some segments := by
  have blank : splitSegments ("/" ++ "/".intercalate []) = some [""] := by decide +kernel
  refine ⟨blank, fun h => ?_⟩
  cases blank.symm.trans (h [] [] .nil)

end Site

end StaticSite
