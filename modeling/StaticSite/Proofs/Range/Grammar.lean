/-
  THE GRAMMAR: which texts are Range headers, and what they say.

  A header has a unit in front of its first `=`, and entries between the commas behind it; an entry
  has a bound on either side of its first hyphen; a bound is nothing or decimal digits.  Blanks around
  units, entries and bounds do not count, nor do entries that are empty.  §1 says so in relations
  between a text and what it says, without reading it (`IsBound`, `IsEntry`, `IsHeader`), and which
  error names what is wrong with a text (`IsFault`, `IsRefusal`).

  §2 has a law for each reader: it accepts what the relation allows, and refuses the rest for the
  reason given there (`parseEntry_eq_ok_iff`, `parseEntry_eq_error_iff`, …).  §3 writes specs with any
  blanks and any empty entries between them, and every such text is in the grammar
  (`Layout.isHeader`).

  Numbered structure:
    §1  texts and what they say
    §2  what is read
    §3  what can be written
-/
import StaticSite.Proofs.Range.Clip
import StaticSite.Proofs.Text.Fields
import StaticSite.Proofs.Text.Trimming

namespace StaticSite.Range

open Text (Blanks IsCut IsSplit IsTrimmed)

/-! ## §1 Texts and what they say -/

/-- A bound: absent if nothing is written, else the value of decimal digits, which is a word. -/
inductive IsBound : List Char → Option UInt64 → Prop
  | absent : IsBound [] none
  | digits {text : List Char} {n : UInt64} (written : text ≠ [])
      (digits : ∀ c ∈ text, c.isDigit = true)
      (value : Nat.ofDigitChars 10 text 0 = n.toNat) : IsBound text (some n)

/-- One side of an entry: a bound between blanks. -/
def IsSide (side : List Char) (bound : Option UInt64) : Prop :=
  ∃ text, IsTrimmed side text ∧ IsBound text bound

/-- An entry: the bounds of a spec around its first hyphen, at least one of them, and in order. -/
def IsEntry (entry : List Char) (spec : Spec) : Prop :=
  ∃ left right, IsCut '-' entry left right ∧ IsSide left spec.first ∧ IsSide right spec.last ∧
    spec.Ordered

/-- What is wrong with a text that is no entry.  Each error carries the whole text. -/
inductive IsFault (entry : List Char) : HeaderError → Prop
  | malformedSpec (free : '-' ∉ entry) : IsFault entry (.malformedSpec (String.ofList entry))
  | notANumber {left right : List Char} (cut : IsCut '-' entry left right)
      (unread : (∀ bound, ¬IsSide left bound) ∨ ∀ bound, ¬IsSide right bound) :
      IsFault entry (.notANumber (String.ofList entry))
  | missingBound {left right : List Char} (cut : IsCut '-' entry left right) (first : IsSide left none)
      (last : IsSide right none) : IsFault entry (.missingBound (String.ofList entry))
  | invalidOrder {left right : List Char} {first last : UInt64} (cut : IsCut '-' entry left right)
      (hfirst : IsSide left (some first)) (hlast : IsSide right (some last)) (crossed : last < first) :
      IsFault entry (.invalidOrder (String.ofList entry))

/-- The entries of a text: what is written between its commas, without the blanks around it, where
    there is anything else. -/
def AreEntries (value : List Char) (entries : List (List Char)) : Prop :=
  ∃ pieces trimmed, IsSplit ',' value pieces ∧ List.Forall₂ IsTrimmed pieces trimmed ∧
    entries = trimmed.filter fun entry => !entry.isEmpty

/-- A header: a unit between blanks in front of its first equals sign, and entries behind it. -/
def IsHeader (header unit : List Char) (entries : List (List Char)) : Prop :=
  ∃ front value, IsCut '=' header front value ∧ IsTrimmed front unit ∧ AreEntries value entries

/-- What is wrong with a text that is no header: as a whole, or with its first entry that is none. -/
inductive IsRefusal (header : List Char) : HeaderError → Prop
  | missingEquals (free : '=' ∉ header) : IsRefusal header .missingEquals
  | unsupportedUnit {unit : List Char} {entries : List (List Char)}
      (shape : IsHeader header unit entries) (other : unit ≠ bytesUnit) : IsRefusal header (.unsupportedUnit (String.ofList unit))
  | empty (shape : IsHeader header bytesUnit []) : IsRefusal header .empty
  | entry {before behind : List (List Char)} {entry : List Char} {specs : List Spec} {e : HeaderError}
      (shape : IsHeader header bytesUnit (before ++ entry :: behind))
      (good : List.Forall₂ IsEntry before specs) (bad : IsFault entry e) : IsRefusal header e

/-! ## §2 What is read -/

theorem parseBound_eq_some_iff {text : List Char} {bound : Option UInt64} :
    parseBound text = some bound ↔ IsBound text bound := by
  unfold parseBound
  constructor
  · intro h
    split at h
    next empty =>
      cases h
      rw [List.isEmpty_iff.1 empty]
      exact .absent
    next written =>
      split at h
      next reads =>
        cases h
        obtain ⟨digits, small⟩ := Bool.and_eq_true_iff.1 reads
        refine .digits (mt List.isEmpty_iff.2 written) (List.all_eq_true.1 digits) ?_
        rw [← natOfDigits_eq, UInt64.toNat_ofNat_of_lt' (of_decide_eq_true small)]
      next => cases h
  · rintro (_ | ⟨written, digits, value⟩)
    · rfl
    · rw [← natOfDigits_eq] at value
      rw [if_neg (mt List.isEmpty_iff.1 written), if_pos, value, UInt64.ofNat_toNat]
      rw [List.all_eq_true.2 digits, value]
      exact decide_eq_true (UInt64.toNat_lt_size _)

theorem isSide_iff {side : List Char} {bound : Option UInt64} :
    IsSide side bound ↔ parseBound (Text.trim side) = some bound := by
  rw [parseBound_eq_some_iff]
  constructor
  · rintro ⟨text, trimmed, h⟩
    rw [Text.trim_eq_iff.2 trimmed]
    exact h
  · intro h
    exact ⟨Text.trim side, Text.isTrimmed_trim side, h⟩

theorem forall_not_isSide_iff {side : List Char} :
    (∀ bound, ¬IsSide side bound) ↔ parseBound (Text.trim side) = none := by
  rw [Option.eq_none_iff_forall_ne_some]
  simp only [isSide_iff, ne_eq]

theorem parseEntry_eq_ok_iff {entry : List Char} {spec : Spec} :
    parseEntry entry = .ok spec ↔ IsEntry entry spec := by
  constructor
  · intro h
    have ordered := ordered_of_parseEntry h
    unfold parseEntry at h
    dsimp only at h
    split at h
    next => cases h
    next left right cut =>
      have shape := Text.cut?_eq_some_iff.1 cut
      split at h
      next => cases h
      next first last hfirst hlast =>
        split at h
        next => cases h
        next =>
          cases h
          exact ⟨left, right, shape, isSide_iff.2 hfirst, isSide_iff.2 hlast, ordered⟩
      next first last _ _ hfirst hlast =>
        cases h
        exact ⟨left, right, shape, isSide_iff.2 hfirst, isSide_iff.2 hlast, ordered⟩
      next => cases h
  · rintro ⟨left, right, cut, hfirst, hlast, ordered⟩
    obtain ⟨first, last⟩ := spec
    rw [isSide_iff] at hfirst hlast
    unfold parseEntry
    rw [Text.cut?_eq_some_iff.2 cut]
    dsimp only
    rw [hfirst, hlast]
    cases first with
    | none =>
      cases last with
      | none => exact absurd ordered not_false
      | some last => rfl
    | some first =>
      cases last with
      | none => rfl
      | some last => exact if_neg (UInt64.not_lt.2 ordered)

theorem parseEntry_eq_error_iff {entry : List Char} {e : HeaderError} :
    parseEntry entry = .error e ↔ IsFault entry e := by
  constructor
  · intro h
    unfold parseEntry at h
    dsimp only at h
    split at h
    next uncut =>
      cases h
      exact .malformedSpec (Text.cut?_eq_none_iff.1 uncut)
    next left right cut =>
      have shape := Text.cut?_eq_some_iff.1 cut
      split at h
      next hfirst hlast =>
        cases h
        exact .missingBound shape (isSide_iff.2 hfirst) (isSide_iff.2 hlast)
      next first last hfirst hlast =>
        split at h
        next crossed =>
          cases h
          exact .invalidOrder shape (isSide_iff.2 hfirst) (isSide_iff.2 hlast) crossed
        next => cases h
      next => cases h
      next bothRead =>
        cases h
        apply IsFault.notANumber shape
        rw [forall_not_isSide_iff, forall_not_isSide_iff]
        cases hleft : parseBound (Text.trim left) with
        | none => exact .inl rfl
        | some first =>
          cases hright : parseBound (Text.trim right) with
          | none => exact .inr rfl
          | some last => exact absurd hright (bothRead first last hleft)
  · intro fault
    unfold parseEntry
    cases fault with
    | malformedSpec free => rw [Text.cut?_eq_none_iff.2 free]
    | notANumber cut unread =>
      rw [forall_not_isSide_iff, forall_not_isSide_iff] at unread
      rw [Text.cut?_eq_some_iff.2 cut]
      dsimp only
      rcases unread with hleft | hright
      · rw [hleft]
      · rw [hright]
        rcases parseBound (Text.trim _) with _ | _ | _ <;> rfl
    | missingBound cut first last =>
      rw [Text.cut?_eq_some_iff.2 cut]
      dsimp only
      rw [isSide_iff.1 first, isSide_iff.1 last]
    | invalidOrder cut hfirst hlast crossed =>
      rw [Text.cut?_eq_some_iff.2 cut]
      dsimp only
      rw [isSide_iff.1 hfirst, isSide_iff.1 hlast]
      exact if_pos crossed

theorem map_trim_eq_iff {pieces trimmed : List (List Char)} :
    pieces.map Text.trim = trimmed ↔ List.Forall₂ IsTrimmed pieces trimmed := by
  rw [← List.forall₂_eq_eq_eq, List.forall₂_map_left_iff]
  constructor
  · exact List.Forall₂.imp fun _ _ => Text.trim_eq_iff.1
  · exact List.Forall₂.imp fun _ _ => Text.trim_eq_iff.2

theorem entries_eq_iff {value : List Char} {found : List (List Char)} :
    entries value = found ↔ AreEntries value found := by
  constructor
  · rintro rfl
    exact ⟨Text.fields ',' value, _, Text.fields_eq_iff.1 rfl, map_trim_eq_iff.1 rfl, rfl⟩
  · rintro ⟨pieces, trimmed, split, htrimmed, rfl⟩
    rw [entries, Text.fields_eq_iff.2 split, map_trim_eq_iff.2 htrimmed]

/-- An equals sign is enough for a unit and entries, whatever they are. -/
theorem exists_isHeader {header : List Char} (mem : '=' ∈ header) :
    ∃ unit found, IsHeader header unit found := by
  obtain ⟨front, value, whole, free⟩ := List.eq_append_cons_of_mem mem
  exact ⟨Text.trim front, entries value, front, value, ⟨whole, free⟩, Text.isTrimmed_trim front,
    entries_eq_iff.1 rfl⟩

/-- What a header with such a unit and such entries is read as. -/
theorem parseHeader_of_isHeader {header : String} {unit : List Char} {found : List (List Char)}
    (shape : IsHeader header.toList unit found) :
    parseHeader header =
      if unit ≠ bytesUnit then .error (.unsupportedUnit (String.ofList unit))
      else found.mapM parseEntry >>= fun specs => if specs = [] then .error .empty else .ok specs := by
  obtain ⟨front, value, cut, htrimmed, hentries⟩ := shape
  unfold parseHeader
  rw [Text.cut?_eq_some_iff.2 cut]
  dsimp only
  rw [Text.trim_eq_iff.2 htrimmed, entries_eq_iff.2 hentries]
  congr 1
  rcases found.mapM parseEntry with e | _ | _ <;> rfl

theorem parseHeader_of_not_mem {header : String} (free : '=' ∉ header.toList) :
    parseHeader header = .error .missingEquals := by
  unfold parseHeader
  rw [Text.cut?_eq_none_iff.2 free]

theorem bind_eq_error_iff {α β ε : Type} {x : Except ε α} {f : α → Except ε β} {e : ε} :
    x >>= f = .error e ↔ x = .error e ∨ ∃ a, x = .ok a ∧ f a = .error e := by
  cases x with
  | error e' =>
    constructor
    · rintro ⟨⟩
      exact .inl rfl
    · rintro (⟨⟨⟩⟩ | ⟨_, ⟨⟩, _⟩)
      rfl
  | ok a =>
    constructor
    · intro h
      exact .inr ⟨a, rfl, h⟩
    · rintro (⟨⟨⟩⟩ | ⟨_, ⟨⟩, h⟩)
      exact h

/-- A walk over a list stops at the first element without a result. -/
theorem mapM_eq_error_iff {α β ε : Type} {f : α → Except ε β} {l : List α} {e : ε} :
    l.mapM f = .error e ↔ ∃ before a behind results, l = before ++ a :: behind ∧
      List.Forall₂ (fun a b => f a = .ok b) before results ∧ f a = .error e := by
  induction l with
  | nil =>
    constructor
    · rintro ⟨⟩
    · rintro ⟨before, a, behind, results, whole, -⟩
      exact absurd whole.symm (List.append_ne_nil_of_right_ne_nil before (List.cons_ne_nil a behind))
  | cons a rest ih =>
    rw [List.mapM_cons, bind_eq_error_iff]
    constructor
    · rintro (bad | ⟨first, hfirst, h⟩)
      · exact ⟨[], a, rest, [], rfl, .nil, bad⟩
      · rcases bind_eq_error_iff.1 h with h | ⟨_, -, ⟨⟩⟩
        obtain ⟨before, c, behind, results, rfl, good, bad⟩ := ih.1 h
        exact ⟨a :: before, c, behind, first :: results, rfl, .cons hfirst good, bad⟩
    · rintro ⟨before, c, behind, results, whole, good, bad⟩
      cases good with
      | nil =>
        cases whole
        exact .inl bad
      | cons hfirst good =>
        cases whole
        exact .inr ⟨_, hfirst, bind_eq_error_iff.2 (.inl (ih.2 ⟨_, c, behind, _, rfl, good, bad⟩))⟩

theorem parseHeader_eq_ok_iff {header : String} {specs : List Spec} :
    parseHeader header = .ok specs ↔ specs ≠ [] ∧
      ∃ found, IsHeader header.toList bytesUnit found ∧ List.Forall₂ IsEntry found specs := by
  constructor
  · intro h
    refine ⟨(ordered_of_parseHeader h).1, ?_⟩
    by_cases mem : '=' ∈ header.toList
    · obtain ⟨unit, found, shape⟩ := exists_isHeader mem
      rw [parseHeader_of_isHeader shape] at h
      split at h
      next => cases h
      next bytes =>
        obtain ⟨results, hmap, h⟩ := bind_eq_ok_iff.1 h
        split at h
        next => cases h
        next =>
          cases h
          rw [not_not.1 bytes] at shape
          exact ⟨found, shape, (mapM_eq_ok_iff.1 hmap).imp fun _ _ => parseEntry_eq_ok_iff.1⟩
    · rw [parseHeader_of_not_mem mem] at h
      cases h
  · rintro ⟨named, found, shape, read⟩
    have hmap : found.mapM parseEntry = .ok specs :=
      mapM_eq_ok_iff.2 (read.imp fun _ _ => parseEntry_eq_ok_iff.2)
    rw [parseHeader_of_isHeader shape, if_neg (not_not.2 rfl), bind_eq_ok_iff]
    exact ⟨specs, hmap, if_neg named⟩

theorem parseHeader_eq_error_iff {header : String} {e : HeaderError} :
    parseHeader header = .error e ↔ IsRefusal header.toList e := by
  constructor
  · intro h
    by_cases mem : '=' ∈ header.toList
    · obtain ⟨unit, found, shape⟩ := exists_isHeader mem
      rw [parseHeader_of_isHeader shape] at h
      split at h
      next other =>
        cases h
        exact .unsupportedUnit shape other
      next bytes =>
        rw [not_not.1 bytes] at shape
        rcases bind_eq_error_iff.1 h with hmap | ⟨results, hmap, h⟩
        · obtain ⟨before, entry, behind, specs, rfl, good, bad⟩ := mapM_eq_error_iff.1 hmap
          exact .entry shape (good.imp fun _ _ => parseEntry_eq_ok_iff.1)
            (parseEntry_eq_error_iff.1 bad)
        · split at h
          next nothing =>
            cases h
            rw [nothing, mapM_eq_ok_iff, List.forall₂_nil_right_iff] at hmap
            exact .empty (hmap ▸ shape)
          next => cases h
    · rw [parseHeader_of_not_mem mem] at h
      cases h
      exact .missingEquals mem
  · intro refusal
    cases refusal with
    | missingEquals free => exact parseHeader_of_not_mem free
    | unsupportedUnit shape other => rw [parseHeader_of_isHeader shape, if_pos other]
    | empty shape =>
      rw [parseHeader_of_isHeader shape]
      rfl
    | @entry before behind entry specs _ shape good bad =>
      have hmap : (before ++ entry :: behind).mapM parseEntry = .error e :=
        mapM_eq_error_iff.2 ⟨before, entry, behind, specs, rfl,
          good.imp fun _ _ => parseEntry_eq_ok_iff.2, parseEntry_eq_error_iff.2 bad⟩
      rw [parseHeader_of_isHeader shape, if_neg (not_not.2 rfl), hmap]
      rfl

/-! ## §3 What can be written -/

/-- The text of a bound: nothing, or its decimal digits. -/
def boundText : Option UInt64 → List Char
  | none => []
  | some n => Nat.toDigits 10 n.toNat

/-- What stands between two commas: blanks only, or a spec with blanks around its bounds. -/
inductive Piece
  | gap (blanks : Blanks)
  | range (spec : Spec) (ordered : spec.Ordered) (beforeFirst afterFirst beforeLast afterLast : Blanks)

/-- A bound between blanks. -/
def sideText (before : Blanks) (bound : Option UInt64) (after : Blanks) : List Char :=
  before.val ++ (boundText bound ++ after.val)

def Piece.text : Piece → List Char
  | .gap blanks => blanks.val
  | .range spec _ beforeFirst afterFirst beforeLast afterLast =>
    sideText beforeFirst spec.first afterFirst ++ '-' :: sideText beforeLast spec.last afterLast

def Piece.spec? : Piece → Option Spec
  | .gap _ => none
  | .range spec .. => some spec

/-- A way to write a header: the blanks around its unit, and what stands between its commas. -/
structure Layout where
  beforeUnit : Blanks
  afterUnit : Blanks
  pieces : List Piece

def Layout.text (layout : Layout) : String :=
  String.ofList (layout.beforeUnit.val ++ (bytesUnit ++ layout.afterUnit.val)
    ++ '=' :: [','].intercalate (layout.pieces.map Piece.text))

/-- The specs that are written, in order. -/
def Layout.specs (layout : Layout) : List Spec := layout.pieces.filterMap Piece.spec?

theorem isDigit_of_mem_boundText {bound : Option UInt64} :
    ∀ c ∈ boundText bound, c.isDigit = true := by
  cases bound with
  | none => exact nofun
  | some n => exact isDigit_of_mem_toDigits

theorem isBound_boundText (bound : Option UInt64) : IsBound (boundText bound) bound := by
  cases bound with
  | none => exact .absent
  | some n =>
    exact .digits Nat.toDigits_ne_nil isDigit_of_mem_toDigits (Nat.ofDigitChars_ten_toDigits)

theorem isSide_sideText (before : Blanks) (bound : Option UInt64) (after : Blanks) :
    IsSide (sideText before bound after) bound := by
  have solid : ∀ c ∈ boundText bound, Text.isBlank c = false := by
    intro c hc
    exact isBlank_of_isDigit (isDigit_of_mem_boundText c hc)
  exact ⟨boundText bound, Text.isTrimmed_between before after solid, isBound_boundText bound⟩

/-- A character that is neither blank nor digit stands on no side. -/
theorem not_mem_sideText {c : Char} (solid : Text.isBlank c = false) (other : c.isDigit = false)
    (before : Blanks) (bound : Option UInt64) (after : Blanks) : c ∉ sideText before bound after := by
  have digits : c ∉ boundText bound := by
    intro mem
    rw [isDigit_of_mem_boundText c mem] at other
    cases other
  exact List.not_mem_append (before.not_mem solid) (List.not_mem_append digits (after.not_mem solid))

theorem isEntry_text (spec : Spec) (ordered : spec.Ordered)
    (beforeFirst afterFirst beforeLast afterLast : Blanks) :
    IsEntry (Piece.range spec ordered beforeFirst afterFirst beforeLast afterLast).text spec :=
  ⟨_, _, ⟨rfl, not_mem_sideText (by decide) (by decide) _ _ _⟩, isSide_sideText _ _ _,
    isSide_sideText _ _ _, ordered⟩

/-- An entry without the blanks at its ends is the same entry: they are blanks of its sides. -/
theorem IsEntry.trim {text : List Char} {spec : Spec} (entry : IsEntry text spec) :
    IsEntry (Text.trim text) spec := by
  obtain ⟨left, right, ⟨rfl, free⟩, first, last, ordered⟩ := entry
  obtain ⟨before, hleft⟩ := Text.exists_append_trimStart left
  refine ⟨Text.trimStart left, Text.trimEnd right, ⟨?_, ?_⟩, ?_, ?_, ordered⟩
  · exact Text.trim_append_cons (by decide) left right
  · intro mem
    rw [hleft] at free
    exact free (List.mem_append_right _ mem)
  · rw [isSide_iff, Text.trim_trimStart]
    exact isSide_iff.1 first
  · rw [isSide_iff, Text.trim_trimEnd]
    exact isSide_iff.1 last

theorem IsEntry.ne_nil {entry : List Char} {spec : Spec} (h : IsEntry entry spec) : entry ≠ [] := by
  obtain ⟨left, right, cut, -⟩ := h
  rw [cut.whole]
  exact List.append_ne_nil_of_right_ne_nil _ (List.cons_ne_nil _ _)

/-- No comma stands between two commas. -/
theorem Piece.not_mem_text (piece : Piece) : ',' ∉ piece.text := by
  cases piece with
  | gap blanks => exact blanks.not_mem (by decide)
  | range spec ordered beforeFirst afterFirst beforeLast afterLast =>
    have side (before : Blanks) (bound : Option UInt64) (after : Blanks) :
        ',' ∉ sideText before bound after :=
      not_mem_sideText (by decide) (by decide) before bound after
    exact List.not_mem_append (side _ _ _) (List.not_mem_cons_of_ne_of_not_mem (by decide) (side _ _ _))

/-- The entries between the commas are those of the specs. -/
theorem forall₂_isEntry (pieces : List Piece) :
    List.Forall₂ IsEntry
      (((pieces.map Piece.text).map Text.trim).filter fun entry => !entry.isEmpty)
      (pieces.filterMap Piece.spec?) := by
  induction pieces with
  | nil => exact .nil
  | cons piece rest ih =>
    rw [List.map_cons, List.map_cons]
    cases piece with
    | gap blanks =>
      rw [List.filter_cons_of_neg (by rw [Piece.text, Text.trim_blanks]; decide)]
      exact ih
    | range spec ordered beforeFirst afterFirst beforeLast afterLast =>
      have entry := (isEntry_text spec ordered beforeFirst afterFirst beforeLast afterLast).trim
      rw [List.filter_cons_of_pos (by simpa using entry.ne_nil)]
      exact .cons entry ih

/-- What is written is a header, of the entries between its commas. -/
theorem Layout.isHeader (layout : Layout) (some : layout.pieces ≠ []) :
    IsHeader layout.text.toList bytesUnit
      (((layout.pieces.map Piece.text).map Text.trim).filter fun entry => !entry.isEmpty) := by
  have split : IsSplit ',' ([','].intercalate (layout.pieces.map Piece.text))
      (layout.pieces.map Piece.text) := by
    refine ⟨mt List.map_eq_nil_iff.1 some, ?_, rfl⟩
    exact List.forall_mem_map.2 fun piece _ => piece.not_mem_text
  have unit : Text.IsWord bytesUnit := by decide
  refine ⟨layout.beforeUnit.val ++ (bytesUnit ++ layout.afterUnit.val), _, ⟨?_, ?_⟩, ?_,
    ⟨_, _, split, map_trim_eq_iff.1 rfl, rfl⟩⟩
  · exact String.toList_ofList
  · exact List.not_mem_append (layout.beforeUnit.not_mem (by decide))
      (List.not_mem_append (by decide) (layout.afterUnit.not_mem (by decide)))
  · exact Text.isTrimmed_between layout.beforeUnit layout.afterUnit unit.2

/-- What is written is read back. -/
theorem parseHeader_text {layout : Layout} (named : layout.specs ≠ []) :
    parseHeader layout.text = .ok layout.specs := by
  have some : layout.pieces ≠ [] := by
    intro nothing
    rw [Layout.specs, nothing] at named
    exact named rfl
  exact parseHeader_eq_ok_iff.2 ⟨named, _, layout.isHeader some, forall₂_isEntry layout.pieces⟩

/-- A header is accepted if and only if it is in the grammar, with the specs of its entries in order.
    What is refused is refused for what is wrong with it as a whole, else with its first entry that
    is none.  Specs that are written in any layout are read back. -/
theorem parseHeader_reads_its_grammar :
    (∀ (header : String) (specs : List Spec), parseHeader header = .ok specs ↔ specs ≠ [] ∧
      ∃ found, IsHeader header.toList bytesUnit found ∧ List.Forall₂ IsEntry found specs) ∧
    (∀ (header : String) (e : HeaderError),
      parseHeader header = .error e ↔ IsRefusal header.toList e) ∧
    ∀ layout : Layout, layout.specs ≠ [] → parseHeader layout.text = .ok layout.specs :=
  ⟨fun _ _ => parseHeader_eq_ok_iff, fun _ _ => parseHeader_eq_error_iff, fun _ => parseHeader_text⟩

/-- Three specs between empty entries and blanks of several scripts. -/
def spacedLayout : Layout where
  beforeUnit := .of "\u3000".toList (by decide)
  afterUnit := .of "\t".toList (by decide)
  pieces := [
    .gap (.of [' '] (by decide)),
    .range ⟨some 5, some 18446744073709551615⟩ (show (5 : UInt64) ≤ _ by decide)
      (.of "\u00a0".toList (by decide)) (.of [' '] (by decide)) (.of [] rfl) (.of [] rfl),
    .gap (.of [] rfl),
    .range ⟨none, some 7⟩ trivial
      (.of [' '] (by decide)) (.of [] rfl) (.of [' '] (by decide)) (.of "\u2003".toList (by decide)),
    .range ⟨some 10, none⟩ trivial
      (.of [] rfl) (.of [] rfl) (.of [] rfl) (.of [' '] (by decide))]

theorem parseHeader_spacedLayout :
    spacedLayout.text = "\u3000bytes\t= ,\u00a05 -18446744073709551615,, - 7\u2003,10- " ∧
      spacedLayout.specs ≠ [] ∧ parseHeader spacedLayout.text =
        .ok [⟨some 5, some 18446744073709551615⟩, ⟨none, some 7⟩, ⟨some 10, none⟩] := by
  have named : spacedLayout.specs ≠ [] := by decide
  refine ⟨by decide +kernel, named, ?_⟩
  exact parseHeader_reads_its_grammar.2.2 spacedLayout named

end StaticSite.Range
