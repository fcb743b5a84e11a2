/-
  INERT DATA: text that says nothing but itself.

  A page gets data through two writers.  `escapeText` writes each of five characters as an entity, and
  undoing the entities gives the text back (`unescape_escapeText`).  `linkText` leaves the letters and
  digits of ASCII and a few more, and writes all the other bytes with percent signs.

  What either of them writes is `Inert`: it holds none of the characters of markup, and an ampersand in
  it begins an entity.  Inert texts put together are inert (`Inert.append`).
-/
import StaticSite.Site.Listing

namespace StaticSite.Site

/-! ## Entities -/

/-- The characters that have a meaning in markup, the ampersand left out. -/
def isMark (c : Char) : Bool := c == '<' || c == '>' || c == '"' || c == '\x27'

/-- The characters of markup in a text, in order. -/
def marksOf (s : String) : List Char := s.toList.filter isMark

/-- The ways in which a character of markup is written as text. -/
def entityTexts : List String := ["&amp;", "&lt;", "&gt;", "&quot;", "&#x27;"]

/-- A text with its entities undone. -/
def unescape : List Char → List Char
  | '&' :: 'a' :: 'm' :: 'p' :: ';' :: rest => '&' :: unescape rest
  | '&' :: 'l' :: 't' :: ';' :: rest => '<' :: unescape rest
  | '&' :: 'g' :: 't' :: ';' :: rest => '>' :: unescape rest
  | '&' :: 'q' :: 'u' :: 'o' :: 't' :: ';' :: rest => '"' :: unescape rest
  | '&' :: '#' :: 'x' :: '2' :: '7' :: ';' :: rest => '\x27' :: unescape rest
  | c :: rest => c :: unescape rest
  | [] => []

/-- What begins no entity stands for itself. -/
theorem unescape_cons {c : Char} (h : c ≠ '&') (rest : List Char) :
    unescape (c :: rest) = c :: unescape rest := by
  rw [unescape]
  all_goals
    intro others hc
    exact absurd hc h

/-- The ways in which a character is written: as one of the entities, or as it is. -/
theorem escapeChar_cases (c : Char) :
    (∃ e ∈ entityTexts, escapeChar c = e.toList ∧
      ∀ rest, unescape (e.toList ++ rest) = c :: unescape rest) ∨
    escapeChar c = [c] ∧ c ≠ '&' ∧ isMark c = false := by
  by_cases special : c ∈ ['&', '<', '>', '"', '\x27']
  · apply Or.inl
    simp only [List.mem_cons, List.not_mem_nil, or_false] at special
    rcases special with rfl | rfl | rfl | rfl | rfl
    · exact ⟨"&amp;", by decide, rfl, fun _ => rfl⟩
    · exact ⟨"&lt;", by decide, rfl, fun _ => rfl⟩
    · exact ⟨"&gt;", by decide, rfl, fun _ => rfl⟩
    · exact ⟨"&quot;", by decide, rfl, fun _ => rfl⟩
    · exact ⟨"&#x27;", by decide, rfl, fun _ => rfl⟩
  · apply Or.inr
    simp only [List.mem_cons, List.not_mem_nil, or_false, not_or] at special
    obtain ⟨ampersand, less, greater, quote, apostrophe⟩ := special
    refine ⟨?_, ampersand, ?_⟩
    · simp [escapeChar, ampersand, less, greater, quote, apostrophe]
    · simp [isMark, less, greater, quote, apostrophe]

/-- Undoing the entities of an escaped text gives the text back. -/
theorem unescape_escapeText (s : String) (rest : List Char) :
    unescape ((escapeText s).toList ++ rest) = s.toList ++ unescape rest := by
  rw [escapeText, String.toList_ofList]
  generalize s.toList = cs
  induction cs with
  | nil => rfl
  | cons c cs ih =>
    rw [List.flatMap_cons, List.append_assoc]
    rcases escapeChar_cases c with ⟨e, -, written, undone⟩ | ⟨written, plain, -⟩
    · rw [written, undone, ih]
      rfl
    · rw [written, List.singleton_append, unescape_cons plain, ih]
      rfl

/-- Every ampersand begins an entity. -/
def OnlyEntities (s : List Char) : Prop :=
  ∀ before after, s = before ++ '&' :: after → ∃ e ∈ entityTexts, e.toList <+: '&' :: after

theorem onlyEntities_of_not_mem {s : List Char} (h : '&' ∉ s) : OnlyEntities s := by
  rintro before after rfl
  exact absurd (List.mem_append_right before List.mem_cons_self) h

/-- An entity stays one whatever follows. -/
theorem OnlyEntities.append {s t : List Char} (hs : OnlyEntities s) (ht : OnlyEntities t) :
    OnlyEntities (s ++ t) := by
  intro before after whole
  rcases List.append_eq_append_iff.1 whole with ⟨inside, rfl, htail⟩ | ⟨beyond, hfront, hbeyond⟩
  · exact ht inside after htail
  · cases beyond with
    | nil => exact ht [] after hbeyond.symm
    | cons c beyond =>
      obtain ⟨rfl, rfl⟩ := List.cons.inj hbeyond
      obtain ⟨e, he, starts⟩ := hs before beyond hfront
      exact ⟨e, he, starts.trans (List.prefix_append ('&' :: beyond) t)⟩

theorem onlyEntities_of_mem {e : String} (h : e ∈ entityTexts) : OnlyEntities e.toList := by
  have only : ∀ e ∈ entityTexts, '&' ∉ e.toList.tail := by decide
  intro before after whole
  cases before with
  | nil => exact ⟨e, h, whole ▸ List.prefix_rfl⟩
  | cons c before =>
    -- only the first character of an entity is an ampersand
    have later : '&' ∈ e.toList.tail := by
      rw [whole]
      exact List.mem_append_right before List.mem_cons_self
    exact absurd later (only e h)

/-! ## Inert data -/

/-- A text without markup. -/
structure Inert (s : String) : Prop where
  unmarked : ∀ c ∈ s.toList, isMark c = false
  entities : OnlyEntities s.toList

theorem Inert.append {s t : String} (hs : Inert s) (ht : Inert t) : Inert (s ++ t) := by
  constructor
  · rw [String.toList_append]
    exact List.forall_mem_append.2 ⟨hs.unmarked, ht.unmarked⟩
  · rw [String.toList_append]
    exact hs.entities.append ht.entities

theorem Inert.marksOf_eq {s : String} (h : Inert s) : marksOf s = [] := by
  rw [marksOf, List.filter_eq_nil_iff]
  intro c hc
  rw [h.unmarked c hc]
  exact Bool.false_ne_true

/-- An escaped text is inert, whatever it was. -/
theorem inert_escapeText (s : String) : Inert (escapeText s) := by
  have unmarked : ∀ e ∈ entityTexts, e.toList.any isMark = false := by decide
  have each : ∀ c, (∀ d ∈ escapeChar c, isMark d = false) ∧ OnlyEntities (escapeChar c) := by
    intro c
    rcases escapeChar_cases c with ⟨e, he, written, -⟩ | ⟨written, plain, hc⟩
    · rw [written]
      have solid := List.any_eq_false.1 (unmarked e he)
      exact ⟨fun d hd => Bool.eq_false_iff.2 (solid d hd), onlyEntities_of_mem he⟩
    · rw [written]
      constructor
      · exact List.forall_mem_singleton.2 hc
      · exact onlyEntities_of_not_mem (mt List.mem_singleton.1 plain.symm)
  constructor
  · rw [escapeText, String.toList_ofList]
    intro d hd
    obtain ⟨c, -, hc⟩ := List.mem_flatMap.1 hd
    exact (each c).1 d hc
  · rw [escapeText, String.toList_ofList]
    generalize s.toList = cs
    induction cs with
    | nil => exact onlyEntities_of_not_mem List.not_mem_nil
    | cons c cs ih =>
      rw [List.flatMap_cons]
      exact (each c).2.append ih

/-- A character that is no markup and begins no entity. -/
def isInertChar (c : Char) : Bool := !isMark c && c != '&'

theorem inert_of_isInertChar {s : String} (h : s.toList.all isInertChar = true) : Inert s := by
  have each (c : Char) (hc : c ∈ s.toList) : isMark c = false ∧ c ≠ '&' := by
    simpa [isInertChar] using List.all_eq_true.1 h c hc
  constructor
  · exact fun c hc => (each c hc).1
  · exact onlyEntities_of_not_mem fun ampersand => (each '&' ampersand).2 rfl

/-- The characters of a link: letters and digits of ASCII, five more, and the percent sign. -/
def isLinkChar (c : Char) : Bool := isPlainInLink c || c == '%'

theorem isInertChar_of_isLinkChar {c : Char} (h : isLinkChar c = true) : isInertChar c = true := by
  rw [← Bool.not_eq_false]
  intro special
  simp only [isInertChar, isMark, Bool.and_eq_false_iff, Bool.not_eq_false', Bool.or_eq_true,
    beq_iff_eq, bne_eq_false_iff_eq] at special
  rcases special with (((rfl | rfl) | rfl) | rfl) | rfl <;> exact absurd h (by decide)

/-- A text of such characters is inert. -/
theorem inert_of_isLinkChar {s : String} (h : ∀ c ∈ s.toList, isLinkChar c = true) : Inert s :=
  inert_of_isInertChar (List.all_eq_true.2 fun c hc => isInertChar_of_isLinkChar (h c hc))

theorem isLinkChar_of_mem_linkText {name : String} :
    ∀ c ∈ (linkText name).toList, isLinkChar c = true := by
  have digit : ∀ n < 16, isLinkChar (Text.upperHexDigit n) = true := by decide
  have escape : ∀ b, ∀ c ∈ Text.escapedByte b, isLinkChar c = true := by
    intro b
    have small := b.toNat_lt
    simp only [Text.escapedByte, List.forall_mem_cons]
    exact ⟨by decide, digit _ (by omega), digit _ (by omega), List.forall_mem_nil _⟩
  rw [linkText, String.toList_ofList]
  intro c hc
  obtain ⟨d, -, hd⟩ := List.mem_flatMap.1 hc
  split at hd
  next plain =>
    rw [List.mem_singleton.1 hd, isLinkChar, plain]
    rfl
  next =>
    obtain ⟨b, -, hb⟩ := List.mem_flatMap.1 hd
    exact escape b c hb

theorem inert_toString (n : Nat) : Inert (toString n) := by
  apply inert_of_isLinkChar
  intro c hc
  have digit : c ∈ Nat.toDigits 10 n := by simpa using hc
  have isDigit := Nat.isDigit_of_mem_toDigits (by decide) (by decide) digit
  rw [isLinkChar, isPlainInLink, Char.isAlphanum, isDigit, Bool.or_true]
  rfl

theorem inert_sizeText (size : UInt64) : Inert (sizeText size) := by
  have unit {u : String} (h : u.toList.all isInertChar = true) (n : Nat) : Inert (toString n ++ u) :=
    (inert_toString n).append (inert_of_isInertChar h)
  dsimp only [sizeText]
  split
  · exact unit (by decide) _
  · split
    · exact unit (by decide) _
    · split
      · exact unit (by decide) _
      · exact unit (by decide) _

end StaticSite.Site
