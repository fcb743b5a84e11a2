/-
  TRIMMING: what is left between the blanks at the ends of a text.

  A text has one part that blanks stand around and that neither begins nor ends with a blank
  (`IsTrimmed`); trimming gives it (`trim_eq_iff`).  So blanks that are put to an end of a text, or
  taken from it, leave its trimmed form as it is (`trim_blanks_append`, `trim_append_blanks`,
  `trim_trimStart`, `trim_trimEnd`), and a character that is no blank keeps the two ends apart
  (`trim_append_cons`).
-/
import Mathlib.Data.List.TakeWhile
import StaticSite.Proofs.Text.Lexemes

namespace StaticSite.Text

/-- A text of blanks only. -/
def Blanks : Type := { s : List Char // ∀ c ∈ s, isBlank c = true }

/-- The blanks of a text that is made of nothing else. -/
def Blanks.of (s : List Char) (h : s.all isBlank = true) : Blanks := ⟨s, List.all_eq_true.1 h⟩

theorem Blanks.not_mem {c : Char} (solid : isBlank c = false) (blanks : Blanks) : c ∉ blanks.val := by
  intro mem
  rw [blanks.property c mem] at solid
  cases solid

/-- What blanks stand around in a text, and what neither begins nor ends with a blank itself. -/
structure IsTrimmed (s t : List Char) : Prop where
  around : ∃ before after : Blanks, s = before.val ++ (t ++ after.val)
  head : ∀ c ∈ t.head?, isBlank c = false
  last : ∀ c ∈ t.getLast?, isBlank c = false

/-! ## One end -/

theorem exists_append_trimStart (s : List Char) :
    ∃ before : Blanks, s = before.val ++ trimStart s := by
  refine ⟨⟨s.takeWhile isBlank, List.all_eq_true.1 List.all_takeWhile⟩, ?_⟩
  exact List.takeWhile_append_dropWhile.symm

theorem trimEnd_eq (s : List Char) : trimEnd s = (trimStart s.reverse).reverse := rfl

theorem exists_trimEnd_append (s : List Char) : ∃ after : Blanks, s = trimEnd s ++ after.val := by
  obtain ⟨before, h⟩ := exists_append_trimStart s.reverse
  refine ⟨⟨before.val.reverse, fun c hc => before.property c (List.mem_reverse.1 hc)⟩, ?_⟩
  rw [trimEnd_eq, ← List.reverse_append, ← h, List.reverse_reverse]

theorem head_trimStart (s : List Char) : ∀ c ∈ (trimStart s).head?, isBlank c = false := by
  intro c hc
  have solid := List.head?_dropWhile_not isBlank s
  rw [show (s.dropWhile isBlank).head? = some c from hc] at solid
  exact solid

theorem last_trimEnd (s : List Char) : ∀ c ∈ (trimEnd s).getLast?, isBlank c = false := by
  intro c hc
  rw [trimEnd_eq, List.getLast?_reverse] at hc
  exact head_trimStart s.reverse c hc

theorem trimStart_of_head {t : List Char} (head : ∀ c ∈ t.head?, isBlank c = false) :
    trimStart t = t := by
  cases t with
  | nil => rfl
  | cons c rest =>
    have solid := head c rfl
    exact List.dropWhile_cons_of_neg (by rw [solid]; exact Bool.false_ne_true)

theorem trimEnd_of_last {t : List Char} (last : ∀ c ∈ t.getLast?, isBlank c = false) :
    trimEnd t = t := by
  rw [← List.head?_reverse] at last
  rw [trimEnd_eq, trimStart_of_head last, List.reverse_reverse]

/-! ## Both ends -/

theorem trim_blanks_append (before : Blanks) (s : List Char) : trim (before.val ++ s) = trim s := by
  obtain ⟨before, blank⟩ := before
  induction before with
  | nil => rfl
  | cons c rest ih =>
    obtain ⟨hc, hrest⟩ := List.forall_mem_cons.1 blank
    exact (trim_blank_cons hc _).trans (ih hrest)

theorem trim_append_blanks (s : List Char) (after : Blanks) : trim (s ++ after.val) = trim s := by
  obtain ⟨after, blank⟩ := after
  induction after generalizing s with
  | nil => rw [List.append_nil]
  | cons c rest ih =>
    obtain ⟨hc, hrest⟩ := List.forall_mem_cons.1 blank
    have one := ih (s ++ [c]) hrest
    rw [List.append_assoc, List.singleton_append] at one
    exact one.trans (trim_append_blank hc s)

theorem trim_trimStart (s : List Char) : trim (trimStart s) = trim s := by
  obtain ⟨before, h⟩ := exists_append_trimStart s
  rw [← trim_blanks_append before, ← h]

theorem trim_trimEnd (s : List Char) : trim (trimEnd s) = trim s := by
  obtain ⟨after, h⟩ := exists_trimEnd_append s
  rw [← trim_append_blanks (trimEnd s) after, ← h]

/-- Blanks that are all of a text leave nothing. -/
theorem trim_blanks (blanks : Blanks) : trim blanks.val = [] := by
  rw [← List.append_nil blanks.val, trim_blanks_append]
  rfl

theorem isTrimmed_trim (s : List Char) : IsTrimmed s (trim s) := by
  obtain ⟨before, hbefore⟩ := exists_append_trimStart s
  obtain ⟨after, hafter⟩ := exists_trimEnd_append (trimStart s)
  constructor
  case around =>
    refine ⟨before, after, ?_⟩
    rw [trim, ← hafter]
    exact hbefore
  case head =>
    -- what is left of a text begins as the text does
    intro c hc
    apply head_trimStart s c
    rw [hafter, List.head?_append, show (trimEnd (trimStart s)).head? = some c from hc]
    rfl
  case last => exact last_trimEnd (trimStart s)

/-- A text without blanks is what is left of it between blanks. -/
theorem isTrimmed_between (before after : Blanks) {t : List Char}
    (solid : ∀ c ∈ t, isBlank c = false) : IsTrimmed (before.val ++ (t ++ after.val)) t := by
  constructor
  case around => exact ⟨before, after, rfl⟩
  case head => exact fun c hc => solid c (List.mem_of_mem_head? hc)
  case last => exact fun c hc => solid c (List.mem_of_mem_getLast? hc)

/-- The trimmed form of a text is the part that blanks stand around. -/
theorem trim_eq_iff {s t : List Char} : trim s = t ↔ IsTrimmed s t := by
  constructor
  · rintro rfl
    exact isTrimmed_trim s
  · rintro ⟨⟨before, after, rfl⟩, head, last⟩
    rw [trim_blanks_append, trim_append_blanks, trim, trimStart_of_head head, trimEnd_of_last last]

/-- A character that is no blank keeps the blanks in front of it from those behind it. -/
theorem trim_append_cons {c : Char} (solid : isBlank c = false) (a b : List Char) :
    trim (a ++ c :: b) = trimStart a ++ c :: trimEnd b := by
  obtain ⟨before, ha⟩ := exists_append_trimStart a
  obtain ⟨after, hb⟩ := exists_trimEnd_append b
  rw [trim_eq_iff]
  constructor
  case around =>
    refine ⟨before, after, ?_⟩
    rw [List.append_assoc, List.cons_append, ← hb, ← List.append_assoc, ← ha]
  case head =>
    intro d hd
    rw [List.head?_append] at hd
    cases hhead : (trimStart a).head? with
    | none =>
      rw [hhead] at hd
      cases hd
      exact solid
    | some e =>
      rw [hhead] at hd
      cases hd
      exact head_trimStart a _ hhead
  case last =>
    intro d hd
    rw [List.getLast?_append, List.getLast?_cons] at hd
    cases hlast : (trimEnd b).getLast? with
    | none =>
      rw [hlast] at hd
      cases hd
      exact solid
    | some e =>
      rw [hlast] at hd
      cases hd
      exact last_trimEnd b _ hlast

end StaticSite.Text
