/-
  SPLITTING: cutting a text at a separator.

  `cut?` divides at the first separator, `cutLast?` at the last, `fields` at every one.  The laws
  that the readers of headers and names rely on stand beside them: nothing is lost (`eq_of_cut?`,
  `eq_of_cutLast?`, `intercalate_fields`, `dropStart?_eq_some_iff`), and no piece before a cut
  holds the separator.
-/

namespace StaticSite.Text

variable {α : Type} [BEq α]

/-- The parts before and after the first `sep`, or nothing if there is none. -/
def cut? (sep : α) : List α → Option (List α × List α)
  | [] => none
  | c :: rest => if c == sep then some ([], rest) else (cut? sep rest).map fun p => (c :: p.1, p.2)

/-- The pieces between the separators; one more than there are separators. -/
def fields (sep : α) : List α → List (List α)
  | [] => [[]]
  | c :: rest =>
    if c == sep then [] :: fields sep rest
    else match fields sep rest with
      | [] => [[c]]
      | f :: fs => (c :: f) :: fs

/-- The parts before and after the last `sep`, or nothing if there is none. -/
def cutLast? (sep : α) (s : List α) : Option (List α × List α) :=
  (cut? sep s.reverse).map fun p => (p.2.reverse, p.1.reverse)

/-- Drops `start` from the front of a text that begins with it. -/
def dropStart? (start s : List α) : Option (List α) :=
  match start, s with
  | [], s => some s
  | _ :: _, [] => none
  | a :: start, c :: s => if a == c then dropStart? start s else none

/-- There is always a first field. -/
theorem fields_ne_nil (sep : α) (s : List α) : fields sep s ≠ [] := by
  cases s with
  | nil => simp [fields]
  | cons c rest =>
    unfold fields
    split
    · simp
    · split <;> simp

variable [LawfulBEq α]

/-- Cutting loses nothing but the separator. -/
theorem eq_of_cut? {sep : α} {s a b : List α} (h : cut? sep s = some (a, b)) :
    s = a ++ sep :: b := by
  induction s generalizing a b with
  | nil => simp [cut?] at h
  | cons c rest ih =>
    unfold cut? at h
    split at h
    next hc => simp at h; obtain ⟨rfl, rfl⟩ := h; simp [eq_of_beq hc]
    next =>
      obtain ⟨p, hp, heq⟩ := Option.map_eq_some_iff.1 h
      cases heq
      simp [ih hp]

/-- The part before the cut is free of the separator. -/
theorem not_mem_of_cut? {sep : α} {s a b : List α} (h : cut? sep s = some (a, b)) : sep ∉ a := by
  induction s generalizing a b with
  | nil => simp [cut?] at h
  | cons c rest ih =>
    unfold cut? at h
    split at h
    next => simp at h; obtain ⟨rfl, rfl⟩ := h; simp
    next hc =>
      obtain ⟨p, hp, heq⟩ := Option.map_eq_some_iff.1 h
      cases heq
      have := ih hp
      simp only [List.mem_cons, not_or]
      exact ⟨fun e => hc (by simp [e]), this⟩

/-- Cutting at the last separator loses nothing but the separator. -/
theorem eq_of_cutLast? {sep : α} {s a b : List α} (h : cutLast? sep s = some (a, b)) :
    s = a ++ sep :: b := by
  obtain ⟨p, hp, heq⟩ := Option.map_eq_some_iff.1 h
  cases heq
  have := congrArg List.reverse (eq_of_cut? hp)
  simpa using this

/-- The part behind the last cut is free of the separator. -/
theorem not_mem_of_cutLast? {sep : α} {s a b : List α} (h : cutLast? sep s = some (a, b)) :
    sep ∉ b := by
  obtain ⟨p, hp, heq⟩ := Option.map_eq_some_iff.1 h
  cases heq
  simpa using not_mem_of_cut? hp

/-- A text has a start dropped exactly when it is that start and what is left. -/
theorem dropStart?_eq_some_iff {start s rest : List α} :
    dropStart? start s = some rest ↔ s = start ++ rest := by
  induction start generalizing s with
  | nil => simp [dropStart?]
  | cons a start ih =>
    cases s with
    | nil => simp [dropStart?]
    | cons c s =>
      by_cases h : a = c
      · simp [dropStart?, h, ih]
      · simp [dropStart?, h, Ne.symm h]

/-- Joining the fields with the separator gives the text back. -/
theorem intercalate_fields (sep : α) (s : List α) : [sep].intercalate (fields sep s) = s := by
  induction s with
  | nil => rfl
  | cons c rest ih =>
    unfold fields
    split
    next hc =>
      obtain ⟨f, fs, hf⟩ := List.exists_cons_of_ne_nil (fields_ne_nil sep rest)
      rw [hf] at ih ⊢
      rw [← ih, ← eq_of_beq hc]
      simp [List.intercalate, List.intersperse]
    next =>
      split
      next h => exact absurd h (fields_ne_nil sep rest)
      next f fs hf =>
        rw [hf] at ih
        rw [← ih]
        cases fs <;> simp [List.intercalate, List.intersperse]

end StaticSite.Text
