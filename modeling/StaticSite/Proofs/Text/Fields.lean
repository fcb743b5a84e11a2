/-
  FIELDS AND CUTS: where the pieces between separators end.

  A text put behind another one goes on with the last field of that one: the other fields of both
  stay what they are (`fields_append`).  So a separator ends a field for good
  (`fields_append_cons`), and behind a separator at the end everything is a field of its own
  (`fields_append_of_open`).  A text is cut where the first separator stands (`cut?_append_cons`).

  What cuts and fields are can be said without working them out (`IsCut`, `IsSplit`): they are the one
  cut at a first separator (`cut?_eq_some_iff`) and the one split into pieces without a separator
  (`fields_eq_iff`).
-/
import StaticSite.Text.Split

namespace StaticSite.Text

variable {α : Type}

/-- The parts of a text around the first `sep`. -/
structure IsCut (sep : α) (s a b : List α) : Prop where
  whole : s = a ++ sep :: b
  free : sep ∉ a

/-- The pieces of a text between all its separators. -/
structure IsSplit (sep : α) (s : List α) (pieces : List (List α)) : Prop where
  some : pieces ≠ []
  free : ∀ piece ∈ pieces, sep ∉ piece
  whole : s = [sep].intercalate pieces

variable [BEq α]

/-- A separator in front leaves an empty field. -/
theorem fields_cons_sep [LawfulBEq α] (sep : α) (s : List α) :
    fields sep (sep :: s) = [] :: fields sep s :=
  if_pos (beq_self_eq_true sep)

/-- Anything else in front is in the first field. -/
theorem fields_cons_of_ne [LawfulBEq α] {sep c : α} (differs : c ≠ sep) {s f : List α}
    {fs : List (List α)} (hfields : fields sep s = f :: fs) :
    fields sep (c :: s) = (c :: f) :: fs := by
  rw [fields, if_neg (by rwa [beq_iff_eq]), hfields]

variable [LawfulBEq α]

/-- There is one field more than there are separators. -/
theorem length_fields (sep : α) (s : List α) :
    (fields sep s).length = s.count sep + 1 := by
  induction s with
  | nil => rfl
  | cons c rest ih =>
    by_cases hc : c = sep
    · subst hc
      rw [fields_cons_sep, List.length_cons, ih, List.count_cons_self]
    · obtain ⟨f, fs, hrest⟩ := List.exists_cons_of_ne_nil (fields_ne_nil sep rest)
      rw [fields_cons_of_ne hc hrest, List.count_cons_of_ne hc, ← ih, hrest]
      rfl

/-- A text without the separator is one field. -/
theorem fields_of_not_mem {sep : α} {s : List α} (free : sep ∉ s) : fields sep s = [s] := by
  induction s with
  | nil => rfl
  | cons c rest ih =>
    obtain ⟨hc, hrest⟩ := not_or.1 (mt List.mem_cons.2 free)
    exact fields_cons_of_ne (Ne.symm hc) (ih hrest)

/-- Two texts one behind the other: the last field of the first goes on with the first field of the
    second. -/
theorem fields_append {sep : α} {s t last first : List α} {before others : List (List α)}
    (hs : fields sep s = before ++ [last]) (ht : fields sep t = first :: others) :
    fields sep (s ++ t) = before ++ (last ++ first) :: others := by
  induction s generalizing before last with
  | nil =>
    obtain ⟨rfl, hlast⟩ := List.append_eq_singleton_iff.1 hs.symm |>.resolve_right (by simp)
    cases hlast
    exact ht
  | cons c rest ih =>
    by_cases hc : c = sep
    · -- the separator closes an empty field
      subst hc
      rw [fields_cons_sep] at hs
      rcases List.append_eq_cons_iff.1 hs.symm with ⟨rfl, hlast⟩ | ⟨before, rfl, hrest⟩
      · exact absurd (List.cons.inj hlast).2.symm (fields_ne_nil c rest)
      · rw [List.cons_append, fields_cons_sep, ih hrest, List.cons_append]
    · -- the character belongs to the first field of the rest
      obtain ⟨f, fs, hrest⟩ := List.exists_cons_of_ne_nil (fields_ne_nil sep rest)
      rw [fields_cons_of_ne hc hrest] at hs
      rcases List.append_eq_cons_iff.1 hs.symm with ⟨rfl, hlast⟩ | ⟨before, rfl, hfs⟩
      · cases hlast
        have front : fields sep rest = [] ++ [f] := hrest
        exact fields_cons_of_ne hc (ih front)
      · refine fields_cons_of_ne hc ?_
        have front : fields sep rest = (f :: before) ++ [last] := by rw [hrest, hfs]; rfl
        exact ih front

/-- A separator ends a field. -/
theorem fields_append_cons (sep : α) (s t : List α) :
    fields sep (s ++ sep :: t) = fields sep s ++ fields sep t := by
  obtain ⟨before, last, hs⟩ := List.eq_nil_or_concat (fields sep s) |>.resolve_left (fields_ne_nil sep s)
  rw [List.concat_eq_append] at hs
  rw [fields_append hs (fields_cons_sep sep t), hs, List.append_nil, List.append_assoc]
  rfl

/-- What is put behind an empty last field is cut as it would be alone. -/
theorem fields_append_of_open {sep : α} {s : List α} {before : List (List α)}
    (hs : fields sep s = before ++ [[]]) (t : List α) :
    fields sep (s ++ t) = before ++ fields sep t := by
  obtain ⟨first, others, ht⟩ := List.exists_cons_of_ne_nil (fields_ne_nil sep t)
  rw [fields_append hs ht, ht, List.nil_append]

/-- No field holds the separator. -/
theorem not_mem_of_mem_fields {sep : α} {s f : List α} (mem : f ∈ fields sep s) : sep ∉ f := by
  induction s generalizing f with
  | nil =>
    rw [List.mem_singleton.1 mem]
    exact List.not_mem_nil
  | cons c rest ih =>
    by_cases hc : c = sep
    · subst hc
      rw [fields_cons_sep] at mem
      rcases List.mem_cons.1 mem with rfl | mem
      · exact List.not_mem_nil
      · exact ih mem
    · obtain ⟨first, others, hrest⟩ := List.exists_cons_of_ne_nil (fields_ne_nil sep rest)
      rw [fields_cons_of_ne hc hrest] at mem
      rw [hrest] at ih
      rcases List.mem_cons.1 mem with rfl | mem
      · exact mt List.mem_cons.1 (not_or.2 ⟨Ne.symm hc, ih List.mem_cons_self⟩)
      · exact ih (List.mem_cons_of_mem first mem)

/-- Whatever is no separator is in a field. -/
theorem exists_field_of_mem {sep c : α} {s : List α} (mem : c ∈ s) (differs : c ≠ sep) :
    ∃ f ∈ fields sep s, c ∈ f := by
  induction s with
  | nil => cases mem
  | cons d rest ih =>
    by_cases hd : d = sep
    · subst hd
      rw [fields_cons_sep]
      obtain ⟨f, hf, hc⟩ := ih ((List.mem_cons.1 mem).resolve_left differs)
      exact ⟨f, List.mem_cons_of_mem _ hf, hc⟩
    · obtain ⟨first, others, hrest⟩ := List.exists_cons_of_ne_nil (fields_ne_nil sep rest)
      rw [fields_cons_of_ne hd hrest]
      rw [hrest] at ih
      rcases List.mem_cons.1 mem with rfl | mem
      · exact ⟨_, List.mem_cons_self, List.mem_cons_self⟩
      · obtain ⟨f, hf, hc⟩ := ih mem
        rcases List.mem_cons.1 hf with rfl | hf
        · exact ⟨_, List.mem_cons_self, List.mem_cons_of_mem d hc⟩
        · exact ⟨f, List.mem_cons_of_mem _ hf, hc⟩

/-- The fields of pieces that were joined are the pieces. -/
theorem fields_intercalate {sep : α} {pieces : List (List α)} (some : pieces ≠ [])
    (free : ∀ piece ∈ pieces, sep ∉ piece) : fields sep ([sep].intercalate pieces) = pieces := by
  induction pieces with
  | nil => exact absurd rfl some
  | cons piece rest ih =>
    obtain ⟨hpiece, hrest⟩ := List.forall_mem_cons.1 free
    cases rest with
    | nil =>
      rw [List.intercalate_singleton]
      exact fields_of_not_mem hpiece
    | cons next others =>
      rw [List.intercalate_cons_cons, List.append_assoc, List.singleton_append, fields_append_cons,
        fields_of_not_mem hpiece, ih (List.cons_ne_nil _ _) hrest]
      rfl

/-- There is one way to take a text apart into pieces without the separator. -/
theorem fields_eq_iff {sep : α} {s : List α} {pieces : List (List α)} :
    fields sep s = pieces ↔ IsSplit sep s pieces := by
  constructor
  · rintro rfl
    exact ⟨fields_ne_nil sep s, fun _ mem => not_mem_of_mem_fields mem, (intercalate_fields sep s).symm⟩
  · rintro ⟨some, free, rfl⟩
    exact fields_intercalate some free

/-- A text without the separator cannot be cut. -/
theorem cut?_of_not_mem {sep : α} {s : List α} (free : sep ∉ s) : cut? sep s = none := by
  cases h : cut? sep s with
  | none => rfl
  | some parts =>
    have whole := eq_of_cut? (a := parts.1) (b := parts.2) h
    exact absurd (whole ▸ List.mem_append_right _ List.mem_cons_self) free

/-- The first separator is where the text is cut. -/
theorem cut?_append_cons {sep : α} {a : List α} (free : sep ∉ a) (b : List α) :
    cut? sep (a ++ sep :: b) = some (a, b) := by
  induction a with
  | nil => exact if_pos (beq_self_eq_true sep)
  | cons c rest ih =>
    obtain ⟨hc, hrest⟩ := not_or.1 (mt List.mem_cons.2 free)
    rw [List.cons_append, cut?, if_neg (by rw [beq_iff_eq]; exact Ne.symm hc), ih hrest]
    rfl

theorem cut?_eq_some_iff {sep : α} {s a b : List α} :
    cut? sep s = some (a, b) ↔ IsCut sep s a b := by
  constructor
  · intro h
    exact ⟨eq_of_cut? h, not_mem_of_cut? h⟩
  · rintro ⟨rfl, free⟩
    exact cut?_append_cons free b

/-- A text that is free of the character behind it can be told from what follows. -/
theorem append_cons_inj {sep : α} {a a' b b' : List α} (ha : sep ∉ a) (ha' : sep ∉ a')
    (h : a ++ sep :: b = a' ++ sep :: b') : a = a' ∧ b = b' := by
  have cut := cut?_append_cons ha b
  rw [h, cut?_append_cons ha' b'] at cut
  cases cut
  exact ⟨rfl, rfl⟩

/-- And one that is free of the character before it, from what comes first. -/
theorem append_cons_inj_right {sep : α} {a a' b b' : List α} (hb : sep ∉ b) (hb' : sep ∉ b')
    (h : a ++ sep :: b = a' ++ sep :: b') : a = a' ∧ b = b' := by
  have backwards := congrArg List.reverse h
  simp only [List.reverse_append, List.reverse_cons, List.append_assoc, List.singleton_append]
    at backwards
  obtain ⟨behind, before⟩ :=
    append_cons_inj (mt List.mem_reverse.1 hb) (mt List.mem_reverse.1 hb') backwards
  exact ⟨List.reverse_inj.1 before, List.reverse_inj.1 behind⟩

theorem cut?_eq_none_iff {sep : α} {s : List α} : cut? sep s = none ↔ sep ∉ s := by
  constructor
  · intro h mem
    obtain ⟨a, b, rfl, free⟩ := List.eq_append_cons_of_mem mem
    rw [cut?_append_cons free] at h
    cases h
  · exact cut?_of_not_mem

/-- What stands behind a separator is behind the cut. -/
theorem cut?_append_of_ne {sep c : α} (differs : c ≠ sep) (s : List α) :
    cut? sep (s ++ [c]) = (cut? sep s).map fun p => (p.1, p.2 ++ [c]) := by
  induction s with
  | nil => exact if_neg (by rwa [beq_iff_eq])
  | cons d rest ih =>
    rw [List.cons_append, cut?, cut?, ih]
    split
    · rfl
    · rw [Option.map_map, Option.map_map]
      rfl

/-- What a start is free of does not complete it. -/
theorem dropStart?_append_of_not_mem {start : List α} {c : α} (free : c ∉ start) (s : List α) :
    dropStart? start (s ++ [c]) = (dropStart? start s).map (· ++ [c]) := by
  induction start generalizing s with
  | nil => cases s <;> rfl
  | cons a start ih =>
    obtain ⟨ha, hstart⟩ := not_or.1 (mt List.mem_cons.2 free)
    cases s with
    | nil => exact if_neg (by rw [beq_iff_eq]; exact Ne.symm ha)
    | cons d rest =>
      rw [List.cons_append, dropStart?, dropStart?, ih hstart]
      split <;> rfl

example : fields '/' "a/b/".toList = [['a'], ['b'], []] := by decide

end StaticSite.Text
