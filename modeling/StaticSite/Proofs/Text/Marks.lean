/-
  MARKS: cutting a text at a run of characters.

  A run whose first character stands only at its front cannot overlap with itself.  So a text that
  does not hold the run, with the run behind it, is cut there and nowhere before, whatever the text
  ends with (`cutAt?_append_mark`).

  The bytes of a text hold an ASCII byte only where the text holds that character (`mem_encode_iff`),
  so a run that is free of one in characters is free of it in bytes (`not_mem_utf8`), and bytes and
  text can be cut at the same places (`split_of_encode`).
-/
import StaticSite.Proofs.Text.Fields
import StaticSite.Proofs.Text.RoundTrip

namespace StaticSite.Text

/-! ## Cuts -/

variable {α : Type} [BEq α]

/-- The parts before and after the first place where `mark` stands, or nothing if it stands nowhere.
    A mark is not empty. -/
def cutAt? (mark : List α) : List α → Option (List α × List α)
  | [] => none
  | c :: rest =>
    match dropStart? mark (c :: rest) with
    | some behind => some ([], behind)
    | none => (cutAt? mark rest).map fun p => (c :: p.1, p.2)

variable [LawfulBEq α]

/-- Cutting loses nothing but the mark. -/
theorem eq_of_cutAt? {mark s a b : List α} (h : cutAt? mark s = some (a, b)) :
    s = a ++ (mark ++ b) := by
  induction s generalizing a b with
  | nil => cases h
  | cons c rest ih =>
    unfold cutAt? at h
    split at h
    next behind hdrop =>
      cases h
      have whole : c :: rest = mark ++ b := dropStart?_eq_some_iff.1 hdrop
      exact whole
    next =>
      obtain ⟨p, hp, heq⟩ := Option.map_eq_some_iff.1 h
      cases heq
      exact congrArg (c :: ·) (ih hp)

/-- The mark at the front is where the text is cut. -/
theorem cutAt?_mark_append {mark : List α} (some : mark ≠ []) (b : List α) :
    cutAt? mark (mark ++ b) = .some ([], b) := by
  obtain ⟨first, others, rfl⟩ := List.exists_cons_of_ne_nil some
  have here : dropStart? (first :: others) (first :: (others ++ b)) = .some b :=
    dropStart?_eq_some_iff.2 rfl
  rw [List.cons_append, cutAt?, here]

/-- The mark is looked for further on where it does not stand at the front. -/
theorem cutAt?_cons {mark : List α} {c : α} {rest : List α} (elsewhere : ¬mark <+: c :: rest) :
    cutAt? mark (c :: rest) = (cutAt? mark rest).map fun p => (c :: p.1, p.2) := by
  have none : dropStart? mark (c :: rest) = none := by
    cases h : dropStart? mark (c :: rest) with
    | none => rfl
    | some behind => exact absurd ⟨behind, (dropStart?_eq_some_iff.1 h).symm⟩ elsewhere
  rw [cutAt?, none]

/-- No mark begins in a text that is free of its first character. -/
theorem cutAt?_append_of_not_mem {first : α} {mark a : List α} (free : first ∉ a) (b : List α) :
    cutAt? (first :: mark) (a ++ b)
      = (cutAt? (first :: mark) b).map fun p => (a ++ p.1, p.2) := by
  induction a with
  | nil => exact Option.map_id'.symm
  | cons c rest ih =>
    obtain ⟨hc, hrest⟩ := not_or.1 (mt List.mem_cons.2 free)
    have elsewhere : ¬first :: mark <+: c :: (rest ++ b) := by
      rintro ⟨behind, whole⟩
      exact hc (List.cons.inj whole).1
    rw [List.cons_append, cutAt?_cons elsewhere, ih hrest, Option.map_map]
    rfl

omit [BEq α] [LawfulBEq α] in
/-- A mark with its first character only at its front does not begin in a text before it: it would
    have to begin again before it ends. -/
theorem not_prefix_of_not_infix {first : α} {mark a b : List α} (once : first ∉ mark)
    (some : a ≠ []) (free : ¬first :: mark <:+: a) :
    ¬first :: mark <+: a ++ (first :: mark ++ b) := by
  rintro ⟨behind, whole⟩
  rcases List.append_eq_append_iff.1 whole with ⟨inside, ha, -⟩ | ⟨beyond, hmark, hbeyond⟩
  · -- all of it lies in the text
    exact free ⟨[], inside, ha.symm⟩
  · obtain ⟨c, rest, rfl⟩ := List.exists_cons_of_ne_nil some
    cases beyond with
    | nil =>
      -- it ends where the text ends
      rw [List.append_nil] at hmark
      exact free ⟨[], [], by rw [hmark, List.append_nil, List.nil_append]⟩
    | cons next beyond =>
      -- it reaches into the mark behind the text
      have again : next = first := (List.cons.inj hbeyond).1.symm
      have inside : mark = rest ++ next :: beyond := (List.cons.inj hmark).2
      apply once
      rw [inside, again]
      exact List.mem_append_right rest List.mem_cons_self

/-- A text without the mark is cut off whole in front of it. -/
theorem cutAt?_append_mark {first : α} {mark a : List α} (once : first ∉ mark)
    (free : ¬first :: mark <:+: a) (b : List α) :
    cutAt? (first :: mark) (a ++ (first :: mark ++ b)) = some (a, b) := by
  induction a with
  | nil => exact cutAt?_mark_append (List.cons_ne_nil first mark) b
  | cons c rest ih =>
    have elsewhere : ¬first :: mark <+: c :: (rest ++ (first :: mark ++ b)) :=
      not_prefix_of_not_infix once (List.cons_ne_nil c rest) free
    have later : ¬first :: mark <:+: rest := fun h => free (h.trans (List.suffix_cons c rest).isInfix)
    rw [List.cons_append, cutAt?_cons elsewhere, ih later]
    rfl

/-! ## ASCII bytes -/

/-- A byte below 128 is the number of its character. -/
theorem toNat_of_mem_utf8EncodeChar {c : Char} {b : UInt8} (h : b ∈ String.utf8EncodeChar c)
    (ascii : b.toNat < 0x80) : c.toNat = b.toNat := by
  by_cases small : c.toNat < 0x80
  · rw [utf8EncodeChar_of_ascii small, List.mem_singleton] at h
    rw [h, toNat_byte (Nat.lt_trans small (by decide))]
  · -- every byte of a longer sequence has its highest bit set
    exfalso
    have long : ¬c.val.toNat ≤ 0x7F := fun le => small (Nat.lt_succ_of_le le)
    unfold String.utf8EncodeChar at h
    rw [if_neg long] at h
    split at h
    · simp only [List.mem_cons, List.not_mem_nil, or_false] at h
      rcases h with rfl | rfl <;> rw [toNat_byte (by omega)] at ascii <;> omega
    · split at h
      · simp only [List.mem_cons, List.not_mem_nil, or_false] at h
        rcases h with rfl | rfl | rfl <;> rw [toNat_byte (by omega)] at ascii <;> omega
      · simp only [List.mem_cons, List.not_mem_nil, or_false] at h
        rcases h with rfl | rfl | rfl | rfl <;> rw [toNat_byte (by omega)] at ascii <;> omega

/-- The bytes of a character hold no ASCII byte of another one. -/
theorem not_mem_utf8EncodeChar {c d : Char} (ascii : c.toNat < 0x80) (differs : d ≠ c) :
    UInt8.ofNat c.toNat ∉ String.utf8EncodeChar d := by
  intro h
  have number : (UInt8.ofNat c.toNat).toNat = c.toNat :=
    toNat_byte (Nat.lt_trans ascii (by decide))
  have same := toNat_of_mem_utf8EncodeChar h (by omega)
  rw [number] at same
  exact differs (Char.toNat_inj.1 same)

/-- The bytes of a text hold an ASCII byte where the text holds that character, and nowhere else. -/
theorem mem_encode_iff {c : Char} (ascii : c.toNat < 0x80) {s : List Char} :
    UInt8.ofNat c.toNat ∈ encode s ↔ c ∈ s := by
  constructor
  · intro h
    obtain ⟨d, hd, hbyte⟩ := List.mem_flatMap.1 h
    have same : d = c :=
      Decidable.byContradiction fun differs => not_mem_utf8EncodeChar ascii differs hbyte
    exact same ▸ hd
  · intro h
    refine List.mem_flatMap.2 ⟨c, h, ?_⟩
    rw [utf8EncodeChar_of_ascii ascii]
    exact List.mem_cons_self

/-- An ASCII character that a text is free of is no byte of it. -/
theorem not_mem_utf8 {c : Char} (ascii : c.toNat < 0x80) {s : String} (free : c ∉ s.toList) :
    UInt8.ofNat c.toNat ∉ utf8 s :=
  mt (mem_encode_iff ascii).1 free

/-- Where an ASCII byte stands in the bytes of a text, its character stands in the text. -/
theorem split_of_encode (sep : Char) (ascii : sep.toNat < 0x80) {s : List Char} {front back : Bytes}
    (h : encode s = front ++ UInt8.ofNat sep.toNat :: back) :
    ∃ before behind, s = before ++ sep :: behind ∧ encode before = front ∧ encode behind = back := by
  induction s generalizing front with
  | nil => exact absurd h.symm (List.append_ne_nil_of_right_ne_nil _ (List.cons_ne_nil _ _))
  | cons c rest ih =>
    rw [encode_cons] at h
    have later (front' : Bytes) (inside : front = String.utf8EncodeChar c ++ front')
        (hrest : encode rest = front' ++ UInt8.ofNat sep.toNat :: back) :
        ∃ before behind, c :: rest = before ++ sep :: behind ∧ encode before = front ∧
          encode behind = back := by
      obtain ⟨before, behind, rfl, rfl, hback⟩ := ih hrest
      exact ⟨c :: before, behind, rfl, by rw [inside, encode_cons], hback⟩
    rcases List.append_eq_append_iff.1 h with ⟨front', inside, hrest⟩ | ⟨tail, hbytes, hrest⟩
    · exact later front' inside hrest
    · cases tail with
      | nil =>
        -- the character ends where the front ends
        rw [List.append_nil] at hbytes
        exact later [] (by rw [List.append_nil, hbytes]) hrest.symm
      | cons b tail =>
        -- the byte is one of the bytes of the character, so it is all of them
        obtain ⟨rfl, hback⟩ := List.cons.inj hrest
        have mem : UInt8.ofNat sep.toNat ∈ String.utf8EncodeChar c := by
          rw [hbytes]
          exact List.mem_append_right front List.mem_cons_self
        have hc : c = sep :=
          Decidable.byContradiction fun differs => not_mem_utf8EncodeChar ascii differs mem
        subst hc
        rw [utf8EncodeChar_of_ascii ascii] at hbytes
        rcases List.append_eq_singleton_iff.1 hbytes.symm with ⟨rfl, htail⟩ | ⟨-, htail⟩
        · cases htail
          exact ⟨[], rest, rfl, rfl, hback.symm⟩
        · cases htail

end StaticSite.Text
