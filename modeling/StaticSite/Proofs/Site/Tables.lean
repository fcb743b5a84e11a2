/-
  TABLES: when the order of their entries does not show.

  A mount has three tables: media types, encodings and processors, each a map from extensions.  The
  entries have no order of their own, and their extensions are spelled anew while the entries are put
  in: a dot is added in front, and for types and encodings capitals are made small.  So two entries
  may meet under one extension, and then the one that comes later stays.

  The names of files ask for extensions with one dot only, the one in front (`IsExtension`), and for
  each of these there is a name that asks for it.  It follows that the order shows exactly if two
  entries of one table meet under such an extension and differ (`sameRules_iff_unambiguous`).

  Numbered structure:
    §1  extensions as they are spelled
    §2  entries in any order
    §3  the tables of a mount
-/
import StaticSite.Config.Basic
import StaticSite.Proofs.Text.Fields

namespace StaticSite

/-! ## §1 Extensions as they are spelled -/

namespace Media

/-- A capital letter is made small; all other characters stay. -/
theorem toLower_cases (c : Char) :
    (65 ≤ c.toNat ∧ c.toNat ≤ 90 ∧ c.toLower.toNat = c.toNat + 32) ∨
    (¬(65 ≤ c.toNat ∧ c.toNat ≤ 90) ∧ c.toLower = c) := by
  unfold Char.toLower
  split
  next capital =>
    have low : 65 ≤ c.toNat := UInt32.le_iff_toNat_le.1 capital.1
    have high : c.toNat ≤ 90 := UInt32.le_iff_toNat_le.1 capital.2
    refine .inl ⟨low, high, ?_⟩
    show (c.val + 32).toNat = c.val.toNat + 32
    rw [UInt32.toNat_add]
    exact Nat.mod_eq_of_lt (by have : c.val.toNat ≤ 90 := high; simp; omega)
  next other =>
    refine .inr ⟨fun capital => other ⟨?_, ?_⟩, rfl⟩
    · exact UInt32.le_iff_toNat_le.2 capital.1
    · exact UInt32.le_iff_toNat_le.2 capital.2

theorem toLower_toLower (c : Char) : c.toLower.toLower = c.toLower := by
  rcases toLower_cases c with ⟨low, high, small⟩ | ⟨-, same⟩
  · rcases toLower_cases c.toLower with ⟨-, high', -⟩ | ⟨-, same⟩
    · omega
    · exact same
  · rw [same, same]

theorem toLower_eq_dot_iff {c : Char} : c.toLower = '.' ↔ c = '.' := by
  constructor
  · intro dot
    rcases toLower_cases c with ⟨low, -, small⟩ | ⟨-, same⟩
    · rw [dot] at small
      have : '.'.toNat = 46 := rfl
      omega
    · rw [← same, dot]
  · rintro rfl
    rfl

/-- The extension of some file name: a dot, and no other dot behind it. -/
def IsExtension (ext : String) : Prop := ∃ rest, ext.toList = '.' :: rest ∧ '.' ∉ rest

/-- A name has an extension, or none. -/
theorem isExtension_splitExtension (name : String) :
    (splitExtension name).2 = "" ∨ IsExtension (splitExtension name).2 := by
  rw [splitExtension, splitChars]
  cases cut : Text.cutLast? '.' name.toList with
  | none => exact .inl rfl
  | some parts =>
    obtain ⟨stem, ext⟩ := parts
    dsimp only
    split
    · exact .inl rfl
    · exact .inr ⟨ext, String.toList_ofList, Text.not_mem_of_cutLast? cut⟩

/-- An extension is cut off a stem that is not all dots. -/
theorem splitExtension_append {stem ext : String} (solid : ∃ c ∈ stem.toList, c ≠ '.')
    (h : IsExtension ext) : splitExtension (stem ++ ext) = (stem, ext) := by
  obtain ⟨rest, hext, single⟩ := h
  have cut : Text.cutLast? '.' (stem.toList ++ '.' :: rest) = some (stem.toList, rest) := by
    have reversed : (stem.toList ++ '.' :: rest).reverse
        = rest.reverse ++ '.' :: stem.toList.reverse := by
      rw [List.reverse_append, List.reverse_cons, List.append_assoc]
      rfl
    rw [Text.cutLast?, reversed, Text.cut?_append_cons (mt List.mem_reverse.1 single)]
    simp
  have notDots : ¬(stem.toList.all (· == '.')) = true := by
    obtain ⟨c, hc, solid⟩ := solid
    intro dots
    exact solid (eq_of_beq (List.all_eq_true.1 dots c hc))
  rw [splitExtension, String.toList_append, hext, splitChars, cut]
  dsimp only
  rw [if_neg notDots, ← hext, String.ofList_toList, String.ofList_toList]

theorem toList_lower (s : String) : (lower s).toList = s.toList.map Char.toLower :=
  String.toList_ofList

theorem lower_lower (s : String) : lower (lower s) = lower s := by
  apply String.toList_inj.1
  rw [toList_lower, toList_lower, List.map_map]
  exact List.map_congr_left fun c _ => toLower_toLower c

/-- An extension in small letters is one still. -/
theorem IsExtension.lower {ext : String} (h : IsExtension ext) : IsExtension (lower ext) := by
  obtain ⟨rest, hext, single⟩ := h
  refine ⟨rest.map Char.toLower, by rw [toList_lower, hext]; rfl, fun mem => ?_⟩
  obtain ⟨c, hc, dot⟩ := List.mem_map.1 mem
  exact single (toLower_eq_dot_iff.1 dot ▸ hc)

theorem normalizeExtension_ne_empty (ext : String) : normalizeExtension ext ≠ "" := by
  unfold normalizeExtension
  intro h
  split at h
  all_goals exact absurd (congrArg String.toList h) (by rw [String.toList_ofList]; exact nofun)

/-- The spelling of the tables has small letters only. -/
theorem lower_normalizeExtension (ext : String) :
    lower (normalizeExtension ext) = normalizeExtension ext := by
  have small : (lower ext).toList.map Char.toLower = (lower ext).toList := by
    rw [← toList_lower, lower_lower]
  unfold normalizeExtension
  apply String.toList_inj.1
  rw [toList_lower]
  split
  next rest h =>
    rw [String.toList_ofList, ← h, small]
  next =>
    rw [String.toList_ofList, List.map_cons, small]
    rfl

end Media

namespace Site

open Media (IsExtension)

theorem dotted_of_isExtension {ext : String} (h : IsExtension ext) : Registry.dotted ext = ext := by
  obtain ⟨rest, hext, -⟩ := h
  rw [Registry.dotted, hext]
  rfl

end Site

/-! ## §2 Entries in any order -/

namespace Dict

variable {α : Type}

/-- The last of the entries put in under a key is found there, or what was there before. -/
theorem get?_insertAll (entries : List (String × α)) (d : Dict α) (key : String) :
    (insertAll entries d).get? key
      = entries.foldl (fun found e => if e.1 = key then some e.2 else found) (d.get? key) := by
  induction entries generalizing d with
  | nil => rfl
  | cons e rest ih =>
    have inserted : (d.insert e.1 e.2).get? key = if e.1 = key then some e.2 else d.get? key := by
      by_cases here : e.1 = key
      · rw [if_pos here, ← here, get?_insert_self]
      · rw [if_neg here, get?_insert_ne d e.2 (Ne.symm here)]
    show (insertAll rest (d.insert e.1 e.2)).get? key = _
    rw [ih, inserted, List.foldl_cons]

/-- Entries give one value to a key. -/
def AgreeAt (entries : List (String × α)) (key : String) : Prop :=
  ∀ e ∈ entries, ∀ e' ∈ entries, e.1 = key → e'.1 = key → e.2 = e'.2

/-- Entries that give one value to a key may be put in in any order. -/
theorem get?_insertAll_perm {entries entries' : List (String × α)} (h : entries.Perm entries')
    {key : String} (agree : AgreeAt entries key) (d : Dict α) :
    (insertAll entries d).get? key = (insertAll entries' d).get? key := by
  rw [get?_insertAll, get?_insertAll]
  refine h.foldl_eq' (fun e he e' he' found => ?_) _
  by_cases here : e.1 = key
  · by_cases there : e'.1 = key
    · simp only [if_pos here, if_pos there]
      rw [agree e he e' he' here there]
    · simp only [if_neg there]
  · simp only [if_neg here]

/-- An entry that is put in last is found. -/
theorem get?_insertAll_concat (entries : List (String × α)) (e : String × α) (d : Dict α) :
    (insertAll (entries ++ [e]) d).get? e.1 = some e.2 := by
  rw [get?_insertAll, List.foldl_append, List.foldl_cons, List.foldl_nil, if_pos rfl]

end Dict

/-- Entries with their keys spelled anew. -/
def respelled {α : Type} (spell : String → String) (entries : List (String × α)) :
    List (String × α) :=
  entries.map fun e => (spell e.1, e.2)

/-- No two entries that meet under an extension of file names differ. -/
def Unambiguous {α : Type} (spell : String → String) (entries : List (String × α)) : Prop :=
  ∀ e ∈ entries, ∀ e' ∈ entries, spell e.1 = spell e'.1 → Media.IsExtension (spell e.1) →
    e.2 = e'.2

theorem agreeAt_of_unambiguous {α : Type} {spell : String → String} {entries : List (String × α)}
    (h : Unambiguous spell entries) {ext : String} (isExtension : Media.IsExtension ext) :
    Dict.AgreeAt (respelled spell entries) ext := by
  intro e he e' he' hkey hkey'
  obtain ⟨e, mem, rfl⟩ := List.mem_map.1 he
  obtain ⟨e', mem', rfl⟩ := List.mem_map.1 he'
  have reached : Media.IsExtension (spell e.1) := by rwa [show spell e.1 = ext from hkey]
  exact h e mem e' mem' (hkey.trans hkey'.symm) reached

/-- No entry has a key that is never spelled. -/
theorem agreeAt_of_unspelled {α : Type} {spell : String → String} {key : String}
    (never : ∀ k, spell k ≠ key) (entries : List (String × α)) :
    Dict.AgreeAt (respelled spell entries) key := by
  intro e he _ _ hkey _
  obtain ⟨e, -, rfl⟩ := List.mem_map.1 he
  exact absurd hkey (never e.1)

/-- The last entry is found under its key as it is spelled. -/
theorem get?_respelled_concat {α : Type} (spell : String → String) (front : List (String × α))
    (e : String × α) (d : Dict α) :
    (Dict.insertAll (respelled spell (front ++ [e])) d).get? (spell e.1) = some e.2 := by
  rw [respelled, List.map_append]
  exact Dict.get?_insertAll_concat _ (spell e.1, e.2) d

/-- Any entry may be the last. -/
theorem exists_perm_concat {α : Type} {l : List α} {a : α} (h : a ∈ l) :
    ∃ front, l.Perm (front ++ [a]) := by
  obtain ⟨before, after, rfl⟩ := List.append_of_mem h
  have moved : (before ++ a :: after).Perm (a :: (before ++ after)) := List.perm_middle
  exact ⟨before ++ after, moved.trans (List.perm_append_singleton a _).symm⟩

/-- If no order of the entries gives an extension another value, no entries meet that differ: either of
    the two could be the last. -/
theorem unambiguous_of_orders {α : Type} {spell : String → String} {entries : List (String × α)}
    (d : Dict α)
    (h : ∀ {l l' : List (String × α)} {v v' : α} (key : String), entries.Perm l → entries.Perm l' →
      Media.IsExtension (spell key) →
      (Dict.insertAll (respelled spell l) d).get? (spell key) = some v →
      (Dict.insertAll (respelled spell l') d).get? (spell key) = some v' → v = v') :
    Unambiguous spell entries := by
  intro e he e' he' meet isExtension
  obtain ⟨front, last⟩ := exists_perm_concat he
  obtain ⟨front', last'⟩ := exists_perm_concat he'
  have found : (Dict.insertAll (respelled spell (front' ++ [e'])) d).get? (spell e.1) = some e'.2 := by
    rw [meet]
    exact get?_respelled_concat spell front' e' d
  exact h e.1 last last' isExtension (get?_respelled_concat spell front e d) found

/-! ## §3 The tables of a mount -/

namespace Site

open Media (IsExtension)

theorem types_toRoot (m : Config.Mount) : m.toRoot.types
    = Dict.insertAll (respelled Media.normalizeExtension m.types) Media.builtinTypes := rfl

theorem encodings_toRoot (m : Config.Mount) : m.toRoot.encodings
    = Dict.insertAll (respelled Media.normalizeExtension m.encodings) Media.builtinEncodings := rfl

theorem processors_toRoot (m : Config.Mount) : m.toRoot.processors
    = Dict.insertAll (respelled Registry.dotted m.processors) [] := by
  rw [Dict.insertAll, respelled, List.foldl_map]
  rfl

/-- Two roots tell the same type and the same processor of each name. -/
structure Root.SameRules (root other : Root) : Prop where
  media : ∀ name, root.mediaForName name = other.mediaForName name
  processors : ∀ name, root.processors.lookup name = other.processors.lookup name

/-- The mount with its tables in another order. -/
def reordered (m : Config.Mount) (types encodings : List (String × String))
    (processors : List (String × Processor)) : Config.Mount :=
  { m with types := types, encodings := encodings, processors := processors }

/-- In none of the tables of a mount do entries meet that differ. -/
structure UnambiguousTables (m : Config.Mount) : Prop where
  types : Unambiguous Media.normalizeExtension m.types
  encodings : Unambiguous Media.normalizeExtension m.encodings
  processors : Unambiguous Registry.dotted m.processors

/-- What a name asks a table for: an extension in small letters, or nothing. -/
theorem agreeAt_of_name {entries : List (String × String)}
    (h : Unambiguous Media.normalizeExtension entries) (name : String) :
    Dict.AgreeAt (respelled Media.normalizeExtension entries)
      (Media.lower (Media.splitExtension name).2) := by
  rcases Media.isExtension_splitExtension name with none | isExtension
  · rw [none]
    exact agreeAt_of_unspelled Media.normalizeExtension_ne_empty entries
  · exact agreeAt_of_unambiguous h isExtension.lower

/-- Tables without such entries may be in any order. -/
theorem sameRules_of_unambiguous {m : Config.Mount} (h : UnambiguousTables m)
    {types encodings : List (String × String)} {processors : List (String × Processor)}
    (htypes : m.types.Perm types) (hencodings : m.encodings.Perm encodings)
    (hprocessors : m.processors.Perm processors) :
    m.toRoot.SameRules (reordered m types encodings processors).toRoot := by
  have types_same (name : String) : m.toRoot.types.get? (Media.lower (Media.splitExtension name).2)
      = (reordered m types encodings processors).toRoot.types.get?
          (Media.lower (Media.splitExtension name).2) :=
    Dict.get?_insertAll_perm (htypes.map _) (agreeAt_of_name h.types name) Media.builtinTypes
  have encodings_same (name : String) :
      m.toRoot.encodings.get? (Media.lower (Media.splitExtension name).2)
        = (reordered m types encodings processors).toRoot.encodings.get?
            (Media.lower (Media.splitExtension name).2) :=
    Dict.get?_insertAll_perm (hencodings.map _) (agreeAt_of_name h.encodings name)
      Media.builtinEncodings
  constructor
  · intro name
    dsimp only [Root.mediaForName, Media.resolve]
    rw [encodings_same, types_same, types_same]
    rfl
  · intro name
    unfold Registry.lookup
    split
    next => rfl
    next _ some =>
      have isExtension := (Media.isExtension_splitExtension name).resolve_left some
      rw [dotted_of_isExtension isExtension, processors_toRoot, processors_toRoot]
      exact Dict.get?_insertAll_perm (hprocessors.map _)
        (agreeAt_of_unambiguous h.processors isExtension) []

theorem Root.SameRules.symm {root other : Root} (h : root.SameRules other) : other.SameRules root :=
  ⟨fun name => (h.media name).symm, fun name => (h.processors name).symm⟩

theorem Root.SameRules.trans {root other third : Root} (h : root.SameRules other)
    (h' : other.SameRules third) : root.SameRules third :=
  ⟨fun name => (h.media name).trans (h'.media name),
    fun name => (h.processors name).trans (h'.processors name)⟩

/-- A file name that asks for an extension. -/
def nameWith (ext : String) : String := "a" ++ ext

theorem splitExtension_nameWith {ext : String} (h : IsExtension ext) :
    Media.splitExtension (nameWith ext) = ("a", ext) :=
  Media.splitExtension_append ⟨'a', List.mem_singleton_self 'a', by decide⟩ h

/-- A file name with an extension in front of it. -/
theorem splitExtension_nameWith_append {ext : String} (h : IsExtension ext) :
    Media.splitExtension (nameWith ext ++ ext) = (nameWith ext, ext) := by
  have letter : 'a' ∈ (nameWith ext).toList := by
    rw [nameWith, String.toList_append]
    exact List.mem_append_left _ (List.mem_singleton_self 'a')
  exact Media.splitExtension_append ⟨'a', letter, by decide⟩ h

section Asked

variable {root other : Root} {ext : String} (isExtension : IsExtension ext)

include isExtension

theorem encoding_nameWith (small : Media.lower ext = ext) :
    (root.mediaForName (nameWith ext)).encoding = root.encodings.get? ext := by
  rw [Root.mediaForName, Media.resolve, splitExtension_nameWith isExtension]
  dsimp only
  rw [small]
  cases root.encodings.get? ext with
  | none => rfl
  | some encoding => rfl

theorem lookup_nameWith :
    root.processors.lookup (nameWith ext) = Dict.get? root.processors ext := by
  rw [Registry.lookup, splitExtension_nameWith isExtension]
  dsimp only
  split
  next =>
    obtain ⟨rest, hext, -⟩ := isExtension
    cases hext
  next => rw [dotted_of_isExtension isExtension]

/-- Roots that tell the same know the same encoding of an extension. -/
theorem Root.SameRules.encoding (same : root.SameRules other) (small : Media.lower ext = ext) :
    root.encodings.get? ext = other.encodings.get? ext := by
  rw [← encoding_nameWith isExtension small, ← encoding_nameWith isExtension small, same.media]

/-- Roots that tell the same know the same processor of an extension. -/
theorem Root.SameRules.processor (same : root.SameRules other) :
    Dict.get? root.processors ext = Dict.get? other.processors ext := by
  rw [← lookup_nameWith isExtension, ← lookup_nameWith isExtension, same.processors]

/-- Roots that tell the same know the same type of an extension, also of one that is an encoding:
    it is asked for below itself. -/
theorem Root.SameRules.type (same : root.SameRules other) (small : Media.lower ext = ext) :
    (root.types.get? ext).getD root.defaultType = (other.types.get? ext).getD other.defaultType := by
  have encoding := same.encoding isExtension small
  cases known : root.encodings.get? ext with
  | none =>
    have told := congrArg MediaType.contentType (same.media (nameWith ext))
    rw [Root.mediaForName, Root.mediaForName, Media.resolve, Media.resolve,
      splitExtension_nameWith isExtension] at told
    dsimp only at told
    rw [small, ← encoding, known] at told
    exact told
  | some found =>
    have told := congrArg MediaType.contentType (same.media (nameWith ext ++ ext))
    rw [Root.mediaForName, Root.mediaForName, Media.resolve, Media.resolve,
      splitExtension_nameWith_append isExtension] at told
    dsimp only at told
    rw [small, ← encoding, known, splitExtension_nameWith isExtension] at told
    dsimp only at told
    rw [small] at told
    exact told

end Asked

/-- If the order of no table shows, no entries meet that differ. -/
theorem unambiguous_of_sameRules {m : Config.Mount}
    (h : ∀ types encodings processors, m.types.Perm types → m.encodings.Perm encodings →
      m.processors.Perm processors →
      m.toRoot.SameRules (reordered m types encodings processors).toRoot) : UnambiguousTables m := by
  constructor
  · refine unambiguous_of_orders Media.builtinTypes fun key hl hl' isExtension hv hv' => ?_
    have same := (h _ _ _ hl (.refl _) (.refl _)).symm.trans (h _ _ _ hl' (.refl _) (.refl _))
    have told := same.type isExtension (Media.lower_normalizeExtension key)
    rw [types_toRoot, types_toRoot] at told
    dsimp only [reordered] at told
    rw [hv, hv'] at told
    exact told
  · refine unambiguous_of_orders Media.builtinEncodings fun key hl hl' isExtension hv hv' => ?_
    have same := (h _ _ _ (.refl _) hl (.refl _)).symm.trans (h _ _ _ (.refl _) hl' (.refl _))
    have told := same.encoding isExtension (Media.lower_normalizeExtension key)
    rw [encodings_toRoot, encodings_toRoot] at told
    dsimp only [reordered] at told
    rw [hv, hv'] at told
    exact Option.some.inj told
  · refine unambiguous_of_orders [] fun key hl hl' isExtension hv hv' => ?_
    have same := (h _ _ _ (.refl _) (.refl _) hl).symm.trans (h _ _ _ (.refl _) (.refl _) hl')
    have told := same.processor isExtension
    rw [processors_toRoot, processors_toRoot] at told
    dsimp only [reordered] at told
    rw [hv, hv'] at told
    exact Option.some.inj told

/-- The tables of a mount may be in any order, for whatever name types and processors are asked,
    exactly if no two entries of one table differ that meet under an extension of file names: spelled
    with a dot in front, and in the tables of types and encodings in small letters. -/
theorem sameRules_iff_unambiguous (m : Config.Mount) :
    (∀ types encodings processors, m.types.Perm types → m.encodings.Perm encodings →
      m.processors.Perm processors →
      m.toRoot.SameRules (reordered m types encodings processors).toRoot) ↔ UnambiguousTables m := by
  constructor
  · exact unambiguous_of_sameRules
  · intro unambiguous types encodings processors htypes hencodings hprocessors
    exact sameRules_of_unambiguous unambiguous htypes hencodings hprocessors

/-- A mount that has an extension twice, in small letters and in capitals, with two types. -/
def twiceMount : Config.Mount :=
  ⟨"/", "/srv", "text/html", [], [], [], [("log", "text/plain"), ("LOG", "text/csv")], []⟩

/-- Keys that differ may meet, and then the order shows. -/
theorem order_may_show :
    ¬∀ (m : Config.Mount) (types encodings : List (String × String))
      (processors : List (String × Processor)),
      (m.types.map Prod.fst).Nodup → (m.encodings.map Prod.fst).Nodup →
      (m.processors.map Prod.fst).Nodup → m.types.Perm types → m.encodings.Perm encodings →
      m.processors.Perm processors →
      m.toRoot.SameRules (reordered m types encodings processors).toRoot := by
  intro h
  have same := h twiceMount twiceMount.types.reverse [] [] (by decide) (by decide) (by decide)
    (List.reverse_perm _).symm (.refl _) (.refl _)
  have told := same.media "a.log"
  exact absurd told (by decide +kernel)

end Site

end StaticSite
