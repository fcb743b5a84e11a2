/-
  TYPES AND ENCODINGS: what the tables of a mount tell of a file name.

  A name ENDS IN an extension: a dot with no dot behind it, and in front of it a stem that is not all
  dots (`EndsIn`).  There is at most one such cut, and `splitExtension` makes it
  (`splitExtension_cases`).

  A table LISTS a value of an extension if one of its own entries spells it, whatever the case of the
  letters and with the dot in front or without it, and else if it is a well-known one (`Lists`).  The
  tables are put together with their keys spelled anew, and asked in small letters: both come to the
  same where no two keys become one (`get?_toRoot_iff`).

  So a name tells its type and its encoding by its last extension, or by the last two if the last is an
  encoding (`Tells`, `mediaForName_iff_tells`).  As nothing in this looks at the case of letters, or at
  whether a key has its dot, neither shows.

  Numbered structure:
    §1  the extension of a name
    §2  how an extension is spelled
    §3  what a table lists
    §4  what a name tells
    §5  names and keys in other letters
-/
import StaticSite.Proofs.Site.Tables
import Mathlib.Data.List.Nodup

namespace StaticSite

namespace Media

/-! ## §1 The extension of a name -/

/-- A name is a stem that is not all dots, and an extension, which begins with the last dot. -/
structure EndsIn (name stem ext : String) : Prop where
  whole : name = stem ++ ext
  extension : IsExtension ext
  solid : ∃ c ∈ stem.toList, c ≠ '.'

/-- Every name is cut at its extension, if it has one. -/
theorem splitExtension_cases (name : String) :
    (∃ stem ext, EndsIn name stem ext ∧ splitExtension name = (stem, ext)) ∨
    ((¬∃ stem ext, EndsIn name stem ext) ∧ splitExtension name = (name, "")) := by
  by_cases ends : ∃ stem ext, EndsIn name stem ext
  · obtain ⟨stem, ext, ends⟩ := ends
    exact .inl ⟨stem, ext, ends, ends.whole ▸ splitExtension_append ends.solid ends.extension⟩
  · refine .inr ⟨ends, ?_⟩
    rw [splitExtension, splitChars]
    cases cut : Text.cutLast? '.' name.toList with
    | none => rw [String.ofList_toList]
    | some parts =>
      obtain ⟨stem, rest⟩ := parts
      dsimp only
      split
      next => rw [String.ofList_toList]
      next solid =>
        refine absurd ⟨String.ofList stem, String.ofList ('.' :: rest), ?_, ?_, ?_⟩ ends
        · rw [← String.ofList_append, ← Text.eq_of_cutLast? cut, String.ofList_toList]
        · exact ⟨rest, String.toList_ofList, Text.not_mem_of_cutLast? cut⟩
        · rw [String.toList_ofList]
          simpa using solid

theorem EndsIn.splitExtension {name stem ext : String} (h : EndsIn name stem ext) :
    splitExtension name = (stem, ext) :=
  h.whole ▸ splitExtension_append h.solid h.extension

section

variable {name : String} {types encodings : Dict String} {default : String}

/-- An extension that is listed as an encoding is looked through. -/
theorem resolve_of_encoded {encoding : String}
    (found : encodings.get? (lower (splitExtension name).2) = some encoding) :
    resolve name types encodings default
      = ⟨(types.get? (lower (splitExtension (splitExtension name).1).2)).getD default,
          some encoding⟩ := by
  dsimp only [resolve]
  rw [found]

theorem resolve_of_plain (found : encodings.get? (lower (splitExtension name).2) = none) :
    resolve name types encodings default
      = ⟨(types.get? (lower (splitExtension name).2)).getD default, none⟩ := by
  dsimp only [resolve]
  rw [found]

end

/-! ## §2 How an extension is spelled -/

/-- A key spells an extension in any letters, with its dot or without it. -/
def Spells (key ext : String) : Prop := lower key = lower ext ∨ lower ("." ++ key) = lower ext

theorem lower_append (s t : String) : lower (s ++ t) = lower s ++ lower t := by
  apply String.toList_inj.1
  rw [toList_lower, String.toList_append, String.toList_append, List.map_append, toList_lower,
    toList_lower]

/-- A dot is put in front of a key that has none. -/
theorem normalizeExtension_cases (key : String) :
    (key.toList.head? = some '.' ∧ normalizeExtension key = lower key) ∨
    (key.toList.head? ≠ some '.' ∧ normalizeExtension key = lower ("." ++ key)) := by
  have small : (lower key).toList.head? = some '.' ↔ key.toList.head? = some '.' := by
    rw [toList_lower, List.head?_map, Option.map_eq_some_iff]
    constructor
    · rintro ⟨c, hc, dot⟩
      rw [hc, toLower_eq_dot_iff.1 dot]
    · intro dot
      exact ⟨'.', dot, rfl⟩
  unfold normalizeExtension
  split
  next rest hrest =>
    refine .inl ⟨small.1 (by rw [hrest]; rfl), ?_⟩
    rw [← hrest, String.ofList_toList]
  next bare =>
    refine .inr ⟨fun dot => ?_, ?_⟩
    · obtain ⟨rest, hrest⟩ := List.head?_eq_some_iff.1 (small.2 dot)
      exact bare rest hrest
    · apply String.toList_inj.1
      rw [String.toList_ofList, lower_append, String.toList_append]
      rfl

/-- A key is put into a table as the extension that it spells. -/
theorem normalizeExtension_eq_lower_iff {key ext : String} (h : IsExtension ext) :
    normalizeExtension key = lower ext ↔ Spells key ext := by
  obtain ⟨rest, hext, single⟩ := h.lower
  have starts : (lower ext).toList.head? = some '.' := by rw [hext]; rfl
  rcases normalizeExtension_cases key with ⟨dot, hkey⟩ | ⟨bare, hkey⟩
  · rw [hkey]
    refine ⟨.inl, fun h => h.resolve_right fun twice => ?_⟩
    -- a second dot would stand behind the first
    obtain ⟨others, hothers⟩ := List.head?_eq_some_iff.1 dot
    have listed := congrArg String.toList twice
    rw [toList_lower, String.toList_append, hothers, hext] at listed
    cases listed
    exact single (List.mem_cons_self ..)
  · rw [hkey]
    refine ⟨.inr, fun h => h.resolve_left fun same => bare ?_⟩
    rw [← same, toList_lower, List.head?_map, Option.map_eq_some_iff] at starts
    obtain ⟨c, hc, dot⟩ := starts
    rw [hc, toLower_eq_dot_iff.1 dot]

end Media

/-! ## §3 What a table lists -/

namespace Dict

variable {α : Type}

theorem get?_eq_some_iff_mem {d : Dict α} (distinct : (d.map Prod.fst).Nodup) {key : String}
    {value : α} : d.get? key = some value ↔ (key, value) ∈ d := by
  induction d with
  | nil => exact ⟨nofun, nofun⟩
  | cons e rest ih =>
    obtain ⟨k, v⟩ := e
    obtain ⟨new, others⟩ := List.nodup_cons.1 distinct
    rw [get?, List.mem_cons, Prod.mk.injEq]
    split
    next here =>
      subst here
      refine ⟨fun h => .inl ⟨rfl, (Option.some.inj h).symm⟩, ?_⟩
      rintro (⟨-, rfl⟩ | later)
      · rfl
      · exact absurd (List.mem_map.2 ⟨_, later, rfl⟩) new
    next differs =>
      rw [ih others]
      refine ⟨.inr, ?_⟩
      rintro (⟨rfl, -⟩ | later)
      · exact absurd rfl differs
      · exact later

/-- Entries with different keys are all found, and hide nothing else. -/
theorem get?_insertAll_iff {entries : List (String × α)} (distinct : (entries.map Prod.fst).Nodup)
    (d : Dict α) {key : String} {value : α} : (insertAll entries d).get? key = some value ↔
      (key, value) ∈ entries ∨ (∀ e ∈ entries, e.1 ≠ key) ∧ d.get? key = some value := by
  induction entries generalizing d with
  | nil => exact ⟨fun h => .inr ⟨nofun, h⟩, fun h => h.elim nofun And.right⟩
  | cons e rest ih =>
    obtain ⟨k, v⟩ := e
    obtain ⟨new, others⟩ := List.nodup_cons.1 distinct
    show (insertAll rest (d.insert k v)).get? key = some value ↔ _
    rw [ih others, List.mem_cons, List.forall_mem_cons, Prod.mk.injEq]
    by_cases here : k = key
    · subst here
      have absent : ∀ e ∈ rest, e.1 ≠ k := fun e he same => new (List.mem_map.2 ⟨e, he, same⟩)
      rw [get?_insert_self]
      constructor
      · rintro (later | ⟨-, found⟩)
        · exact .inl (.inr later)
        · exact .inl (.inl ⟨rfl, (Option.some.inj found).symm⟩)
      · rintro ((⟨-, rfl⟩ | later) | ⟨⟨first, -⟩, -⟩)
        · exact .inr ⟨absent, rfl⟩
        · exact .inl later
        · exact absurd rfl first
    · rw [get?_insert_ne d v (Ne.symm here)]
      constructor
      · rintro (later | ⟨absent, found⟩)
        · exact .inl (.inr later)
        · exact .inr ⟨⟨here, absent⟩, found⟩
      · rintro ((⟨same, -⟩ | later) | ⟨⟨-, absent⟩, found⟩)
        · exact absurd same.symm here
        · exact .inl later
        · exact .inr ⟨absent, found⟩

end Dict

namespace Site

open Media (IsExtension EndsIn Spells)

/-- The value that a table has of an extension: that of an entry of its own which spells it, or of a
    well-known one if there is no such entry. -/
inductive Lists (entries : List (String × String)) (known : Dict String) (ext : String) :
    String → Prop
  | own {key value : String} (mem : (key, value) ∈ entries) (spelled : Spells key ext) :
      Lists entries known ext value
  | known {key value : String} (free : ∀ e ∈ entries, ¬Spells e.1 ext) (mem : (key, value) ∈ known)
      (same : Media.lower key = Media.lower ext) : Lists entries known ext value

/-- No two keys become one as they are spelled anew. -/
def DistinctKeys (entries : List (String × String)) : Prop :=
  (entries.map fun e => Media.normalizeExtension e.1).Nodup

/-- A table of well-known extensions has each once, in small letters. -/
structure WellKnown (known : Dict String) : Prop where
  distinct : (known.map Prod.fst).Nodup
  small : ∀ e ∈ known, Media.lower e.1 = e.1
  some : ∀ e ∈ known, e.1 ≠ ""

theorem wellKnown_builtinTypes : WellKnown Media.builtinTypes :=
  ⟨by decide +kernel, by decide +kernel, by decide +kernel⟩

theorem wellKnown_builtinEncodings : WellKnown Media.builtinEncodings :=
  ⟨by decide +kernel, by decide +kernel, by decide +kernel⟩

section

variable {entries : List (String × String)} {known : Dict String}

theorem DistinctKeys.respelled (distinct : DistinctKeys entries) :
    ((respelled Media.normalizeExtension entries).map Prod.fst).Nodup := by
  rw [StaticSite.respelled, List.map_map]
  exact distinct

theorem mem_respelled_iff {key value : String} :
    (key, value) ∈ respelled Media.normalizeExtension entries ↔
      ∃ k, (k, value) ∈ entries ∧ Media.normalizeExtension k = key := by
  rw [respelled, List.mem_map]
  constructor
  · rintro ⟨⟨k, v⟩, mem, same⟩
    cases same
    exact ⟨k, mem, rfl⟩
  · rintro ⟨k, mem, rfl⟩
    exact ⟨(k, value), mem, rfl⟩

/-- A table is asked for an extension in small letters, and has what it lists of it. -/
theorem get?_insertAll_respelled_iff (distinct : DistinctKeys entries) (wellKnown : WellKnown known)
    {ext : String} (isExtension : IsExtension ext) {value : String} :
    (Dict.insertAll (respelled Media.normalizeExtension entries) known).get? (Media.lower ext)
      = some value ↔ Lists entries known ext value := by
  rw [Dict.get?_insertAll_iff distinct.respelled, Dict.get?_eq_some_iff_mem wellKnown.distinct,
    mem_respelled_iff]
  constructor
  · rintro (⟨key, mem, spelled⟩ | ⟨free, mem⟩)
    · exact .own mem ((Media.normalizeExtension_eq_lower_iff isExtension).1 spelled)
    · refine .known (fun e he spelled => ?_) mem (Media.lower_lower ext)
      exact free _ (mem_respelled_iff.2 ⟨e.1, he, rfl⟩)
        ((Media.normalizeExtension_eq_lower_iff isExtension).2 spelled)
  · rintro (⟨mem, spelled⟩ | ⟨free, mem, same⟩)
    · exact .inl ⟨_, mem, (Media.normalizeExtension_eq_lower_iff isExtension).2 spelled⟩
    · rename_i key
      have small : key = Media.lower ext := (wellKnown.small _ mem).symm.trans same
      refine .inr ⟨fun e he here => ?_, small ▸ mem⟩
      obtain ⟨k, hk, hspelled⟩ := mem_respelled_iff.1 he
      exact free _ hk ((Media.normalizeExtension_eq_lower_iff isExtension).1 (hspelled.trans here))

/-- Nothing is listed for no extension. -/
theorem get?_insertAll_respelled_blank (distinct : DistinctKeys entries)
    (wellKnown : WellKnown known) :
    (Dict.insertAll (respelled Media.normalizeExtension entries) known).get? "" = none := by
  rw [Option.eq_none_iff_forall_ne_some]
  intro value found
  rw [Dict.get?_insertAll_iff distinct.respelled, Dict.get?_eq_some_iff_mem wellKnown.distinct,
    mem_respelled_iff] at found
  rcases found with ⟨key, -, blank⟩ | ⟨-, mem⟩
  · exact Media.normalizeExtension_ne_empty key blank
  · exact wellKnown.some _ mem rfl

/-- A name asks a table for its extension, and for nothing if it has none. -/
theorem get?_of_name_iff (distinct : DistinctKeys entries) (wellKnown : WellKnown known)
    (name value : String) :
    (Dict.insertAll (respelled Media.normalizeExtension entries) known).get?
        (Media.lower (Media.splitExtension name).2) = some value ↔
      ∃ stem ext, EndsIn name stem ext ∧ Lists entries known ext value := by
  rcases Media.splitExtension_cases name with ⟨stem, ext, ends, hsplit⟩ | ⟨bare, hsplit⟩
  · rw [hsplit, get?_insertAll_respelled_iff distinct wellKnown ends.extension]
    refine ⟨fun listed => ⟨stem, ext, ends, listed⟩, ?_⟩
    rintro ⟨stem', ext', ends', listed⟩
    cases ends'.splitExtension.symm.trans hsplit
    exact listed
  · have blank : Media.lower "" = "" := by decide
    rw [hsplit, blank, get?_insertAll_respelled_blank distinct wellKnown]
    refine ⟨nofun, ?_⟩
    rintro ⟨stem, ext, ends, -⟩
    exact absurd ⟨stem, ext, ends⟩ bare

end

/-! ## §4 What a name tells -/

/-- The type that a name tells: what its extension is listed with, or that of files of which nothing
    is known if it is not listed, or if the name has none. -/
inductive TellsType (m : Config.Mount) : String → String → Prop
  | listed {name stem ext type : String} (ends : EndsIn name stem ext)
      (listed : Lists m.types Media.builtinTypes ext type) : TellsType m name type
  | unlisted {name : String} (unlisted : ¬∃ type stem ext, EndsIn name stem ext ∧
      Lists m.types Media.builtinTypes ext type) : TellsType m name m.defaultType

/-- Type and encoding that a name tells.  An extension that is listed as an encoding is one, and the
    type is that of the stem; one layer is looked through, no more. -/
inductive Tells (m : Config.Mount) : String → MediaType → Prop
  | encoded {name stem ext encoding below : String} (ends : EndsIn name stem ext)
      (listed : Lists m.encodings Media.builtinEncodings ext encoding)
      (type : TellsType m stem below) : Tells m name ⟨below, some encoding⟩
  | plain {name own : String} (unlisted : ¬∃ encoding stem ext, EndsIn name stem ext ∧
      Lists m.encodings Media.builtinEncodings ext encoding)
      (type : TellsType m name own) : Tells m name ⟨own, none⟩

section

variable {m : Config.Mount}

theorem getD_types_iff_tellsType (types : DistinctKeys m.types) (name : String) {type : String} :
    (m.toRoot.types.get? (Media.lower (Media.splitExtension name).2)).getD m.toRoot.defaultType = type ↔
      TellsType m name type := by
  have lists := get?_of_name_iff types wellKnown_builtinTypes name
  rw [types_toRoot]
  cases found : (Dict.insertAll (respelled Media.normalizeExtension m.types)
      Media.builtinTypes).get? (Media.lower (Media.splitExtension name).2) with
  | some value =>
    obtain ⟨stem, ext, ends, listed⟩ := (lists _).1 found
    rw [Option.getD_some]
    constructor
    · rintro rfl
      exact .listed ends listed
    · rintro (⟨ends', listed'⟩ | unlisted)
      · have found' := (lists _).2 ⟨_, _, ends', listed'⟩
        rw [found] at found'
        exact Option.some.inj found'
      · exact absurd ⟨value, stem, ext, ends, listed⟩ unlisted
  | none =>
    have unlisted : ¬∃ value stem ext, EndsIn name stem ext ∧
        Lists m.types Media.builtinTypes ext value := by
      rintro ⟨value, listed⟩
      rw [← lists, found] at listed
      cases listed
    rw [Option.getD_none]
    constructor
    · rintro rfl
      exact .unlisted unlisted
    · rintro (⟨ends, listed⟩ | _)
      · exact absurd ⟨_, _, _, ends, listed⟩ unlisted
      · rfl

/-- A mount tells of a name what its tables list. -/
theorem mediaForName_iff_tells (types : DistinctKeys m.types) (encodings : DistinctKeys m.encodings)
    {name : String} {media : MediaType} : m.toRoot.mediaForName name = media ↔ Tells m name media := by
  have lists := get?_of_name_iff encodings wellKnown_builtinEncodings name
  rw [Root.mediaForName, encodings_toRoot]
  cases found : (Dict.insertAll (respelled Media.normalizeExtension m.encodings)
      Media.builtinEncodings).get? (Media.lower (Media.splitExtension name).2) with
  | some encoding =>
    obtain ⟨stem, ext, ends, listed⟩ := (lists _).1 found
    rw [Media.resolve_of_encoded found]
    constructor
    · rintro rfl
      refine .encoded ends listed ((getD_types_iff_tellsType types stem).1 ?_)
      rw [ends.splitExtension]
    · rintro (⟨ends', listed', type⟩ | ⟨unlisted, -⟩)
      · have found' := (lists _).2 ⟨_, _, ends', listed'⟩
        rw [found] at found'
        cases found'
        rw [ends'.splitExtension, (getD_types_iff_tellsType types _).2 type]
      · exact absurd ⟨encoding, stem, ext, ends, listed⟩ unlisted
  | none =>
    have unlisted : ¬∃ value stem ext, EndsIn name stem ext ∧
        Lists m.encodings Media.builtinEncodings ext value := by
      rintro ⟨value, listed⟩
      rw [← lists, found] at listed
      cases listed
    rw [Media.resolve_of_plain found]
    constructor
    · rintro rfl
      exact .plain unlisted ((getD_types_iff_tellsType types name).1 rfl)
    · rintro (⟨ends, listed, -⟩ | ⟨-, type⟩)
      · exact absurd ⟨_, _, _, ends, listed⟩ unlisted
      · rw [(getD_types_iff_tellsType types name).2 type]

end

/-! ## §5 Other letters -/

end Site

namespace Media

/-- Names in the same letters, but for their case, are cut alike. -/
theorem EndsIn.of_same_letters {name name' stem ext : String} (h : EndsIn name stem ext)
    (same : lower name' = lower name) :
    ∃ stem' ext', EndsIn name' stem' ext' ∧ lower stem' = lower stem ∧ lower ext' = lower ext := by
  have cut := congrArg String.toList same
  rw [h.whole, lower_append, String.toList_append, toList_lower] at cut
  obtain ⟨front, back, hname, hfront, hback⟩ := List.map_eq_append_iff.1 cut
  have stem_same : lower (String.ofList front) = lower stem := by
    apply String.toList_inj.1
    rw [toList_lower, String.toList_ofList, hfront]
  have ext_same : lower (String.ofList back) = lower ext := by
    apply String.toList_inj.1
    rw [toList_lower, String.toList_ofList, hback]
  refine ⟨String.ofList front, String.ofList back, ⟨?_, ?_, ?_⟩, stem_same, ext_same⟩
  · rw [← String.ofList_append, ← hname, String.ofList_toList]
  · obtain ⟨rest, hrest, single⟩ := h.extension.lower
    rw [hrest] at hback
    obtain ⟨dot, others, rfl, hdot, rfl⟩ := List.map_eq_cons_iff.1 hback
    refine ⟨others, by rw [String.toList_ofList, toLower_eq_dot_iff.1 hdot], fun mem => single ?_⟩
    exact List.mem_map.2 ⟨'.', mem, rfl⟩
  · obtain ⟨c, hc, solid⟩ := h.solid
    have small : c.toLower ∈ front.map Char.toLower := by
      rw [hfront, toList_lower]
      exact List.mem_map_of_mem hc
    obtain ⟨c', hc', hsame⟩ := List.mem_map.1 small
    refine ⟨c', by rwa [String.toList_ofList], fun dot => solid (toLower_eq_dot_iff.1 ?_)⟩
    rw [← hsame, dot]
    rfl

theorem splitExtension_of_same_letters {name name' : String} (same : lower name' = lower name) :
    lower (splitExtension name').1 = lower (splitExtension name).1 ∧
      lower (splitExtension name').2 = lower (splitExtension name).2 := by
  rcases splitExtension_cases name with ⟨stem, ext, ends, hsplit⟩ | ⟨bare, hsplit⟩
  · obtain ⟨stem', ext', ends', hstem, hext⟩ := ends.of_same_letters same
    rw [hsplit, ends'.splitExtension]
    exact ⟨hstem, hext⟩
  · rcases splitExtension_cases name' with ⟨stem', ext', ends', -⟩ | ⟨-, hsplit'⟩
    · obtain ⟨stem, ext, ends, -⟩ := ends'.of_same_letters same.symm
      exact absurd ⟨stem, ext, ends⟩ bare
    · rw [hsplit, hsplit']
      exact ⟨same, rfl⟩

/-- A key in other letters, or with a dot in front where it had none. -/
inductive Respells : String → String → Prop
  | letters {key key' : String} (same : lower key' = lower key) : Respells key key'
  | dotted {key key' : String} (bare : key.toList.head? ≠ some '.')
      (same : lower key' = lower ("." ++ key)) : Respells key key'

theorem normalizeExtension_of_same_letters {key key' : String} (same : lower key' = lower key) :
    normalizeExtension key' = normalizeExtension key := by
  rw [normalizeExtension, same, ← normalizeExtension]

/-- A key that is spelled another way is spelled anew as before. -/
theorem Respells.normalizeExtension {key key' : String} (h : Respells key key') :
    normalizeExtension key' = normalizeExtension key := by
  cases h with
  | letters same => exact normalizeExtension_of_same_letters same
  | dotted bare same =>
    rw [normalizeExtension_of_same_letters same]
    have dot : ("." ++ key).toList.head? = some '.' := by rw [String.toList_append]; rfl
    rcases normalizeExtension_cases key with ⟨dot, -⟩ | ⟨-, hkey⟩
    · exact absurd dot bare
    · rcases normalizeExtension_cases ("." ++ key) with ⟨-, hdotted⟩ | ⟨none, -⟩
      · rw [hkey, hdotted]
      · exact absurd dot none

end Media

namespace Site

open Media (EndsIn Respells)

/-- The same entries, each with its key spelled this way or that, in any order. -/
def Respelt (entries entries' : List (String × String)) : Prop :=
  ∃ l, List.Forall₂ (fun e e' => Respells e.1 e'.1 ∧ e'.2 = e.2) entries l ∧ l.Perm entries'

/-- A table does not show how its keys were spelled. -/
theorem get?_of_respelt {entries entries' : List (String × String)} (distinct : DistinctKeys entries)
    (h : Respelt entries entries') (known : Dict String) (key : String) :
    (Dict.insertAll (respelled Media.normalizeExtension entries') known).get? key
      = (Dict.insertAll (respelled Media.normalizeExtension entries) known).get? key := by
  obtain ⟨l, spelled, perm⟩ := h
  have same : respelled Media.normalizeExtension l = respelled Media.normalizeExtension entries := by
    clear distinct perm
    induction spelled with
    | nil => rfl
    | @cons e e' rest rest' first _ ih =>
      show (_, e'.2) :: respelled Media.normalizeExtension rest' = _ :: respelled _ rest
      rw [ih, first.1.normalizeExtension, first.2]
  have agree : Dict.AgreeAt (respelled Media.normalizeExtension entries) key := by
    intro e he e' he' hkey hkey'
    rw [List.inj_on_of_nodup_map distinct.respelled he he' (hkey.trans hkey'.symm)]
  rw [← same] at agree ⊢
  exact (Dict.get?_insertAll_perm (perm.map _) agree known).symm

theorem mediaForName_of_same_letters (root : Root) {name name' : String}
    (same : Media.lower name' = Media.lower name) : root.mediaForName name' = root.mediaForName name := by
  obtain ⟨stem, ext⟩ := Media.splitExtension_of_same_letters same
  dsimp only [Root.mediaForName, Media.resolve]
  rw [ext, (Media.splitExtension_of_same_letters stem).2]

/-- Of every file name a mount tells the type and the encoding that its tables list, if no two keys of a
    table become one, and nothing else; neither the letters of the name, nor those of the keys, nor the
    dots in front of them show. -/
theorem mediaForName_tells {m : Config.Mount} (types : DistinctKeys m.types)
    (encodings : DistinctKeys m.encodings) (name : String) :
    (∀ media, m.toRoot.mediaForName name = media ↔ Tells m name media) ∧
    (∀ name', Media.lower name' = Media.lower name →
      m.toRoot.mediaForName name' = m.toRoot.mediaForName name) ∧
    ∀ m' : Config.Mount, m'.defaultType = m.defaultType → Respelt m.types m'.types →
      Respelt m.encodings m'.encodings → m'.toRoot.mediaForName name = m.toRoot.mediaForName name := by
  refine ⟨fun media => mediaForName_iff_tells types encodings, fun name' same =>
    mediaForName_of_same_letters m.toRoot same, fun m' default types' encodings' => ?_⟩
  have default_same : m'.toRoot.defaultType = m.toRoot.defaultType := default
  have types_same (key : String) : m'.toRoot.types.get? key = m.toRoot.types.get? key :=
    get?_of_respelt types types' Media.builtinTypes key
  have encodings_same (key : String) : m'.toRoot.encodings.get? key = m.toRoot.encodings.get? key :=
    get?_of_respelt encodings encodings' Media.builtinEncodings key
  dsimp only [Root.mediaForName, Media.resolve]
  rw [encodings_same, types_same, types_same, default_same]

/-- A mount with a type and an encoding of its own, and the same with its keys in other letters. -/
def logMount : Config.Mount :=
  ⟨"/", "/srv", "application/octet-stream", [], [], [], [("log", "text/csv"), (".TXT", "text/x-own")],
    [("zst", "zstd")]⟩

def loudMount : Config.Mount :=
  { logMount with types := [(".txt", "text/x-own"), (".LOG", "text/csv")], encodings := [("ZST", "zstd")] }

/-- A name with two extensions, in letters of both kinds. -/
theorem media_of_packed_log : DistinctKeys logMount.types ∧ DistinctKeys logMount.encodings ∧
    logMount.toRoot.mediaForName "a.Log.ZST" = ⟨"text/csv", some "zstd"⟩ ∧
    logMount.toRoot.mediaForName "A.LOG.zst" = ⟨"text/csv", some "zstd"⟩ ∧
    loudMount.toRoot.mediaForName "a.Log.ZST" = ⟨"text/csv", some "zstd"⟩ := by
  have types : DistinctKeys logMount.types := by unfold DistinctKeys; decide
  have encodings : DistinctKeys logMount.encodings := by unfold DistinctKeys; decide
  have packed : EndsIn "a.Log.ZST" "a.Log" ".ZST" :=
    ⟨by decide, ⟨['Z', 'S', 'T'], by decide, by decide⟩, 'a', by decide, by decide⟩
  have log : EndsIn "a.Log" "a" ".Log" :=
    ⟨by decide, ⟨['L', 'o', 'g'], by decide, by decide⟩, 'a', by decide, by decide⟩
  have zst : Lists logMount.encodings Media.builtinEncodings ".ZST" "zstd" :=
    .own (.head _) (.inr (by decide))
  have csv : Lists logMount.types Media.builtinTypes ".Log" "text/csv" :=
    .own (.head _) (.inr (by decide))
  have respelt : Respelt logMount.types loudMount.types :=
    ⟨[(".LOG", "text/csv"), (".txt", "text/x-own")],
      .cons ⟨.dotted (by decide) (by decide), rfl⟩ (.cons ⟨.letters (by decide), rfl⟩ .nil),
      .swap _ _ _⟩
  have respelt' : Respelt logMount.encodings loudMount.encodings :=
    ⟨[("ZST", "zstd")], .cons ⟨.letters (by decide), rfl⟩ .nil, .refl _⟩
  obtain ⟨told, letters, keys⟩ := mediaForName_tells types encodings "a.Log.ZST"
  have here := (told _).2 (.encoded packed zst (.listed log csv))
  exact ⟨types, encodings, here, (letters "A.LOG.zst" (by decide)).trans here,
    (keys loudMount rfl respelt respelt').trans here⟩

end Site

end StaticSite
