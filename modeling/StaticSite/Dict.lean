/-
  DICTIONARIES: small maps with text keys.

  A dictionary is the list of its entries in ascending order of their keys.  Looking a key up
  takes the first entry with that key, so the two laws below hold of every list of entries,
  sorted or not:

    get?_insert_self   what was put under a key is found there
    get?_insert_ne     all other keys keep their values
-/

namespace StaticSite

/-- A map from strings, as the list of its entries. -/
abbrev Dict (α : Type) := List (String × α)

namespace Dict

variable {α : Type}

/-- The value under a key. -/
def get? : Dict α → String → Option α
  | [], _ => none
  | (k, v) :: rest, key => if k = key then some v else get? rest key

/-- Puts a value under a key, in the place that keeps the keys ascending. -/
def insert (key : String) (value : α) : Dict α → Dict α
  | [] => [(key, value)]
  | (k, v) :: rest =>
    if k = key then (key, value) :: rest
    else if key < k then (key, value) :: (k, v) :: rest
    else (k, v) :: insert key value rest

/-- Puts entries one after the other; of two with one key the later stays. -/
def insertAll (entries : List (String × α)) (d : Dict α) : Dict α :=
  entries.foldl (fun d e => d.insert e.1 e.2) d

/-- The dictionary of the entries; of two with one key the later stays. -/
def ofList (entries : List (String × α)) : Dict α := insertAll entries []

/-- Whether a key has a value. -/
def contains (d : Dict α) (key : String) : Bool := (d.get? key).isSome

theorem get?_insert_self (d : Dict α) (key : String) (value : α) :
    (d.insert key value).get? key = some value := by
  induction d with
  | nil => simp [insert, get?]
  | cons e rest ih =>
    obtain ⟨k, v⟩ := e
    unfold insert
    split
    · simp [get?]
    · split
      · simp [get?]
      · rename_i hne _
        simp [get?, hne, ih]

theorem get?_insert_ne (d : Dict α) {key other : String} (value : α) (h : other ≠ key) :
    (d.insert key value).get? other = d.get? other := by
  have h' : key ≠ other := fun e => h e.symm
  induction d with
  | nil => simp [insert, get?, h']
  | cons e rest ih =>
    obtain ⟨k, v⟩ := e
    unfold insert
    split
    · rename_i hk
      subst hk
      simp [get?, h']
    · split
      · simp [get?, h']
      · by_cases hko : k = other
        · simp [get?, hko]
        · simp [get?, hko, ih]

end Dict

end StaticSite
