/-
  TREES OF TABLES: a TOML document while it is put together.

  A document names tables in headers, lists of tables in double headers, and values under keys
  that may be dotted.  What may still be added to a table depends on where the table comes from,
  so a tree remembers that beside the values:

    * a table opened by a HEADER may not be opened again, nor be extended by a dotted key;
    * a table IMPLIED by a longer header may be opened once;
    * a table made by a DOTTED key may be extended by dotted keys, but not be opened.

  A key never gets two values.  Entries stand in the order in which the document makes them; a
  table that was implied before counts from its own header.
-/
import StaticSite.Config.Value

namespace StaticSite.Config.Toml

/-- Where a table comes from. -/
inductive Origin
  | header
  | implied
  | dotted
deriving DecidableEq, Repr

/-- What stands under a key: a value, a table, or a list of tables of which `last` is the one that
    later lines add to. -/
inductive Item
  | value (v : Value)
  | table (origin : Origin) (entries : List (String × Item))
  | tables (earlier : List (List (String × Item))) (last : List (String × Item))
deriving Inhabited

/-- The entries of a table, in the order in which they are written. -/
abbrev Entries := Dict Item

/-- Puts an item under a key: in the place of what stood there, else at the end. -/
def Entries.put (name : String) (item : Item) : Entries → Entries
  | [] => [(name, item)]
  | (key, there) :: rest =>
    if key = name then (name, item) :: rest else (key, there) :: put name item rest

/-- The entries without those under a key. -/
def Entries.without (name : String) (es : Entries) : Entries := es.filter fun e => e.1 ≠ name

/-- Puts a value under a key that may be dotted.  `extensible` says whether entries may be put
    here directly; they always may in the table where the key starts. -/
def Entries.assign (extensible : Bool) : List String → Value → Entries → Option Entries
  | [], _, _ => none
  | [name], v, es =>
    if extensible && !es.contains name then some (es.put name (.value v)) else none
  | name :: rest, v, es =>
    match es.get? name with
    | none => (assign true rest v []).map fun sub => es.put name (.table .dotted sub)
    | some (.table .header _) => none
    | some (.table origin sub) =>
      (assign (origin == .dotted) rest v sub).map fun sub => es.put name (.table origin sub)
    | some (.tables earlier last) =>
      (assign false rest v last).map fun last => es.put name (.tables earlier last)
    | some (.value _) => none

/-- Changes the table at a path of names; of a list of tables the last one is meant, and tables
    that are not there yet are implied. -/
def Entries.change (f : Entries → Option Entries) : List String → Entries → Option Entries
  | [], es => f es
  | name :: rest, es =>
    match es.get? name with
    | none => (change f rest []).map fun sub => es.put name (.table .implied sub)
    | some (.table origin sub) =>
      (change f rest sub).map fun sub => es.put name (.table origin sub)
    | some (.tables earlier last) =>
      (change f rest last).map fun last => es.put name (.tables earlier last)
    | some (.value _) => none

/-- Opens the table under a name. -/
def Entries.openTable (name : String) (es : Entries) : Option Entries :=
  match es.get? name with
  | none => some (es.put name (.table .header []))
  | some (.table .implied sub) => some (es.without name ++ [(name, .table .header sub)])
  | some _ => none

/-- Opens one more table in the list under a name. -/
def Entries.openNext (name : String) (es : Entries) : Option Entries :=
  match es.get? name with
  | none => some (es.put name (.tables [] []))
  | some (.tables earlier last) => some (es.put name (.tables (earlier ++ [last]) []))
  | some _ => none

/-! ## The finished tree -/

mutual

/-- The value of an item. -/
def Item.toValue : Item → Value
  | .value v => v
  | .table _ es => .table (valuesOf es)
  | .tables earlier last => .array (tablesOf earlier ++ [.table (valuesOf last)])

/-- The values under the keys of a table. -/
def valuesOf : List (String × Item) → List (String × Value)
  | [] => []
  | (name, item) :: rest => (name, item.toValue) :: valuesOf rest

/-- Tables as values. -/
def tablesOf : List (List (String × Item)) → List Value
  | [] => []
  | es :: rest => .table (valuesOf es) :: tablesOf rest

end

/-! ## Statements -/

/-- A line of a document. -/
inductive Statement
  /-- A value under a key. -/
  | assign (key : List String) (v : Value)
  /-- The lines that follow belong to the table with this name. -/
  | header (key : List String)
  /-- The lines that follow belong to a new table in the list with this name. -/
  | nextHeader (key : List String)

/-- A document under construction: its tree, and the path of the table that lines belong to. -/
structure Draft where
  root : Entries
  here : List String

/-- Adds a line. -/
def Draft.add (d : Draft) : Statement → Option Draft
  | .assign key v => (d.root.change (Entries.assign true key v) d.here).map fun root => ⟨root, d.here⟩
  | .header key => opened key Entries.openTable
  | .nextHeader key => opened key Entries.openNext
where
  opened (key : List String) (f : String → Entries → Option Entries) : Option Draft :=
    match key.getLast? with
    | some name => (d.root.change (f name) key.dropLast).map fun root => ⟨root, key⟩
    | none => none

/-- The value of a document that consists of the given lines. -/
def valueOf? (statements : List Statement) : Option Value :=
  (statements.foldlM Draft.add ⟨[], []⟩).map fun d => .table (valuesOf d.root)

/-- The value of a table written in one line. -/
def inlineTable? (pairs : List (List String × Value)) : Option Value :=
  (pairs.foldlM (fun es p => Entries.assign true p.1 p.2 es) []).map fun es => .table (valuesOf es)

end StaticSite.Config.Toml
