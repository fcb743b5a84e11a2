/-
  MEDIA TYPES: what a file is, told by its name.

  The last extension of a name gives its type.  If that extension stands for a compression, it
  gives the content encoding, and the type comes from the extension below it: `notes.txt.gz` is
  plain text in gzip.  One layer is looked through, no more.

  A name that begins with dots has no extension there: `.profile` is all stem.
-/
import StaticSite.Dict
import StaticSite.Text.Split

namespace StaticSite

/-- The type of a resource, and how its bytes are encoded if they are. -/
structure MediaType where
  contentType : String
  encoding : Option String
deriving DecidableEq, Repr

namespace Media

/-- A text with its ASCII capitals made small. -/
def lower (s : String) : String := String.ofList (s.toList.map Char.toLower)

/-- An extension as the tables spell it: in lower case, with a dot in front. -/
def normalizeExtension (ext : String) : String :=
  match (lower ext).toList with
  | '.' :: rest => String.ofList ('.' :: rest)
  | rest => String.ofList ('.' :: rest)

/-- Cuts the last extension off a name; the extension keeps its dot. -/
def splitChars (name : List Char) : List Char × List Char :=
  match Text.cutLast? '.' name with
  | none => (name, [])
  | some (stem, ext) => if stem.all (· == '.') then (name, []) else (stem, '.' :: ext)

/-- The stem of a name and its last extension, which is empty if it has none. -/
def splitExtension (name : String) : String × String :=
  let parts := splitChars name.toList
  (String.ofList parts.1, String.ofList parts.2)

/-- A table with further entries put into it, their extensions spelled as the table spells them. -/
def mergeTable (base : Dict String) (overrides : List (String × String)) : Dict String :=
  Dict.insertAll (overrides.map fun e => (normalizeExtension e.1, e.2)) base

/-- Type and encoding of a file name. -/
def resolve (name : String) (types encodings : Dict String) (defaultType : String) : MediaType :=
  let (stem, ext) := splitExtension name
  match encodings.get? (lower ext) with
  | some encoding => ⟨(types.get? (lower (splitExtension stem).2)).getD defaultType, some encoding⟩
  | none => ⟨(types.get? (lower ext)).getD defaultType, none⟩

end Media

end StaticSite
