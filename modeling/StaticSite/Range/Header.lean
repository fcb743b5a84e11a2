/-
  THE RANGE HEADER: `bytes=0-99, 200-, -20`.

  A header is a unit, an equals sign, and entries between commas.  Blanks around the unit, the
  entries and the bounds are ignored, and so are empty entries.  `parseHeader` gives the specs in
  order, or says what is wrong with the header or with its first bad entry.
-/
import StaticSite.Range.Basic
import StaticSite.Text.Blank
import StaticSite.Text.Split
import StaticSite.Text.Quoted
import StaticSite.Decimal

namespace StaticSite.Range

/-- Why a Range header is rejected.  The last four name the entry at fault. -/
inductive HeaderError
  | missingEquals
  | unsupportedUnit (unit : String)
  | empty
  | malformedSpec (entry : String)
  | missingBound (entry : String)
  | notANumber (entry : String)
  | invalidOrder (entry : String)
deriving DecidableEq, Repr

/-- The wording of a rejection. -/
def HeaderError.message : HeaderError → String
  | .missingEquals => "missing '=' separator"
  | .unsupportedUnit unit => "unsupported bytes-unit: " ++ Text.quoted unit
  | .empty => "no byte-ranges given"
  | .malformedSpec entry => "invalid byte-range (no '-'): " ++ Text.quoted entry
  | .missingBound entry => "invalid byte-range (no bounds): " ++ Text.quoted entry
  | .notANumber entry => "invalid byte-range (not a number): " ++ Text.quoted entry
  | .invalidOrder entry => "invalid byte-range (start after end): " ++ Text.quoted entry

/-- A bound: absent if empty, else a string of decimal digits below 2^64. -/
def parseBound (bound : List Char) : Option (Option UInt64) :=
  if bound.isEmpty then some none
  else if bound.all Char.isDigit && natOfDigits bound < UInt64.size then
    some (some (UInt64.ofNat (natOfDigits bound)))
  else none

/-- An entry: two bounds around its first hyphen, at least one present, the first no greater. -/
def parseEntry (entry : List Char) : Except HeaderError Spec :=
  let text := String.ofList entry
  match Text.cut? '-' entry with
  | none => .error (.malformedSpec text)
  | some (left, right) =>
    match parseBound (Text.trim left), parseBound (Text.trim right) with
    | some none, some none => .error (.missingBound text)
    | some (some first), some (some last) =>
      if last < first then .error (.invalidOrder text) else .ok ⟨some first, some last⟩
    | some first, some last => .ok ⟨first, last⟩
    | _, _ => .error (.notANumber text)

/-- The entries of the text behind the equals sign: trimmed, without the empty ones. -/
def entries (value : List Char) : List (List Char) :=
  ((Text.fields ',' value).map Text.trim).filter fun entry => !entry.isEmpty

/-- The only unit there is. -/
def bytesUnit : List Char := "bytes".toList

/-- The specs of a Range header. -/
def parseHeader (header : String) : Except HeaderError (List Spec) :=
  match Text.cut? '=' header.toList with
  | none => .error .missingEquals
  | some (unit, value) =>
    if Text.trim unit ≠ bytesUnit then .error (.unsupportedUnit (String.ofList (Text.trim unit)))
    else match (entries value).mapM parseEntry with
      | .error e => .error e
      | .ok [] => .error .empty
      | .ok specs => .ok specs

end StaticSite.Range
