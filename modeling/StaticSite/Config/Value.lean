/-
  VALUES: what a configuration document says, before it is known what it should say.

  Two formats are read into this one type, and one of them keeps dates apart from strings.  It
  also keeps the order in which the entries of a table are written; the other puts them in the
  order of their keys.
-/
import StaticSite.Dict

namespace StaticSite.Config

/-- A node of a configuration document. -/
inductive Value
  | null
  | bool (b : Bool)
  | int (n : Int)
  | float (x : Float)
  | string (s : String)
  /-- A date or time, as it is written. -/
  | moment (text : String)
  | array (items : List Value)
  /-- A table; each key stands once. -/
  | table (entries : List (String × Value))
deriving Inhabited

/-- The key under which a date stands where a table is wanted. -/
def momentKey : String := "$__toml_private_datetime"

namespace Value

/-- The value under a key of a table. -/
def get? : Value → String → Option Value
  | .table entries, key => Dict.get? entries key
  | _, _ => none

end Value

end StaticSite.Config
