/-
  YAML: the reader of YAML documents.

  A text is read in three steps: its columns give tokens, the tokens give the node of a document,
  and the node gives a value.  A text without a document is an empty table, and one with two
  documents is none.

  The keys of a table are texts or whole numbers.  A document may have other keys, but no value
  does; that is a fault of its own, and of two faults in a document the first counts.
-/
import StaticSite.Config.Value
import StaticSite.Config.Yaml.Layout
import StaticSite.Config.Yaml.Tree

namespace StaticSite.Config

namespace Yaml

/-- Why a text denotes no value. -/
inductive Fault
  /-- It is not written in the format, or holds a number that is none. -/
  | unreadable
  /-- A key is neither a text nor a whole number. -/
  | oddKey
deriving DecidableEq, Repr

/-- The text of a key. -/
def Node.keyText? : Node → Option String
  | .string s => some s
  | .int n => some (toString n)
  | _ => none

mutual

/-- The value that a node denotes; a bad one denotes nothing. -/
def Node.toValue : Node → Except Fault Value
  | .bad => .ok .null
  | .null => .ok .null
  | .bool b => .ok (.bool b)
  | .int n => .ok (.int n)
  | .real text =>
    match floatOfText? text with
    | some x => .ok (.float x)
    | none => .error .unreadable
  | .string s => .ok (.string s)
  | .sequence items => (valuesOf items).map .array
  | .mapping entries => (entriesOf entries).map fun es => .table (Dict.ofList es)

/-- The values of items. -/
def valuesOf : List Node → Except Fault (List Value)
  | [] => .ok []
  | item :: rest =>
    match item.toValue with
    | .error fault => .error fault
    | .ok v => (valuesOf rest).map (v :: ·)

/-- The values of entries, with their keys. -/
def entriesOf : List (Node × Node) → Except Fault (List (String × Value))
  | [] => .ok []
  | (key, node) :: rest =>
    match key.keyText? with
    | none => .error .oddKey
    | some text =>
      match node.toValue with
      | .error fault => .error fault
      | .ok v => (entriesOf rest).map ((text, v) :: ·)

end

end Yaml

/-- The value that a YAML text denotes. -/
def readYaml (text : String) : Except Yaml.Fault Value :=
  match (Yaml.tokens? text).bind Yaml.document? with
  | none => .error .unreadable
  | some none => .ok (.table [])
  | some (some node) => node.toValue

end StaticSite.Config
