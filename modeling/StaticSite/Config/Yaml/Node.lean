/-
  YAML NODES: what a document denotes, before it becomes a value of a configuration.

  A text without quotes and tag denotes what it looks like: nothing, a truth value, a number, or
  itself.  A tag of the format's own kinds asks for that kind, and a text that is not of the kind
  makes a bad node.

  A mapping is given as the list of its nodes, each key in front of its value.  A bad node is never
  taken for a key: the node behind it is.  No key may stand twice.

  Numbered structure:
    §1  nodes, and when two are the same
    §2  the node of a text
    §3  the node of a mapping
-/
import StaticSite.Config.NumberText
import StaticSite.Text.Digit
import StaticSite.Word

namespace StaticSite.Config.Yaml

/-! ## §1 Nodes -/

/-- A node of a document. -/
inductive Node
  /-- A node that is not of the kind that it says it is. -/
  | bad
  | null
  | bool (b : Bool)
  | int (n : Int)
  /-- A number with a fraction or an exponent, as it is written. -/
  | real (text : String)
  | string (s : String)
  | sequence (items : List Node)
  /-- Keys and values, in the order in which they stand. -/
  | mapping (entries : List (Node × Node))
deriving Inhabited

mutual

/-- Whether two nodes are the same; the order of entries counts. -/
def Node.same : Node → Node → Bool
  | .bad, .bad => true
  | .null, .null => true
  | .bool a, .bool b => a == b
  | .int a, .int b => a == b
  | .real a, .real b => a == b
  | .string a, .string b => a == b
  | .sequence as, .sequence bs => sameItems as bs
  | .mapping as, .mapping bs => sameEntries as bs
  | _, _ => false

/-- Whether two lists of nodes are the same. -/
def sameItems : List Node → List Node → Bool
  | [], [] => true
  | a :: as, b :: bs => a.same b && sameItems as bs
  | _, _ => false

/-- Whether two lists of entries are the same. -/
def sameEntries : List (Node × Node) → List (Node × Node) → Bool
  | [], [] => true
  | (k, a) :: as, (l, b) :: bs => k.same l && a.same b && sameEntries as bs
  | _, _ => false

end

/-! ## §2 The node of a text -/

/-- A whole number of 64 bits with its sign. -/
def signed64? (text : String) : Option Int := (wholeNumber? text).filter isSigned64

/-- A whole number to a base, with its sign, of 64 bits. -/
def based? (base : Nat) (s : List Char) : Option Int :=
  let (negative, ds) := cutSign s
  if ds.isEmpty || !ds.all (Text.isDigit base) then none
  else
    let n : Int := Text.valueOf base ds
    (some (if negative then -n else n)).filter isSigned64

/-- The texts that stand for infinity and for what is no number. -/
def namedReals : List String :=
  [".inf", ".Inf", ".INF", "+.inf", "+.Inf", "+.INF", "-.inf", "-.Inf", "-.INF",
    ".nan", ".NaN", ".NAN"]

/-- Whether a text is a number: one of the names, or a decimal number with a digit in it. -/
def isReal (text : String) : Bool :=
  namedReals.contains text || (text.toList.any Char.isDigit && (floatOfText? text).isSome)

/-- The whole number that a text is, to base 16 or 8 behind a mark, else to base 10; a plus sign
    may have another sign behind it. -/
def wholeOf? (text : String) : Option Int :=
  let marked := match text.toList with
    | '0' :: 'x' :: rest => based? 16 rest
    | '0' :: 'o' :: rest => based? 8 rest
    | '+' :: rest => signed64? (String.ofList rest)
    | _ => none
  marked.or (signed64? text)

/-- The node that a text without quotes and tag denotes. -/
def Node.ofPlain (text : String) : Node :=
  match wholeOf? text with
  | some n => .int n
  | none =>
    if text = "" ∨ text = "~" ∨ text = "null" then .null
    else if text = "true" then .bool true
    else if text = "false" then .bool false
    else if isReal text then .real text
    else .string text

/-- What the tags of the format's own kinds begin with. -/
def coreTags : String := "tag:yaml.org,2002:"

/-- The node that a text with a tag denotes: the start of the tag, and what follows it. -/
def Node.ofTagged (start suffix text : String) : Node :=
  if start ≠ coreTags then .string text
  else match suffix with
    | "bool" =>
      if text = "true" then .bool true else if text = "false" then .bool false else .bad
    | "int" => ((signed64? text).map .int).getD .bad
    | "float" => if isReal text then .real text else .bad
    | "null" => if text = "~" ∨ text = "null" then .null else .bad
    | _ => .string text

/-- The node of a text; quotes and blocks make a string of it, whatever its tag. -/
def Node.ofText (isPlain : Bool) (tag : Option (String × String)) (text : String) : Node :=
  if !isPlain then .string text
  else match tag with
    | some (start, suffix) => .ofTagged start suffix text
    | none => .ofPlain text

example : [wholeOf? "0x1F", wholeOf? "0o17", wholeOf? "+5", wholeOf? "007", wholeOf? "1_0"] =
    [some 31, some 15, some 5, some 7, none] := by decide +kernel

/-! ## §3 The node of a mapping -/

/-- Adds nodes to entries, which stand last one first; nothing if a key comes twice.  A key without
    a value at the end does not count. -/
def entriesFrom? (entries : List (Node × Node)) : List Node → Option (List (Node × Node))
  | [] => some entries
  | .bad :: rest => entriesFrom? entries rest
  | [_] => some entries
  | key :: value :: rest =>
    if entries.any fun e => e.1.same key then none else entriesFrom? ((key, value) :: entries) rest

/-- The mapping that nodes make up. -/
def Node.ofParts? (parts : List Node) : Option Node :=
  (entriesFrom? [] parts).map fun entries => .mapping entries.reverse

end StaticSite.Config.Yaml
