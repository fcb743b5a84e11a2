/-
  LAYERS: a configuration put together from the usual values, a file, and the environment.

  Each layer is a table.  A later layer wins, but a table laid over a table only adds to it: the
  keys that it does not have keep what they had.  The keys of tables are in small letters; only
  inside arrays they stay as they are.

  The keys of a layer are PATHS: `server.port` names a key inside a table, `mounts[0].root` one
  inside an item of an array.  A key that is no path stands for itself.

  Numbered structure:
    §1  paths
    §2  laying a value over another
    §3  the environment
    §4  the file
    §5  `load`
-/
import StaticSite.Config.Decode
import StaticSite.Config.Ini
import StaticSite.Config.Json
import StaticSite.Config.Json5
import StaticSite.Config.Ron
import StaticSite.Config.Toml
import StaticSite.Config.Yaml
import StaticSite.Text.Blank
import StaticSite.Text.Lowercase
import StaticSite.Text.Split
import StaticSite.Word

namespace StaticSite.Config

open Text (small)

/-! ## §1 Paths -/

/-- A step from a value to one inside it. -/
inductive PathStep
  | name (key : String)
  /-- An item of an array; a negative number counts from the end. -/
  | index (n : Int)
deriving DecidableEq, Repr

/-- The characters of a name in a path. -/
def isPathName (c : Char) : Bool := c.isAlphanum || c == ' ' || c == '_' || c == '-'

/-- Reads a name. -/
def readPathName (s : List Char) : Option (PathStep × List Char) :=
  match s.span isPathName with
  | ([], _) => none
  | (name, rest) => some (.name (String.ofList name), rest)

/-- Reads a number and its closing bracket. -/
def readPathIndex (s : List Char) : Option (PathStep × List Char) :=
  let s := s.dropWhile fun c => c == ' ' || c == '\t'
  let (negative, s) := match s with
    | '-' :: rest => (true, rest)
    | rest => (false, rest)
  match s.span Char.isDigit with
  | ([], _) => none
  | (ds, rest) =>
    let n : Int := if negative then -(natOfDigits ds : Int) else natOfDigits ds
    match rest.dropWhile fun c => c == ' ' || c == '\t' with
    | ']' :: rest => if isSigned64 n then some (.index n, rest) else none
    | _ => none

/-- Reads the steps that follow the first one, each of them at least one character. -/
def readPathSteps : Nat → List Char → Option (List PathStep)
  | _, [] => some []
  | 0, _ => none
  | fuel + 1, c :: s =>
    let found :=
      if c == '.' then readPathName s else if c == '[' then readPathIndex s else none
    match found with
    | some (step, rest) => (readPathSteps fuel rest).map (step :: ·)
    | none => none

/-- The steps of a key; a key that is no path is a single name. -/
def pathOf (key : String) : List PathStep :=
  let s := key.toList
  let steps := match readPathName s with
    | some (first, rest) => (readPathSteps s.length rest).map (first :: ·)
    | none => none
  steps.getD [.name key]

/-! ## §2 Laying a value over another -/

/-- The entries of a table; other values have none. -/
def Value.entries : Value → Dict Value
  | .table es => es
  | _ => []

/-- The items of an array; other values have none. -/
def Value.items : Value → List Value
  | .array items => items
  | _ => []

mutual

/-- What stands in a place after a value was laid over what stood there. -/
def overlay : Value → Option Value → Value
  | .table es, there => overlayAll es (there.getD (.table []))
  | v, _ => v

/-- A value after entries were laid over it; with the first of them it becomes a table. -/
def overlayAll : List (String × Value) → Value → Value
  | [], there => there
  | (key, v) :: rest, there =>
    let es := there.entries
    overlayAll rest (.table (es.insert (small key) (overlay v (es.get? (small key)))))

end

/-- The number of items that an array may grow to. -/
def longestArray : Nat := 0x1000000

/-- Where an index lies in an array of a length, or beyond its end: nowhere if it counts back past
    the first item, or if the array would grow too long. -/
def placeOf? (n : Int) (length : Nat) : Option Nat :=
  if 0 ≤ n then if n < longestArray then some n.toNat else none
  else if n.natAbs ≤ length then some (length - n.natAbs)
  else none

/-- Changes the item in a place of an array; the array grows up to there. -/
def changeItem (place : Nat) (f : Value → Option Value) (items : List Value) :
    Option (List Value) :=
  let grown := items ++ List.replicate (place + 1 - items.length) .null
  (f (grown[place]?.getD .null)).map (grown.set place)

/-- Lays a value over what stands at the end of a path; what is missing on the way is made. -/
def overlayAt : List PathStep → Value → Value → Option Value
  | [], _, there => some there
  | [.name key], v, there => some (overlayAll [(key, v)] there)
  | [.index n], v, there =>
    let items := there.items
    (placeOf? n items.length).bind fun place =>
      (changeItem place (fun _ => some v) items).map .array
  | .name key :: rest, v, there =>
    let es := there.entries
    (overlayAt rest v ((es.get? (small key)).getD .null)).map fun sub =>
      .table (es.insert (small key) sub)
  | .index n :: rest, v, there =>
    let items := there.items
    (placeOf? n items.length).bind fun place =>
      (changeItem place (overlayAt rest v) items).map .array

/-- A value after a layer was laid over it. -/
def overlayLayer (there : Value) (layer : Dict Value) : Option Value :=
  layer.foldlM (fun there e => overlayAt (pathOf e.1) e.2 there) there

/-! ## §3 The environment -/

/-- How the names of the variables begin that belong to a configuration, in small letters. -/
def variableStart : List Char := "fileserve_".toList

/-- Whether a variable can be part of an environment: it has a name without an equals sign, and no
    zero character ends its name or its text early. -/
def isVariable (name text : String) : Bool :=
  !name.isEmpty && !name.toList.contains '=' && !name.toList.contains '\x00'
    && !text.toList.contains '\x00'

/-- A name with dots in place of double underscores. -/
def dotted : List Char → List Char
  | '_' :: '_' :: rest => '.' :: dotted rest
  | c :: rest => c :: dotted rest
  | [] => []

/-- The key that a variable sets, if it sets one. -/
def keyOfVariable? (name : String) : Option String :=
  (Text.dropStart? variableStart (small name).toList).map fun rest => String.ofList (dotted rest)

/-- The value that a variable holds: a truth value or a number if its text reads as one. -/
def valueOfVariable (text : String) : Value :=
  if small text = "true" then .bool true
  else if small text = "false" then .bool false
  else match (wholeNumber? text).filter isSigned64 with
    | some n => .int n
    | none =>
      match floatOfText? text with
      | some x => .float x
      | none => .string text

/-- The layer of the environment; of two variables for one key the later counts. -/
def environmentLayer (settings : List (String × String)) : Dict Value :=
  Dict.ofList (settings.filterMap fun v =>
    (keyOfVariable? v.1).map fun key => (key, valueOfVariable v.2))

/-- The variable for a field of a section. -/
def variableFor (part field : String) : String :=
  "FILESERVE_" ++ String.ofList (part.toList.map Char.toUpper) ++ "__"
    ++ String.ofList (field.toList.map Char.toUpper)

/-- The variables for all fields outside arrays. -/
def variableNames : List String :=
  [("server", serverSection), ("logging", loggingSection),
    ("performance", performanceSection)].flatMap fun p => p.2.fields.map (variableFor p.1)

/-! ## §4 The file -/

/-- How a configuration file is written. -/
inductive Format
  | toml
  | json
  | yaml
  | ini
  | ron
  | json5
deriving DecidableEq, Repr

/-- The format that goes with the ending of a file's name. -/
def Format.ofExtension? : String → Option Format
  | "toml" => some .toml
  | "json" => some .json
  | "yaml" => some .yaml
  | "yml" => some .yaml
  | "ini" => some .ini
  | "ron" => some .ron
  | "json5" => some .json5
  | _ => none

/-- The endings that a file is looked for with, one after the other. -/
def Format.endings : List String := ["toml", "json", "yaml", "yml", "ini", "ron", "json5"]

/-- Why no configuration could be loaded. -/
inductive LoadError
  /-- The environment has a variable that cannot be part of one. -/
  | noVariable
  /-- The file is not written in its format, or holds no table. -/
  | unreadable
  /-- A table of the file has a key that is neither a text nor a whole number. -/
  | oddKey
  /-- A path leads to an item that an array cannot have. -/
  | noPlace
  /-- What was put together is no configuration. -/
  | undecodable (fault : DecodeError)

/-- The wording of a failure. -/
def LoadError.message : LoadError → String
  | .noVariable => "a variable cannot be part of an environment"
  | .unreadable => "the configuration file cannot be read"
  | .oddKey => "a key is neither a text nor a whole number"
  | .noPlace => "a path leads to an item that an array cannot have"
  | .undecodable fault => fault.message

/-- The value that was read, if the text could be read. -/
def readable : Option Value → Except LoadError Value
  | some v => .ok v
  | none => .error .unreadable

/-- The value that a text in a format denotes. -/
def Format.read : Format → String → Except LoadError Value
  | .toml, text => readable (readDatedToml text)
  | .json, text => readable (readJson text)
  | .ini, text => readable (readIni text)
  | .ron, text => readable (readRon text)
  | .json5, text => readable (readJson5 text)
  | .yaml, text =>
    match readYaml text with
    | .ok v => .ok v
    | .error .unreadable => .error .unreadable
    | .error .oddKey => .error .oddKey

mutual

/-- A value as it counts in a layer: a date is its text, a number is whole if it has 64 bits with
    its sign, and the entries of a table are put in order. -/
def Value.plain : Value → Value
  | .moment text => .string text
  | .int n => if isSigned64 n then .int n else .float (floatOfDecimal n.toNat 0)
  | .array items => .array (plainAll items)
  | .table es => .table (Dict.ofList (plainEntries es))
  | v => v

/-- The values of an array, as they count in a layer. -/
def plainAll : List Value → List Value
  | [] => []
  | v :: rest => v.plain :: plainAll rest

/-- The entries of a table, as they count in a layer. -/
def plainEntries : List (String × Value) → List (String × Value)
  | [] => []
  | (key, v) :: rest => (key, v.plain) :: plainEntries rest

end

/-- The layer of a file: its text has to denote a table. -/
def fileLayer (format : Format) (text : String) : Except LoadError (Dict Value) :=
  match format.read text with
  | .ok (.table es) => .ok (Dict.ofList (plainEntries es))
  | .ok _ => .error .unreadable
  | .error fault => .error fault

/-! ## §5 Loading -/

/-- The values that are there before any file is read. -/
def usualLayer : Dict Value :=
  Dict.ofList [("server.host", .string "127.0.0.1"), ("server.port", .int 8080),
    ("logging.level", .string "info"), ("logging.access_log", .bool true),
    ("performance.keep_alive_timeout", .int 75), ("performance.read_timeout", .int 30)]

/-- The value that is put together from a file and the environment: first the two alone, then what
    they say together over the usual values. -/
def layered? (fromFile : Dict Value) (settings : List (String × String)) : Option Value := do
  let told ← overlayLayer (.table []) fromFile
  let told ← overlayLayer told (environmentLayer settings)
  let usual ← overlayLayer (.table []) usualLayer
  overlayLayer usual told.entries

/-- Loads a configuration from a file, if there is one, and the variables of the environment. -/
def load (file : Option (Format × String)) (settings : List (String × String)) :
    Except LoadError Config :=
  if !settings.all fun v => isVariable v.1 v.2 then .error .noVariable
  else
    let found := match file with
      | some (format, text) => fileLayer format text
      | none => .ok []
    match found with
    | .error fault => .error fault
    | .ok fromFile =>
      match layered? fromFile settings with
      | none => .error .noPlace
      | some v =>
        match decode .layered v with
        | .ok config => .ok config
        | .error fault => .error (.undecodable fault)

end StaticSite.Config
