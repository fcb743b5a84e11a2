/-
  DECODING: from a document to a configuration.

  A section is a table whose keys are the names of its fields; unknown keys are ignored, and a
  field that is left out has its usual value unless it is required.  Fields are read in the order
  in which they stand, so the first fault in that order is the one reported; missing fields are
  reported after that.  A section may also be an array of its fields in their order of
  declaration.

  Three dialects differ in what counts as a value of a type:

    * `json`     takes nothing but the type itself;
    * `toml`     does the same, but does not count the items of arrays, and has no null;
    * `layered`  is for values put together from files and the environment, where a number may be
                 a string: it converts between strings, numbers and truth values, does not mind
                 the case of a choice, and does not count the items of arrays either.

  Numbered structure:
    §1  faults
    §2  scalars
    §3  choices, lists, maps
    §4  sections
-/
import StaticSite.Config.Basic
import StaticSite.Config.NumberText
import StaticSite.Config.Value
import StaticSite.Decimal
import StaticSite.Text.Lowercase
import StaticSite.Text.Quoted
import StaticSite.Word

namespace StaticSite.Config

open Text (small)

/-- How strictly values are taken. -/
inductive Dialect
  | json
  | toml
  | layered
deriving DecidableEq, Repr

/-! ## §1 Faults -/

/-- Why a document is no configuration. -/
inductive DecodeError
  /-- A value that is not of the scalar type expected, and not convertible to it. -/
  | wrongType (found : Value) (expected : String)
  /-- A value in place of a choice, a list, a map or a section. -/
  | wrongShape (found : Value) (expected : String)
  /-- A whole number that does not fit. -/
  | outOfRange (n : Int) (expected : String)
  | missingField (name : String)
  /-- An array in place of a table, with too few or too many items. -/
  | wrongLength (length : Nat) (expected : String)
  | unknownChoice (name : String) (choices : List String)
  /-- A table in place of a choice must have one key. -/
  | notSingle

/-- A value as a fault names it. -/
def Value.describe : Value → String
  | .null => "null"
  | .bool b => "boolean `" ++ toString b ++ "`"
  | .int n => "integer `" ++ toString n ++ "`"
  | .float x => "floating point `" ++ scientific x ++ "`"
  | .string s => "string " ++ Text.quoted s
  | .moment _ => "map"
  | .array _ => "sequence"
  | .table _ => "map"

/-- Choices as a fault lists them. -/
def listChoices (choices : List String) : String :=
  let marked := choices.map fun c => "`" ++ c ++ "`"
  match marked with
  | [a, b] => a ++ " or " ++ b
  | others => ", ".intercalate others

/-- The wording of a fault. -/
def DecodeError.message : DecodeError → String
  | .wrongType found expected | .wrongShape found expected =>
    "invalid type: " ++ found.describe ++ ", expected " ++ expected
  | .outOfRange n expected => "invalid value: integer `" ++ toString n ++ "`, expected " ++ expected
  | .missingField name => "missing field `" ++ name ++ "`"
  | .wrongLength length expected =>
    "invalid length " ++ toString length ++ ", expected " ++ expected
  | .unknownChoice name choices =>
    "unknown variant `" ++ name ++ "`, expected " ++ listChoices choices
  | .notSingle => "invalid value: map, expected map with a single key"

/-- A decoded value, or why there is none. -/
abbrev Decoded := Except DecodeError

/-! ## §2 Scalars -/

/-- The words for true and false. -/
def trueWords : List String := ["true", "on", "yes"]
def falseWords : List String := ["false", "off", "no"]

/-- The whole number nearest to a double, halves away from zero, cut off at the ends of a range;
    what is no number counts as zero. -/
def roundedInto (least greatest : Int) (x : Float) : Int :=
  if x.isNaN then 0
  else
    let size := Dyadic.ofBits x.toBits
    let magnitude : Int :=
      if x.isInf then greatest + 1
      else if 0 ≤ size.exponent then (size.mantissa * Nat.pow 2 size.exponent.toNat : Nat)
      else
        let unit := Nat.pow 2 (-size.exponent).toNat
        ((2 * size.mantissa + unit) / (2 * unit) : Nat)
    if x < 0 then max least (-magnitude) else min greatest magnitude

/-- A truth value. -/
def readBool (d : Dialect) (v : Value) : Decoded Bool :=
  match d, v with
  | _, .bool b => .ok b
  | .layered, .int n => .ok (n != 0)
  | .layered, .float x => .ok (x != 0)
  | .layered, .string s =>
    if ("1" :: trueWords).contains (small s) then .ok true
    else if ("0" :: falseWords).contains (small s) then .ok false
    else .error (.wrongType v "a boolean")
  | _, _ => .error (.wrongType v "a boolean")

/-- A text. -/
def readText (d : Dialect) (v : Value) : Decoded String :=
  match d, v with
  | _, .string s => .ok s
  | .layered, .bool b => .ok (toString b)
  | .layered, .int n => .ok (toString n)
  | .layered, .float x => .ok (positional x)
  | _, _ => .error (.wrongType v "a string")

/-- A type of whole numbers: its name and its range, and the range that strings are read in. -/
structure IntType where
  name : String
  least : Int
  greatest : Int
  isSigned : Bool

/-- The types of whole numbers that fields have. -/
def portType : IntType := ⟨"u16", 0, 0xFFFF, false⟩
def countType : IntType := ⟨"usize", 0, 0xFFFFFFFFFFFFFFFF, false⟩
def secondsType : IntType := ⟨"u64", 0, 0xFFFFFFFFFFFFFFFF, false⟩
def backlogType : IntType := ⟨"i32", -0x80000000, 0x7FFFFFFF, true⟩

/-- The range that a number is converted through before it is cut down to its type. -/
def IntType.wide (t : IntType) : Int × Int :=
  if t.isSigned then (-(signedSize : Int), signedSize - 1) else (0, 0xFFFFFFFFFFFFFFFF)

/-- A number, if it lies in the range of the type. -/
def IntType.check (t : IntType) (n : Int) : Decoded Int :=
  if t.least ≤ n ∧ n ≤ t.greatest then .ok n else .error (.outOfRange n t.name)

/-- A whole number from a string: a word of truth, or digits. -/
def IntType.ofString? (t : IntType) (s : String) : Option Int :=
  if trueWords.contains (small s) then some 1
  else if falseWords.contains (small s) then some 0
  else if !t.isSigned && s.toList.head? == some '-' then none
  else wholeNumber? s

/-- A whole number of a type. -/
def readInt (d : Dialect) (t : IntType) (v : Value) : Decoded Int :=
  match d, v with
  | _, .int n => t.check n
  | .layered, .bool b => .ok (if b then 1 else 0)
  | .layered, .float x => t.check (roundedInto t.wide.1 t.wide.2 x)
  | .layered, .string s =>
    match t.ofString? s with
    | some n => t.check n
    | none => .error (.wrongType v t.name)
  | _, _ => .error (.wrongType v t.name)

/-- A 64-bit word. -/
def readWord (d : Dialect) (t : IntType) (v : Value) : Decoded UInt64 :=
  (readInt d t v).map fun n => UInt64.ofNat n.toNat

/-- A value that may be null. -/
def readOption {α : Type} (read : Value → Decoded α) (v : Value) : Decoded (Option α) :=
  match v with
  | .null => .ok none
  | v => (read v).map some

/-! ## §3 Choices, lists, maps -/

/-- The entries of a table. -/
def Value.entries? : Value → Option (Dict Value)
  | .table es => some es
  | .moment text => some [(momentKey, .string text)]
  | _ => none

/-- Checks what stands beside the name of a choice: nothing may. -/
def readUnit (d : Dialect) (v : Value) : Decoded Unit :=
  match d, v with
  | .layered, _ => .ok ()
  | .json, .null => .ok ()
  | .toml, .array [] => .ok ()
  | .toml, .table [] => .ok ()
  | _, v => .error (.wrongShape v "unit")

/-- One of some named values: by its name, or as a table with the name as its only key. -/
def readChoice {α : Type} (d : Dialect) (choices : List (String × α)) (v : Value) : Decoded α :=
  let named (name : String) : Decoded α :=
    let same (choice : String) : Bool :=
      if d = .layered then small choice == small name else choice == name
    match choices.find? fun c => same c.1 with
    | some c => .ok c.2
    | none => .error (.unknownChoice name (choices.map fun c => c.1))
  match v with
  | .string name => named name
  | .table [(name, payload)] => do
    let chosen ← named name
    readUnit d payload
    return chosen
  | .table _ => .error .notSingle
  | v => .error (.wrongShape v "string or map")

/-- A list of values. -/
def readList {α : Type} (read : Value → Decoded α) (v : Value) : Decoded (List α) :=
  match v with
  | .array items => items.mapM read
  | v => .error (.wrongShape v "a sequence")

/-- A map with any keys. -/
def readMap {α : Type} (read : Value → Decoded α) (v : Value) : Decoded (List (String × α)) :=
  match v.entries? with
  | some es => es.mapM fun e => (read e.2).map fun x => (e.1, x)
  | none => .error (.wrongShape v "a map")

/-! ## §4 Sections -/

/-- A kind of section: its name, its fields in order, and how many of the first are required. -/
structure Section where
  name : String
  fields : List String
  required : Nat

/-- How a fault names a section that may be an array. -/
def Section.counted (s : Section) : String :=
  "struct " ++ s.name ++ " with " ++ toString s.fields.length ++ " elements"

/-- The first required field that is not among the entries. -/
def Section.missing? (s : Section) (entries : List (String × Value)) : Option String :=
  (s.fields.take s.required).find? fun field => !(entries.any fun e => e.1 == field)

/-- Reads a section: `field` puts one entry into a section under construction. -/
def readSection {α : Type} (d : Dialect) (s : Section) (start : α)
    (field : α → String → Value → Decoded α) (v : Value) : Decoded α :=
  let fill (entries : List (String × Value)) : Decoded α :=
    entries.foldlM (fun a e => field a e.1 e.2) start
  match v with
  | .array items => do
    let a ← fill (s.fields.zip items)
    if items.length < s.required then .error (.wrongLength items.length s.counted)
    else if d = .json ∧ s.fields.length < items.length then
      .error (.wrongLength items.length "fewer elements in array")
    else return a
  | v =>
    match v.entries? with
    | some es => ofTable fill es
    | none => .error (.wrongShape v ("struct " ++ s.name))
where
  ofTable (fill : List (String × Value) → Decoded α) (es : Dict Value) : Decoded α := do
    let a ← fill es
    match s.missing? es with
    | some name => .error (.missingField name)
    | none => return a

/-- The choices of an access log format. -/
def accessFormats : List (String × AccessFormat) := [("combined", .combined), ("common", .common)]

/-- The choices of a processor. -/
def processors : List (String × Site.Processor) := [("asis", .stored), ("source", .source)]

def serverSection : Section := ⟨"ServerConfig", ["host", "port", "workers", "backlog"], 0⟩

/-- Reads the section about where the server listens. -/
def readServer (d : Dialect) : Value → Decoded Server :=
  readSection d serverSection Server.usual fun s name v =>
    match name with
    | "host" => (readText d v).map fun x => { s with host := x }
    | "port" => (readInt d portType v).map fun n => { s with port := UInt16.ofNat n.toNat }
    | "workers" => (readOption (readWord d countType) v).map fun x => { s with workers := x }
    | "backlog" => (readInt d backlogType v).map fun n => { s with backlog := Int32.ofInt n }
    | _ => .ok s

def loggingSection : Section :=
  ⟨"LoggingConfig",
    ["level", "access_log", "access_log_format", "access_log_file", "error_log_file"], 0⟩

/-- Reads the section about logging. -/
def readLogging (d : Dialect) : Value → Decoded Logging :=
  readSection d loggingSection Logging.usual fun s name v =>
    match name with
    | "level" => (readText d v).map fun x => { s with level := x }
    | "access_log" => (readBool d v).map fun x => { s with accessLog := x }
    | "access_log_format" => (readChoice d accessFormats v).map fun x => { s with accessFormat := x }
    | "access_log_file" => (readOption (readText d) v).map fun x => { s with accessFile := x }
    | "error_log_file" => (readOption (readText d) v).map fun x => { s with errorFile := x }
    | _ => .ok s

def performanceSection : Section :=
  ⟨"PerformanceConfig", ["keep_alive_timeout", "read_timeout", "max_connections"], 0⟩

/-- Reads the section about limits. -/
def readPerformance (d : Dialect) : Value → Decoded Performance :=
  readSection d performanceSection Performance.usual fun s name v =>
    match name with
    | "keep_alive_timeout" => (readWord d secondsType v).map fun x => { s with keepAliveTimeout := x }
    | "read_timeout" => (readWord d secondsType v).map fun x => { s with readTimeout := x }
    | "max_connections" =>
      (readOption (readWord d secondsType) v).map fun x => { s with maxConnections := x }
    | _ => .ok s

def mountSection : Section :=
  ⟨"MountConfig",
    ["prefix", "root", "default_type", "index_names", "ignored_exts", "processors",
      "content_types", "content_encodings"], 2⟩

/-- Reads a mount. -/
def readMount (d : Dialect) : Value → Decoded Mount :=
  readSection d mountSection
    (Mount.mk "" "" Site.fallbackType Site.usualIndexNames [] [] [] []) fun s name v =>
    match name with
    | "prefix" => (readText d v).map fun x => { s with at_ := x }
    | "root" => (readText d v).map fun x => { s with root := x }
    | "default_type" => (readText d v).map fun x => { s with defaultType := x }
    | "index_names" => (readList (readText d) v).map fun x => { s with indexNames := x }
    | "ignored_exts" => (readList (readText d) v).map fun x => { s with ignoredExts := x }
    | "processors" => (readMap (readChoice d processors) v).map fun x => { s with processors := x }
    | "content_types" => (readMap (readText d) v).map fun x => { s with types := x }
    | "content_encodings" => (readMap (readText d) v).map fun x => { s with encodings := x }
    | _ => .ok s

def dataSection : Section := ⟨"DataConfig", ["path", "content_type", "body"], 3⟩

/-- Reads a fixed answer. -/
def readData (d : Dialect) : Value → Decoded Data :=
  readSection d dataSection (Data.mk "" "" "") fun s name v =>
    match name with
    | "path" => (readText d v).map fun x => { s with path := x }
    | "content_type" => (readText d v).map fun x => { s with contentType := x }
    | "body" => (readText d v).map fun x => { s with body := x }
    | _ => .ok s

def configSection : Section :=
  ⟨"Config", ["server", "logging", "performance", "mounts", "data"], 0⟩

/-- Reads a whole configuration. -/
def decode (d : Dialect) : Value → Decoded Config :=
  readSection d configSection Config.usual fun s name v =>
    match name with
    | "server" => (readServer d v).map fun x => { s with server := x }
    | "logging" => (readLogging d v).map fun x => { s with logging := x }
    | "performance" => (readPerformance d v).map fun x => { s with performance := x }
    | "mounts" => (readList (readMount d) v).map fun x => { s with mounts := x }
    | "data" => (readList (readData d) v).map fun x => { s with data := x }
    | _ => .ok s

end StaticSite.Config
