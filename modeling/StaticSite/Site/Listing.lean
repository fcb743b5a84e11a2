/-
  LISTINGS: the page that shows what is in a directory.

  A row has the name of an entry, linked, its size, and its type.  Names come from outside and are
  never trusted: in a link every byte but a few is percent-escaped, and in the text the five
  characters with a meaning in markup are written as entities.

  Numbered structure:
    §1  entries
    §2  sizes and escapes
    §3  the page
-/
import StaticSite.Http.Page
import StaticSite.Http.Request
import StaticSite.Site.Resolve
import StaticSite.Text.Percent

namespace StaticSite.Site

/-! ## §1 Entries -/

/-- A row of a listing; directories have no type and no size. -/
structure Entry where
  name : String
  isDir : Bool
  size : UInt64
  media : Option MediaType
deriving DecidableEq, Repr

section

variable {F : Type} (fs : FileSystem F) (root : Root)

/-- The entry of a name in a directory; one that cannot be looked at is left out with a note. -/
def entryOf (dir : Node) (name : String) : Logged (Option Entry) :=
  let path := dir.path.join name
  match fs.stat path with
  | .ok s =>
    pure (some (if s.isDir then ⟨name, true, 0, none⟩
      else ⟨name, false, s.size, some (root.mediaForName name)⟩))
  | .error e => do
    note .debug ("Skipping listing entry " ++ path ++ ": " ++ e.message)
    return none

/-- The entries of the given names, in their order. -/
def entriesOf (dir : Node) : List String → Logged (List Entry)
  | [] => pure []
  | name :: names => do
    let entry ← entryOf fs root dir name
    let others ← entriesOf dir names
    return entry.toList ++ others

/-- The names in a directory; none, with a warning, if it cannot be read. -/
def namesIn (dir : Node) : Logged (List String) :=
  match fs.sortedNames dir.path with
  | .ok names => pure names
  | .error e => do
    note .warning ("Failed to read directory " ++ dir.path ++ ": " ++ e.message)
    return []

/-- The entries of a directory, or of some names in it. -/
def entries (dir : Node) (names : Option (List String)) : Logged (List Entry) :=
  match names with
  | some names => entriesOf fs root dir names
  | none => do
    let names ← namesIn fs dir
    entriesOf fs root dir names

end

/-! ## §2 Sizes and escapes -/

/-- A size in the largest unit that it fills, of bytes, K, M and G; parts of a unit are dropped. -/
def sizeText (size : UInt64) : String :=
  let n := size.toNat
  if n < 1024 then toString n ++ "B"
  else if n < 1024 * 1024 then toString (n / 1024) ++ "K"
  else if n < 1024 * 1024 * 1024 then toString (n / (1024 * 1024)) ++ "M"
  else toString (n / (1024 * 1024 * 1024)) ++ "G"

/-- A character as it stands in markup. -/
def escapeChar (c : Char) : List Char :=
  if c == '&' then "&amp;".toList
  else if c == '<' then "&lt;".toList
  else if c == '>' then "&gt;".toList
  else if c == '"' then "&quot;".toList
  else if c == '\x27' then "&#x27;".toList
  else [c]

/-- A text as it stands in markup. -/
def escapeText (s : String) : String := String.ofList (s.toList.flatMap escapeChar)

/-- The characters that stand for themselves in a link. -/
def isPlainInLink (c : Char) : Bool :=
  c.isAlphanum || c == '/' || c == '_' || c == '.' || c == '-' || c == '~'

/-- A name as it stands in a link. -/
def linkText (name : String) : String :=
  String.ofList (Text.percentEncode isPlainInLink name.toList)

/-- A request path as a reader should see it: its escapes undone, whatever they spell. -/
def readablePath (path : String) : String :=
  String.ofList (Text.decodeLossy (Text.percentDecode (Text.utf8 path)))

/-! ## §3 The page -/

/-- The style of the page. -/
def style : String :=
  "body \x7b font-family: sans-serif; margin: 2em; \x7d\n" ++
  "table \x7b border-collapse: collapse; \x7d\n" ++
  "th, td \x7b text-align: left; padding: 0.2em 1em; \x7d\n" ++
  "tr.odd \x7b background-color: #f0f0f0; \x7d\n" ++
  "tr.even \x7b background-color: #ffffff; \x7d\n"

/-- The cells of a row behind its name: size, type and encoding. -/
def Entry.cells (e : Entry) : String × String × String :=
  if e.isDir then ("", "[Directory]", "")
  else
    match e.media with
    | none => (sizeText e.size, "", "")
    | some media =>
      (sizeText e.size, "[" ++ escapeText media.contentType ++ "]",
        match media.encoding with
        | some encoding => "[" ++ escapeText encoding ++ "]"
        | none => "")

/-- A row of the page; rows are coloured in turn. -/
def Entry.row (index : Nat) (e : Entry) : String :=
  let slash := if e.isDir then "/" else ""
  let (size, type, encoding) := e.cells
  "<tr class=\"" ++ (if index % 2 = 0 then "odd" else "even") ++ "\">\n" ++
  "    <td><a href=\"" ++ linkText e.name ++ slash ++ "\">" ++ escapeText e.name ++ slash ++
    "</a></td>\n" ++
  "    <td>" ++ size ++ "</td>\n" ++
  "    <td>" ++ type ++ "</td>\n" ++
  "    <td>" ++ encoding ++ "</td>\n" ++
  "</tr>\n"

/-- The rows of the page, the first having the given index. -/
def rowsFrom (index : Nat) : List Entry → String
  | [] => ""
  | e :: rest => e.row index ++ rowsFrom (index + 1) rest

/-- The page with the given rows, for a request path. -/
def listingPage (entries : List Entry) (requestPath : String) : String :=
  let title := "Directory listing for " ++ escapeText (readablePath requestPath)
  "<!DOCTYPE html>\n<html>\n<head>\n<meta charset=\"utf-8\">\n<title>" ++ title ++ "</title>\n" ++
  "<style>\n" ++ style ++ "</style>\n</head>\n<body>\n<h1>" ++ title ++ "</h1>\n\n" ++
  "<table>\n    <thead>\n        <tr>\n" ++
  "            <th>Filename</th>\n" ++
  "            <th>Size</th>\n" ++
  "            <th>Content type</th>\n" ++
  "            <th>Content encoding</th>\n" ++
  "        </tr>\n    </thead>\n    <tbody>\n" ++
  rowsFrom 0 entries ++
  "    </tbody>\n</table>\n\n</body>\n</html>\n"

/-- The answer that lists a directory, or some names in it. -/
def renderListing {F : Type} (fs : FileSystem F) (root : Root) (dir : Node)
    (names : Option (List String)) (request : Http.Request) : Logged (Http.Response F) := do
  let rows ← entries fs root dir names
  Http.htmlPage (listingPage rows request.uri.text) request.isHead

end StaticSite.Site
