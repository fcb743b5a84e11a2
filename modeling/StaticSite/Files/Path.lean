/-
  PATHS: names of files as text.

  A path is components between slashes.  Paths are put together textually: nothing is resolved,
  so `docs/.` stays what it is.
-/
import StaticSite.Text.Split

namespace StaticSite

/-- The name of a file as the program writes it. -/
abbrev FilePath := String

namespace FilePath

/-- The path of `name` below `dir`.  A name that begins with a slash stands for itself, and the
    empty name leaves a slash at the end. -/
def join (dir : FilePath) (name : String) : FilePath :=
  match name.toList with
  | '/' :: _ => name
  | _ =>
    match dir.toList.getLast? with
    | none => name
    | some '/' => dir ++ name
    | some _ => dir ++ "/" ++ name

/-- The components that name something: neither empty nor a dot. -/
def components (path : FilePath) : List (List Char) :=
  (Text.fields '/' path.toList).filter fun c => !c.isEmpty && c != ['.']

/-- The last component, unless it leads upwards. -/
def fileName? (path : FilePath) : Option String :=
  match path.components.getLast? with
  | none => none
  | some ['.', '.'] => none
  | some name => some (String.ofList name)

/-- The last component, or nothing. -/
def fileName (path : FilePath) : String := path.fileName?.getD ""

end FilePath

end StaticSite
