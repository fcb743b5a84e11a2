/-
  PROCESSORS: extensions whose files are not simply sent.

  A stored response is a file that holds a whole answer and is sent as it is written; a source is
  shown as plain text whatever its name says.  A site registers extensions for them.  Extensions
  are compared as they are spelled, but for the dot in front that may be left out.
-/
import StaticSite.Media.Basic

namespace StaticSite.Site

/-- What is done with a file of a registered extension. -/
inductive Processor
  | stored
  | source
deriving DecidableEq, Repr

/-- The type of every file shown as source. -/
def sourceType : String := "text/plain; charset=utf-8"

/-- The media type that a processor gives its files in place of their own. -/
def Processor.media? : Processor → Option MediaType
  | .stored => none
  | .source => some ⟨sourceType, none⟩

/-- The registered extensions, each with a dot in front. -/
abbrev Registry := Dict Processor

namespace Registry

/-- An extension with a dot in front. -/
def dotted (ext : String) : String :=
  match ext.toList with
  | '.' :: _ => ext
  | _ => "." ++ ext

/-- Registers an extension, in place of what it had before. -/
def register (r : Registry) (ext : String) (processor : Processor) : Registry :=
  Dict.insert (dotted ext) processor r

/-- The processor of a file name, by its last extension. -/
def lookup (r : Registry) (name : String) : Option Processor :=
  match (Media.splitExtension name).2 with
  | "" => none
  | ext => Dict.get? r (dotted ext)

end Registry

end StaticSite.Site
