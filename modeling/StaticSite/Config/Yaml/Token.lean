/-
  YAML TOKENS: what a document is made of, once columns have been read.

  Indentation is gone: where a block of lines begins and ends stands in the tokens themselves, and
  a key is preceded by its own token even if nothing marks it in the text.
-/

namespace StaticSite.Config.Yaml

/-- A part of a document. -/
inductive Token
  | streamEnd
  /-- A directive about the version of the format. -/
  | versionDirective
  /-- A directive that makes a handle stand for the start of tags; both are empty for a directive
      that is not known. -/
  | tagDirective (handle start : String)
  | documentStart
  | documentEnd
  | blockSequenceStart
  | blockMappingStart
  | blockEnd
  | flowSequenceStart
  | flowSequenceEnd
  | flowMappingStart
  | flowMappingEnd
  | blockEntry
  | flowEntry
  | key
  | value
  | alias (name : String)
  | anchor (name : String)
  /-- A tag: its handle, and what follows it. -/
  | tag (handle suffix : String)
  /-- A text, and whether it stands as it is, without quotes or a block. -/
  | scalar (isPlain : Bool) (text : String)
deriving DecidableEq, Repr

end StaticSite.Config.Yaml
