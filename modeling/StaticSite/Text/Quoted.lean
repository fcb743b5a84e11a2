/-
  QUOTED TEXT: a string as it stands in a message.

  Messages and log lines show foreign text between double quotes, so that its end is visible and
  no character of it can disturb the line it stands in.  A quote and a backslash get a backslash;
  NUL, tab, line feed and carriage return have letters; every other character without a shape of
  its own, and every combining mark, is written by its number.
-/
import StaticSite.Text.CharTables

namespace StaticSite.Text

/-- A character shown by its number, such as `\u{301}`. -/
def numbered (c : Char) : List Char :=
  ['\\', 'u', '\x7b'] ++ Nat.toDigits 16 c.toNat ++ ['\x7d']

/-- A character as it stands inside quotes. -/
def quotedChar (c : Char) : List Char :=
  if c == '"' then ['\\', '"']
  else if c == '\\' then ['\\', '\\']
  else if c == '\x00' then ['\\', '0']
  else if c == '\t' then ['\\', 't']
  else if c == '\n' then ['\\', 'n']
  else if c == '\r' then ['\\', 'r']
  else if 0x20 ≤ c.toNat && c.toNat < 0x7F then [c]
  else if withinEdges graphemeExtend c.toNat || withinEdges unprintable c.toNat then numbered c
  else [c]

/-- A text between double quotes. -/
def quotedChars (s : List Char) : List Char := '"' :: s.flatMap quotedChar ++ ['"']

/-- A string between double quotes. -/
def quoted (s : String) : String := String.ofList (quotedChars s.toList)

end StaticSite.Text
