/-
  ADDRESSES: where a server listens.

  An address is four decimal bytes and a port, `127.0.0.1:80`, or eight hexadecimal groups in
  brackets, `[::1]:80`, of which one run of zeros may be left out and the last two may be written
  as four decimal bytes; a zone number may follow them.  Names are not looked up.

  An address is written in the shortest form: the longest run of at least two zero groups is left
  out, the first of equally long ones; a mapped address ends in its four bytes.
-/
import StaticSite.Text.Digit
import StaticSite.Text.Split

namespace StaticSite.Server

/-- An address to listen on. -/
inductive Address
  | four (bytes : List Nat) (port : Nat)
  | six (groups : List Nat) (zone port : Nat)
deriving DecidableEq, Repr

namespace Address

/-! ## Reading

    A reader of a part gives its value and the rest of the text. -/

/-- A byte: one to three digits, without a needless zero, below 256. -/
def readByte (s : List Char) : Option (Nat × List Char) :=
  let ds := s.takeWhile Char.isDigit
  let padded := ds.head? == some '0' && 1 < ds.length
  if ds.isEmpty || 3 < ds.length || padded || 255 < Text.valueOf 10 ds then none
  else some (Text.valueOf 10 ds, s.drop ds.length)

/-- A group: one to four hexadecimal digits. -/
def readGroup (s : List Char) : Option (Nat × List Char) :=
  let ds := s.takeWhile (Text.isDigit 16)
  if ds.isEmpty || 4 < ds.length then none else some (Text.valueOf 16 ds, s.drop ds.length)

/-- A number below a bound, with any zeros in front. -/
def readBelow (bound : Nat) (s : List Char) : Option (Nat × List Char) :=
  let ds := s.takeWhile Char.isDigit
  if ds.isEmpty || bound ≤ Text.valueOf 10 ds then none else some (Text.valueOf 10 ds, s.drop ds.length)

/-- A given character in front. -/
def drop? (c : Char) (s : List Char) : Option (List Char) := Text.dropStart? [c] s

/-- Four bytes between dots. -/
def readFour (s : List Char) : Option (List Nat × List Char) := do
  let (a, s) ← readByte s
  let (b, s) ← readByte (← drop? '.' s)
  let (c, s) ← readByte (← drop? '.' s)
  let (d, s) ← readByte (← drop? '.' s)
  return ([a, b, c, d], s)

/-- Two groups that four bytes make. -/
def groupsOfBytes : List Nat → List Nat
  | [a, b, c, d] => [a * 256 + b, c * 256 + d]
  | _ => []

/-- Up to `room` groups between colons, the last two possibly as four bytes: the groups, whether
    they ended in bytes, and the rest.  `first` says that no colon stands in front. -/
def readGroups (first : Bool) : Nat → List Char → List Nat × Bool × List Char
  | 0, s => ([], false, s)
  | room + 1, s =>
    let inner := if first then some s else drop? ':' s
    match (if 0 < room then inner.bind readFour else none) with
    | some (bytes, rest) => (groupsOfBytes bytes, true, rest)
    | none =>
      match inner.bind readGroup with
      | none => ([], false, s)
      | some (g, rest) =>
        let (gs, bytes, rest) := readGroups false room rest
        (g :: gs, bytes, rest)

/-- Eight groups, or fewer around two colons that stand for the zeros between. -/
def readSix (s : List Char) : Option (List Nat × List Char) :=
  let (head, bytes, rest) := readGroups true 8 s
  if head.length = 8 then some (head, rest)
  else if bytes then none
  else do
    let rest ← drop? ':' (← drop? ':' rest)
    let (tail, _, rest) := readGroups true (7 - head.length) rest
    return (head ++ List.replicate (8 - head.length - tail.length) 0 ++ tail, rest)

/-- A colon and a port. -/
def readPort (s : List Char) : Option (Nat × List Char) := do readBelow UInt16.size (← drop? ':' s)

/-- Four bytes and a port. -/
def readFourPort (s : List Char) : Option (Address × List Char) := do
  let (bytes, s) ← readFour s
  let (port, s) ← readPort s
  return (.four bytes port, s)

/-- Groups in brackets, possibly with a zone, and a port. -/
def readSixPort (s : List Char) : Option (Address × List Char) := do
  let (groups, s) ← readSix (← drop? '[' s)
  let (zone, s) := ((drop? '%' s).bind (readBelow UInt32.size)).getD (0, s)
  let (port, s) ← readPort (← drop? ']' s)
  return (.six groups zone port, s)

/-- The address that a text denotes. -/
def parse? (text : String) : Option Address :=
  let whole (r : Option (Address × List Char)) : Option Address :=
    match r with
    | some (address, []) => some address
    | _ => none
  match readFourPort text.toList with
  | some found => whole (some found)
  | none => whole (readSixPort text.toList)

/-! ## Writing -/

/-- Bytes between dots. -/
def bytesText (bytes : List Nat) : String := ".".intercalate (bytes.map toString)

/-- Groups between colons. -/
def groupsText (groups : List Nat) : String :=
  ":".intercalate (groups.map fun g => String.ofList (Nat.toDigits 16 g))

/-- The number of zeros in front. -/
def zerosAhead (groups : List Nat) : Nat := (groups.takeWhile (· == 0)).length

/-- The start and the length of the longest run of zeros, the first of equally long ones. -/
def longestZeros (groups : List Nat) : Nat × Nat :=
  (List.range groups.length).foldl (fun best i =>
    let length := zerosAhead (groups.drop i)
    if best.2 < length then (i, length) else best) (0, 0)

/-- Eight groups in their shortest form. -/
def sixText (groups : List Nat) : String :=
  match groups with
  | [0, 0, 0, 0, 0, 0xFFFF, a, b] =>
    "::ffff:" ++ bytesText [a / 256, a % 256, b / 256, b % 256]
  | groups =>
    let (start, length) := longestZeros groups
    if 1 < length then
      groupsText (groups.take start) ++ "::" ++ groupsText (groups.drop (start + length))
    else groupsText groups

/-- The address as text. -/
def text : Address → String
  | .four bytes port => bytesText bytes ++ ":" ++ toString port
  | .six groups zone port =>
    "[" ++ sixText groups ++ (if zone = 0 then "" else "%" ++ toString zone) ++ "]:" ++ toString port

/-- Whether the address has eight groups. -/
def isSix : Address → Bool
  | .four _ _ => false
  | .six _ _ _ => true

end Address

end StaticSite.Server
