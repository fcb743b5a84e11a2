/-
  UTF-8: bytes into text, three ways.

  A byte string is cut into pieces (`readPiece`): a well-formed character, a malformed run of one
  to three bytes, or a character whose bytes stop at the end of the input.  The shortest possible
  prefix of a bad sequence is taken, so that the next piece starts at the first byte that may
  start a character again.  On top of it stand

    * `decode?`  — the whole text, or nothing;
    * `decode`   — the whole text, or where and how it goes wrong (`Utf8Error`);
    * `decodeLossy` — always a text, with U+FFFD for each bad piece.

  `encode` is the way back.
-/

namespace StaticSite.Text

/-- Bytes as the network and the file system carry them. -/
abbrev Bytes := List UInt8

/-- The bytes of a text. -/
def encode (s : List Char) : Bytes := s.flatMap String.utf8EncodeChar

/-- The bytes of a string. -/
def utf8 (s : String) : Bytes := encode s.toList

/-- What stands at the front of a byte string that is not empty. -/
inductive Piece
  /-- A character, and how many bytes follow its first one. -/
  | scalar (c : Char) (more : Nat)
  /-- A sequence that cannot become a character; `more` bytes beyond the first belong to it. -/
  | malformed (more : Nat)
  /-- The start of a character that the end of the input cuts off. -/
  | truncated
deriving DecidableEq, Repr

/-- A byte that may follow the first byte of a character. -/
def isContinuation (b : UInt8) : Bool := 0x80 ≤ b && b ≤ 0xBF

/-- The second bytes allowed after a first byte of a three- or four-byte character: they rule out
    overlong forms, surrogates and code points past U+10FFFF. -/
def secondAllowed (first second : UInt8) : Bool :=
  if first == 0xE0 then 0xA0 ≤ second && second ≤ 0xBF
  else if first == 0xED then 0x80 ≤ second && second ≤ 0x9F
  else if first == 0xF0 then 0x90 ≤ second && second ≤ 0xBF
  else if first == 0xF4 then 0x80 ≤ second && second ≤ 0x8F
  else isContinuation second

/-- The six payload bits of a continuation byte. -/
def payload (b : UInt8) : Nat := b.toNat % 64

/-- Reads the piece that starts with `first`, the bytes after it being `rest`. -/
def readPiece (first : UInt8) (rest : Bytes) : Piece :=
  if first < 0x80 then .scalar (Char.ofNat first.toNat) 0
  else if 0xC2 ≤ first && first ≤ 0xDF then
    match rest with
    | [] => .truncated
    | b :: _ =>
      if isContinuation b then .scalar (Char.ofNat (first.toNat % 32 * 64 + payload b)) 1
      else .malformed 0
  else if 0xE0 ≤ first && first ≤ 0xEF then
    match rest with
    | [] => .truncated
    | [b] => if secondAllowed first b then .truncated else .malformed 0
    | b :: c :: _ =>
      if !secondAllowed first b then .malformed 0
      else if !isContinuation c then .malformed 1
      else .scalar (Char.ofNat ((first.toNat % 16 * 64 + payload b) * 64 + payload c)) 2
  else if 0xF0 ≤ first && first ≤ 0xF4 then
    match rest with
    | [] => .truncated
    | [b] => if secondAllowed first b then .truncated else .malformed 0
    | [b, c] =>
      if !secondAllowed first b then .malformed 0
      else if !isContinuation c then .malformed 1
      else .truncated
    | b :: c :: d :: _ =>
      if !secondAllowed first b then .malformed 0
      else if !isContinuation c then .malformed 1
      else if !isContinuation d then .malformed 2
      else .scalar (Char.ofNat
        (((first.toNat % 8 * 64 + payload b) * 64 + payload c) * 64 + payload d)) 3
  else .malformed 0

/-- Why a byte string is no UTF-8 text, with the index of the first bad byte. -/
inductive Utf8Error
  /-- A sequence of `length` bytes that no continuation could make a character. -/
  | malformed (index length : Nat)
  /-- The input ends inside a character. -/
  | truncated (index : Nat)
deriving DecidableEq, Repr

/-- The wording of a decoding error. -/
def Utf8Error.message : Utf8Error → String
  | .malformed index length =>
    "invalid utf-8 sequence of " ++ toString length ++ " bytes from index " ++ toString index
  | .truncated index => "incomplete utf-8 byte sequence from index " ++ toString index

/-- Decodes from byte `index` of the input on; `done` holds the characters before, last one first. -/
def decodeFrom (index : Nat) (done : List Char) : Bytes → Except Utf8Error (List Char)
  | [] => .ok done.reverse
  | b :: rest =>
    match readPiece b rest with
    | .scalar c more => decodeFrom (index + more + 1) (c :: done) (rest.drop more)
    | .malformed more => .error (.malformed index (more + 1))
    | .truncated => .error (.truncated index)
termination_by bs => bs.length
decreasing_by simp only [List.length_drop, List.length_cons]; omega

/-- The text that the bytes spell, or the first fault in them. -/
def decode (bs : Bytes) : Except Utf8Error (List Char) := decodeFrom 0 [] bs

/-- The text that the bytes spell, if they spell one. -/
def decode? (bs : Bytes) : Option (List Char) :=
  match decode bs with
  | .ok cs => some cs
  | .error _ => none

/-- U+FFFD, shown in place of bytes that spell no character. -/
def replacement : Char := '\uFFFD'

/-- The text with each bad piece replaced by U+FFFD; `done` holds the characters before, last first. -/
def decodeLossyFrom (done : List Char) : Bytes → List Char
  | [] => done.reverse
  | b :: rest =>
    match readPiece b rest with
    | .scalar c more => decodeLossyFrom (c :: done) (rest.drop more)
    | .malformed more => decodeLossyFrom (replacement :: done) (rest.drop more)
    | .truncated => (replacement :: done).reverse
termination_by bs => bs.length
decreasing_by all_goals simp only [List.length_drop, List.length_cons]; omega

/-- The text that the bytes spell, with U+FFFD for whatever spells nothing. -/
def decodeLossy (bs : Bytes) : List Char := decodeLossyFrom [] bs

end StaticSite.Text
