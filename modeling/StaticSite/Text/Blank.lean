/-
  BLANKS: the white space of Unicode text, and trimming it away.

  Headers, stored responses and configuration values are trimmed before they are read.  What
  counts as white space there is the property White_Space of the Unicode standard: twenty-five
  code points, all of them in the table `blanks` below.

  Numbered structure:
    §1  the character class `isBlank`
    §2  `trimStart`, `trimEnd`, `trim` on character lists, `trimmed` on strings
    §3  the words of a text, and the text with one space between them
-/

namespace StaticSite.Text

/-! ## §1 The character class -/

/-- The code points with the property White_Space outside the two ranges 9–13 and 2000₁₆–200A₁₆. -/
def loneBlanks : List Nat :=
  [0x20, 0x85, 0xA0, 0x1680, 0x2028, 0x2029, 0x202F, 0x205F, 0x3000]

/-- White space: tab to carriage return, the space, and the spaces and separators of other scripts. -/
def isBlank (c : Char) : Bool :=
  let n := c.toNat
  (9 ≤ n && n ≤ 13) || (0x2000 ≤ n && n ≤ 0x200A) || loneBlanks.contains n

/-! ## §2 Trimming -/

/-- The text from its first character on that is no blank. -/
def trimStart (s : List Char) : List Char := s.dropWhile isBlank

/-- The text up to its last character that is no blank. -/
def trimEnd (s : List Char) : List Char := (s.reverse.dropWhile isBlank).reverse

/-- The text without blanks at either end. -/
def trim (s : List Char) : List Char := trimEnd (trimStart s)

/-- `trim` on strings. -/
def trimmed (s : String) : String := String.ofList (trim s.toList)

/-! ## §3 Words -/

/-- Walks a text; `word` holds the letters of the current word, last one first. -/
def wordsFrom (word : List Char) : List Char → List (List Char)
  | [] => if word.isEmpty then [] else [word.reverse]
  | c :: rest =>
    if isBlank c then
      if word.isEmpty then wordsFrom [] rest else word.reverse :: wordsFrom [] rest
    else wordsFrom (c :: word) rest

/-- The maximal runs of characters that are no blanks, in order. -/
def words (s : List Char) : List (List Char) := wordsFrom [] s

/-- The words of a text with one space between any two of them. -/
def singleSpaced (s : List Char) : List Char := [' '].intercalate (words s)

/-- A text without blanks is its own trimmed form. -/
theorem trim_of_forall_not {s : List Char} (h : ∀ c ∈ s, isBlank c = false) : trim s = s := by
  have drop : ∀ t : List Char, (∀ c ∈ t, isBlank c = false) → t.dropWhile isBlank = t := by
    intro t ht
    cases t with
    | nil => rfl
    | cons c r => simp [ht c (by simp)]
  unfold trim trimEnd trimStart
  rw [drop s h, drop s.reverse (fun c hc => h c (List.mem_reverse.1 hc)), List.reverse_reverse]

end StaticSite.Text
