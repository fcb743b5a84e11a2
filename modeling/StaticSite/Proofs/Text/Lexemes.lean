/-
  LEXEMES: words and numbers, read back as they were written.

  1. A word is a run of characters without a blank.  A blank divides the words of a text
     (`words_append_cons`), so words with a space between any two of them are the words of that text
     (`words_intercalate`).
  2. The decimal digits of a number have it as their value (`natOfDigits_toDigits`), zeros in front or
     not (`natOfDigits_padded`).
-/
import Mathlib.Algebra.Group.Nat.Defs
import StaticSite.Calendar
import StaticSite.Decimal
import StaticSite.Text.Blank

namespace StaticSite

/-! ## Words -/

namespace Text

/-- A word: some characters, none of them a blank. -/
def IsWord (s : List Char) : Prop := s ≠ [] ∧ ∀ c ∈ s, isBlank c = false

theorem isWord_iff_all {s : List Char} : IsWord s ↔ s ≠ [] ∧ s.all (!isBlank ·) = true := by
  simp [IsWord]

instance (s : List Char) : Decidable (IsWord s) := decidable_of_iff' _ isWord_iff_all

theorem IsWord.append {s t : List Char} (hs : IsWord s) (ht : IsWord t) : IsWord (s ++ t) := by
  constructor
  · exact List.append_ne_nil_of_left_ne_nil hs.1 t
  · exact List.forall_mem_append.2 ⟨hs.2, ht.2⟩

/-- Characters that are no blanks go on with the word. -/
theorem wordsFrom_append {w : List Char} (solid : ∀ c ∈ w, isBlank c = false)
    (word rest : List Char) : wordsFrom word (w ++ rest) = wordsFrom (w.reverse ++ word) rest := by
  induction w generalizing word with
  | nil => rfl
  | cons c w ih =>
    obtain ⟨hc, hw⟩ := List.forall_mem_cons.1 solid
    rw [List.cons_append, wordsFrom, if_neg (by rw [hc]; exact Bool.false_ne_true), ih hw,
      List.reverse_cons, List.append_assoc]
    rfl

/-- A blank ends a word: what stands behind it has words of its own. -/
theorem wordsFrom_append_cons {blank : Char} (h : isBlank blank = true) (word s rest : List Char) :
    wordsFrom word (s ++ blank :: rest) = wordsFrom word s ++ words rest := by
  induction s generalizing word with
  | nil =>
    rw [List.nil_append, wordsFrom, wordsFrom, if_pos h]
    split
    · rfl
    · rfl
  | cons c s ih =>
    rw [List.cons_append, wordsFrom, wordsFrom, ih, ih]
    split
    · split
      · rfl
      · rfl
    · rfl

theorem words_append_cons {blank : Char} (h : isBlank blank = true) (s rest : List Char) :
    words (s ++ blank :: rest) = words s ++ words rest :=
  wordsFrom_append_cons h [] s rest

/-- Blanks in front are no part of a word. -/
theorem wordsFrom_blanks {blanks : List Char} (blank : ∀ c ∈ blanks, isBlank c = true)
    (rest : List Char) : wordsFrom [] (blanks ++ rest) = wordsFrom [] rest := by
  induction blanks with
  | nil => rfl
  | cons c blanks ih =>
    obtain ⟨hc, hblanks⟩ := List.forall_mem_cons.1 blank
    rw [List.cons_append, wordsFrom, if_pos hc]
    exact ih hblanks

theorem words_of_isWord {w : List Char} (word : IsWord w) : words w = [w] := by
  have notEmpty : ¬(w.reverse ++ []).isEmpty = true := by
    rw [List.append_nil, List.isEmpty_reverse, List.isEmpty_iff]
    exact word.1
  have whole := wordsFrom_append word.2 [] []
  rw [List.append_nil, wordsFrom, if_neg notEmpty, List.append_nil, List.reverse_reverse] at whole
  exact whole

/-- What stands before the first blanks is the first word. -/
theorem words_append_blanks {w : List Char} (word : IsWord w) {blanks : List Char}
    (some : blanks ≠ []) (blank : ∀ c ∈ blanks, isBlank c = true) (rest : List Char) :
    words (w ++ (blanks ++ rest)) = w :: words rest := by
  obtain ⟨c, others, rfl⟩ := List.exists_cons_of_ne_nil some
  obtain ⟨hc, hothers⟩ := List.forall_mem_cons.1 blank
  rw [List.cons_append, words_append_cons hc, words_of_isWord word, List.singleton_append, words,
    wordsFrom_blanks hothers]
  rfl

/-- A blank at the end is no part of a word. -/
theorem words_append_blank {blank : Char} (h : isBlank blank = true) (s : List Char) :
    words (s ++ [blank]) = words s := by
  rw [words_append_cons h]
  exact List.append_nil _

/-- Words with a space between any two of them are the words of that text. -/
theorem words_intercalate {ws : List (List Char)} (h : ∀ w ∈ ws, IsWord w) :
    words ([' '].intercalate ws) = ws := by
  induction ws with
  | nil => rfl
  | cons w rest ih =>
    obtain ⟨hw, hrest⟩ := List.forall_mem_cons.1 h
    cases rest with
    | nil =>
      rw [List.intercalate_singleton]
      exact words_of_isWord hw
    | cons next others =>
      rw [List.intercalate_cons_cons, List.append_assoc, List.singleton_append,
        words_append_cons (by decide), words_of_isWord hw, ih hrest]
      rfl

/-- Such a text has its spaces already. -/
theorem singleSpaced_intercalate {ws : List (List Char)} (h : ∀ w ∈ ws, IsWord w) :
    singleSpaced ([' '].intercalate ws) = [' '].intercalate ws := by
  rw [singleSpaced, words_intercalate h]

theorem trimStart_of_isWord {w : List Char} (word : IsWord w) (rest : List Char) :
    trimStart (w ++ rest) = w ++ rest := by
  obtain ⟨c, others, rfl⟩ := List.exists_cons_of_ne_nil word.1
  have hc := word.2 c List.mem_cons_self
  rw [List.cons_append, trimStart, List.dropWhile_cons_of_neg (by rw [hc]; exact Bool.false_ne_true)]

theorem trimEnd_of_isWord {w : List Char} (word : IsWord w) (front : List Char) :
    trimEnd (front ++ w) = front ++ w := by
  have reversed : IsWord w.reverse := by
    constructor
    · exact mt List.reverse_eq_nil_iff.1 word.1
    · intro c hc
      exact word.2 c (List.mem_reverse.1 hc)
  have start := trimStart_of_isWord reversed front.reverse
  rw [trimStart] at start
  rw [trimEnd, List.reverse_append, start, List.reverse_append, List.reverse_reverse,
    List.reverse_reverse]

/-- A character that is no blank is not dropped. -/
theorem mem_dropWhile_isBlank {s : List Char} {c : Char} (mem : c ∈ s) (solid : isBlank c = false) :
    c ∈ s.dropWhile isBlank := by
  rw [← List.takeWhile_append_dropWhile (p := isBlank) (l := s)] at mem
  rcases List.mem_append.1 mem with dropped | kept
  · have blank := List.all_eq_true.1 List.all_takeWhile c dropped
    rw [solid] at blank
    cases blank
  · exact kept

/-- What is trimmed off are blanks. -/
theorem mem_trim {s : List Char} {c : Char} (mem : c ∈ s) (solid : isBlank c = false) :
    c ∈ trim s := by
  have start := mem_dropWhile_isBlank mem solid
  exact List.mem_reverse.2 (mem_dropWhile_isBlank (List.mem_reverse.2 start) solid)

/-- A blank at the end is trimmed off. -/
theorem trim_append_blank {blank : Char} (h : isBlank blank = true) (s : List Char) :
    trim (s ++ [blank]) = trim s := by
  have alone : [blank].dropWhile isBlank = [] := List.dropWhile_cons_of_pos h
  rw [trim, trim, trimStart, trimStart, List.dropWhile_append, alone]
  split
  next empty => rw [List.isEmpty_iff.1 empty]
  next => rw [trimEnd, trimEnd, List.reverse_concat, List.dropWhile_cons_of_pos h]

/-- A blank in front is trimmed off. -/
theorem trim_blank_cons {blank : Char} (h : isBlank blank = true) (s : List Char) :
    trim (blank :: s) = trim s := by
  rw [trim, trim, trimStart, trimStart, List.dropWhile_cons_of_pos h]

/-- A blank in front of a text that begins and ends with a word is trimmed off, and nothing else. -/
theorem trim_cons_blank {blank : Char} (h : isBlank blank = true) {first last : List Char}
    (hfirst : IsWord first) (hlast : IsWord last) (middle : List Char) :
    trim (blank :: (first ++ (middle ++ last))) = first ++ (middle ++ last) := by
  have start : trimStart (blank :: (first ++ (middle ++ last))) = first ++ (middle ++ last) := by
    rw [trimStart, List.dropWhile_cons_of_pos h]
    exact trimStart_of_isWord hfirst (middle ++ last)
  rw [trim, start, ← List.append_assoc, trimEnd_of_isWord hlast]

end Text

/-! ## Numbers -/

theorem natOfDigits_eq (ds : List Char) : natOfDigits ds = Nat.ofDigitChars 10 ds 0 := by
  show ds.foldl (fun n c => n * 10 + (c.toNat - 48)) 0 = ds.foldl (fun n c => 10 * n + (c.toNat - 48)) 0
  congr
  funext n c
  omega

theorem natOfDigits_toDigits (n : Nat) : natOfDigits (Nat.toDigits 10 n) = n := by
  rw [natOfDigits_eq, Nat.ofDigitChars_ten_toDigits]

theorem natOfDigits_zeros (count : Nat) (ds : List Char) :
    natOfDigits (List.replicate count '0' ++ ds) = natOfDigits ds := by
  induction count with
  | zero => rfl
  | succ count ih => exact ih

/-- Zeros in front do not change the value. -/
theorem natOfDigits_padded (width n : Nat) : natOfDigits (padded width n) = n := by
  rw [padded, natOfDigits_zeros, natOfDigits_toDigits]

theorem isDigit_of_mem_toDigits {n : Nat} : ∀ c ∈ Nat.toDigits 10 n, c.isDigit = true := by
  intro c hc
  exact Nat.isDigit_of_mem_toDigits (by decide) (by decide) hc

theorem not_mem_toDigits {c : Char} (h : c.isDigit = false) (n : Nat) : c ∉ Nat.toDigits 10 n := by
  intro hc
  rw [isDigit_of_mem_toDigits c hc] at h
  cases h

theorem isDigit_of_mem_padded {width n : Nat} : ∀ c ∈ padded width n, c.isDigit = true := by
  intro c hc
  rcases List.mem_append.1 hc with zero | digit
  · rw [List.eq_of_mem_replicate zero]
    decide
  · exact isDigit_of_mem_toDigits c digit

/-- A number that fits has exactly as many digits as are asked for. -/
theorem length_padded {width n : Nat} (some : 0 < width) (fits : n < 10 ^ width) :
    (padded width n).length = width := by
  have few : (Nat.toDigits 10 n).length ≤ width :=
    (Nat.length_toDigits_le_iff (by decide) some).2 fits
  rw [padded, List.length_append, List.length_replicate]
  omega

theorem isBlank_of_isDigit {c : Char} (h : c.isDigit = true) : Text.isBlank c = false := by
  rw [Char.isDigit, Bool.and_eq_true, decide_eq_true_iff, decide_eq_true_iff] at h
  have low : 48 ≤ c.toNat := UInt32.le_iff_toNat_le.1 h.1
  have high : c.toNat ≤ 57 := UInt32.le_iff_toNat_le.1 h.2
  have others : ∀ n ∈ Text.loneBlanks, n = 32 ∨ 57 < n := by decide
  have alone : c.toNat ∉ Text.loneBlanks := by
    intro mem
    have := others c.toNat mem
    omega
  simp [Text.isBlank, alone]
  omega

/-- Digits make a word. -/
theorem isWord_of_digits {ds : List Char} (some : ds ≠ []) (digits : ∀ c ∈ ds, c.isDigit = true) :
    Text.IsWord ds := by
  constructor
  · exact some
  · intro c hc
    exact isBlank_of_isDigit (digits c hc)

theorem padded_ne_nil (width n : Nat) : padded width n ≠ [] :=
  List.append_ne_nil_of_right_ne_nil _ Nat.toDigits_ne_nil

/-- The digits at the front of a text, if what follows them is no digit. -/
theorem takeWhile_digits {ds rest : List Char} (digits : ∀ c ∈ ds, c.isDigit = true)
    (stop : ∀ c, rest.head? = some c → c.isDigit = false) :
    (ds ++ rest).takeWhile Char.isDigit = ds := by
  rw [List.takeWhile_append_of_pos digits]
  cases rest with
  | nil => rw [List.takeWhile_nil, List.append_nil]
  | cons c others =>
    have hc : c.isDigit = false := stop c rfl
    rw [List.takeWhile_cons_of_neg (by rw [hc]; exact Bool.false_ne_true), List.append_nil]

end StaticSite
