/-
  MARKUP OF LISTINGS: what comes from outside stays text.

  The page of a listing is a FRAME with data in its gaps (`pagePieces`).  The frame is fixed but for the
  number of rows, and has all the markup.  The data is INERT (`Inert`): none of it is a character of
  markup, and an ampersand in it begins one of five entities.  So names, types and request paths never
  change which markup there is (`marksOf_listingPage`), and no ampersand of a page is anything else
  (`onlyEntities_listingPage`).

  A reader who looks for links finds one in each row and no others (`anchorsOf_listingPage`).  Undoing
  the entities of its text gives the name back (`unescape_shown`), so the reader sees which entry it is.

  Numbered structure:
    §1  frame and data
    §2  links
    §3  the page
-/
import StaticSite.Proofs.Site.Escapes
import StaticSite.Proofs.Site.Links

namespace StaticSite.Site

/-! ## §1 Frame and data -/

/-- What a page is made of: text that stands in every page, and what comes from outside. -/
inductive Piece
  | fixed (text : String)
  | data (text : String)

def Piece.text : Piece → String
  | .fixed text => text
  | .data text => text

/-- The text if it is fixed. -/
def Piece.fixed? : Piece → Option String
  | .fixed text => some text
  | .data _ => none

/-- The text if it comes from outside. -/
def Piece.data? : Piece → Option String
  | .fixed _ => none
  | .data text => some text

/-- The text of some pieces. -/
def textOf : List Piece → String
  | [] => ""
  | piece :: rest => piece.text ++ textOf rest

theorem textOf_append (before after : List Piece) :
    textOf (before ++ after) = textOf before ++ textOf after := by
  induction before with
  | nil => exact String.empty_append.symm
  | cons piece rest ih => rw [List.cons_append, textOf, ih, textOf, String.append_assoc]

/-- The name of an entry as a row shows it. -/
def Entry.shown (e : Entry) : String := escapeText e.name ++ if e.isDir then "/" else ""

/-- The pieces of a row up to its link; rows are coloured in turn. -/
def rowStart (index : Nat) : List Piece :=
  [.fixed "<tr class=\"", .fixed (if index % 2 = 0 then "odd" else "even"), .fixed "\">\n",
   .fixed "    <td>"]

def Entry.linkPieces (e : Entry) : List Piece :=
  [.fixed "<a href=\"", .data e.href, .fixed "\">", .data e.shown, .fixed "</a></td>\n"]

/-- The pieces of a row behind its link. -/
def Entry.rowEnd (e : Entry) : List Piece :=
  [.fixed "    <td>", .data e.cells.1, .fixed "</td>\n",
   .fixed "    <td>", .data e.cells.2.1, .fixed "</td>\n",
   .fixed "    <td>", .data e.cells.2.2, .fixed "</td>\n", .fixed "</tr>\n"]

/-- The pieces of a row. -/
def Entry.pieces (index : Nat) (e : Entry) : List Piece :=
  rowStart index ++ (e.linkPieces ++ e.rowEnd)

def piecesFrom (index : Nat) : List Entry → List Piece
  | [] => []
  | e :: rest => e.pieces index ++ piecesFrom (index + 1) rest

/-- The title of a page, in pieces. -/
def titlePieces (requestPath : String) : List Piece :=
  [.fixed "Directory listing for ", .data (escapeText (readablePath requestPath))]

/-- The pieces above the style. -/
def headPieces (requestPath : String) : List Piece :=
  .fixed "<!DOCTYPE html>\n<html>\n<head>\n<meta charset=\"utf-8\">\n<title>"
    :: (titlePieces requestPath ++ [.fixed "</title>\n", .fixed "<style>\n"])

/-- The pieces between the style and the rows. -/
def bodyPieces (requestPath : String) : List Piece :=
  .fixed "</style>\n</head>\n<body>\n<h1>"
    :: (titlePieces requestPath
      ++ [.fixed "</h1>\n\n", .fixed "<table>\n    <thead>\n        <tr>\n",
        .fixed "            <th>Filename</th>\n", .fixed "            <th>Size</th>\n",
        .fixed "            <th>Content type</th>\n", .fixed "            <th>Content encoding</th>\n",
        .fixed "        </tr>\n    </thead>\n    <tbody>\n"])

/-- The pieces above the rows. -/
def frontPieces (requestPath : String) : List Piece :=
  headPieces requestPath ++ .fixed style :: bodyPieces requestPath

/-- The pieces below the rows. -/
def backPieces : List Piece := [.fixed "    </tbody>\n</table>\n\n</body>\n</html>\n"]

/-- The pieces of a page. -/
def pagePieces (es : List Entry) (requestPath : String) : List Piece :=
  frontPieces requestPath ++ (piecesFrom 0 es ++ backPieces)

theorem textOf_pieces (index : Nat) (e : Entry) : textOf (e.pieces index) = e.row index := by
  have cut : "    <td><a href=\"" = "    <td>" ++ "<a href=\"" := by decide
  rw [Entry.pieces, textOf_append, textOf_append]
  unfold rowStart Entry.linkPieces Entry.rowEnd Entry.row Entry.href Entry.shown
  obtain ⟨size, type, encoding⟩ := e.cells
  simp only [textOf, Piece.text, cut, String.append_assoc, String.append_empty]

theorem textOf_piecesFrom (index : Nat) (es : List Entry) :
    textOf (piecesFrom index es) = rowsFrom index es := by
  induction es generalizing index with
  | nil => rfl
  | cons e rest ih => rw [piecesFrom, textOf_append, textOf_pieces, ih, rowsFrom]

theorem textOf_pagePieces (es : List Entry) (requestPath : String) :
    textOf (pagePieces es requestPath) = listingPage es requestPath := by
  rw [pagePieces, textOf_append, textOf_append, textOf_piecesFrom]
  unfold frontPieces headPieces bodyPieces titlePieces backPieces listingPage
  generalize rowsFrom 0 es = rows
  generalize escapeText (readablePath requestPath) = title
  generalize style = css
  simp only [List.cons_append, List.nil_append, textOf, Piece.text, String.append_assoc,
    String.append_empty]

/-- The frame of some pieces. -/
def frameOf (pieces : List Piece) : List String := pieces.filterMap Piece.fixed?

/-- The data in the gaps. -/
def dataOf (pieces : List Piece) : List String := pieces.filterMap Piece.data?

theorem frameOf_append (before after : List Piece) :
    frameOf (before ++ after) = frameOf before ++ frameOf after := List.filterMap_append

theorem dataOf_append (before after : List Piece) :
    dataOf (before ++ after) = dataOf before ++ dataOf after := List.filterMap_append

/-- With inert data in its gaps, the markup of a text is that of the frame. -/
theorem marksOf_textOf {pieces : List Piece} (inert : ∀ t ∈ dataOf pieces, Inert t) :
    marksOf (textOf pieces) = (frameOf pieces).flatMap marksOf := by
  induction pieces with
  | nil => rfl
  | cons piece rest ih =>
    rw [textOf, marksOf, String.toList_append, List.filter_append]
    cases piece with
    | fixed text => exact congrArg (marksOf text ++ ·) (ih inert)
    | data text =>
      obtain ⟨htext, hrest⟩ := List.forall_mem_cons.1 inert
      have silent : text.toList.filter isMark = [] := htext.marksOf_eq
      exact (congrArg (· ++ _) silent).trans (ih hrest)

/-- With inert data in the gaps of a frame without ampersands, every ampersand begins an entity. -/
theorem onlyEntities_textOf {pieces : List Piece} (inert : ∀ t ∈ dataOf pieces, Inert t)
    (free : ∀ t ∈ frameOf pieces, '&' ∉ t.toList) : OnlyEntities (textOf pieces).toList := by
  induction pieces with
  | nil => exact onlyEntities_of_not_mem List.not_mem_nil
  | cons piece rest ih =>
    rw [textOf, String.toList_append]
    cases piece with
    | fixed text =>
      obtain ⟨htext, hrest⟩ := List.forall_mem_cons.1 free
      exact (onlyEntities_of_not_mem htext).append (ih inert hrest)
    | data text =>
      obtain ⟨htext, hrest⟩ := List.forall_mem_cons.1 inert
      exact htext.entities.append (ih hrest free)

theorem isLinkChar_of_mem_href {e : Entry} : ∀ c ∈ e.href.toList, isLinkChar c = true := by
  rw [Entry.href, String.toList_append]
  refine List.forall_mem_append.2 ⟨?_, ?_⟩
  · exact isLinkChar_of_mem_linkText
  · cases e.isDir
    · exact List.all_eq_true.1 (by decide)
    · exact List.all_eq_true.1 (by decide)

theorem inert_shown (e : Entry) : Inert e.shown := by
  have slash : Inert (if e.isDir then "/" else "") := by
    apply inert_of_isInertChar
    cases e.isDir
    · decide
    · decide
  exact (inert_escapeText e.name).append slash

theorem inert_bracketed {s : String} (h : Inert s) : Inert ("[" ++ s ++ "]") := by
  have opening : Inert "[" := inert_of_isInertChar (by decide)
  have closing : Inert "]" := inert_of_isInertChar (by decide)
  exact (opening.append h).append closing

/-- The cells of a row are inert. -/
theorem inert_cells (e : Entry) : ∀ cell ∈ [e.cells.1, e.cells.2.1, e.cells.2.2], Inert cell := by
  have none : Inert "" := inert_of_isInertChar rfl
  have directory : Inert "Directory" := inert_of_isInertChar (by decide)
  simp only [List.forall_mem_cons]
  unfold Entry.cells
  split
  · exact ⟨none, inert_bracketed directory, none, nofun⟩
  · split
    · exact ⟨inert_sizeText e.size, none, none, nofun⟩
    · refine ⟨inert_sizeText e.size, inert_bracketed (inert_escapeText _), ?_, nofun⟩
      split
      · exact inert_bracketed (inert_escapeText _)
      · exact none

theorem inert_dataOf_piecesFrom (index : Nat) (es : List Entry) :
    ∀ t ∈ dataOf (piecesFrom index es), Inert t := by
  induction es generalizing index with
  | nil => nofun
  | cons e rest ih =>
    have row : ∀ t ∈ dataOf (e.pieces index), Inert t :=
      List.forall_mem_cons.2 ⟨inert_of_isLinkChar isLinkChar_of_mem_href,
        List.forall_mem_cons.2 ⟨inert_shown e, inert_cells e⟩⟩
    rw [piecesFrom, dataOf_append]
    exact List.forall_mem_append.2 ⟨row, ih (index + 1)⟩

theorem inert_dataOf_frontPieces (requestPath : String) :
    ∀ t ∈ dataOf (frontPieces requestPath), Inert t := by
  have title := inert_escapeText (readablePath requestPath)
  exact List.forall_mem_cons.2 ⟨title, List.forall_mem_singleton.2 title⟩

/-- All that reaches a page from outside is inert. -/
theorem inert_dataOf_pagePieces (es : List Entry) (requestPath : String) :
    ∀ t ∈ dataOf (pagePieces es requestPath), Inert t := by
  rw [pagePieces, dataOf_append, dataOf_append]
  refine List.forall_mem_append.2 ⟨inert_dataOf_frontPieces requestPath, ?_⟩
  exact List.forall_mem_append.2 ⟨inert_dataOf_piecesFrom 0 es, List.forall_mem_nil _⟩

/-- The frame of a row, which depends on its colour alone. -/
def rowFrame (index : Nat) : List String := frameOf (Entry.pieces index ⟨"", true, 0, none⟩)

theorem frameOf_pieces (index : Nat) (e : Entry) : frameOf (e.pieces index) = rowFrame index := by
  simp only [rowFrame, frameOf, Entry.pieces, rowStart, Entry.linkPieces, Entry.rowEnd,
    List.filterMap_append, List.filterMap_cons, List.filterMap_nil, Piece.fixed?]

theorem rowStart_mod (index : Nat) : rowStart (index % 2) = rowStart index := by
  rw [rowStart, rowStart, Nat.mod_mod]

theorem not_mem_rowFrame (index : Nat) : ∀ t ∈ rowFrame index, '&' ∉ t.toList := by
  have both : ∀ i < 2, ∀ t ∈ rowFrame i, '&' ∉ t.toList := by decide
  have colour : rowFrame (index % 2) = rowFrame index := by
    rw [rowFrame, rowFrame, Entry.pieces, Entry.pieces, rowStart_mod]
  rw [← colour]
  exact both (index % 2) (Nat.mod_lt index (by decide))

theorem not_mem_frameOf_piecesFrom (index : Nat) (es : List Entry) :
    ∀ t ∈ frameOf (piecesFrom index es), '&' ∉ t.toList := by
  induction es generalizing index with
  | nil => nofun
  | cons e rest ih =>
    rw [piecesFrom, frameOf_append, frameOf_pieces]
    exact List.forall_mem_append.2 ⟨not_mem_rowFrame index, ih (index + 1)⟩

/-- The frame of a page depends on the number of its rows alone. -/
theorem frameOf_piecesFrom {es es' : List Entry} (same : es.length = es'.length) (index : Nat) :
    frameOf (piecesFrom index es) = frameOf (piecesFrom index es') := by
  induction es generalizing es' index with
  | nil => rw [List.length_eq_zero_iff.1 same.symm]
  | cons e rest ih =>
    cases es' with
    | nil => cases same
    | cons e' rest' =>
      rw [piecesFrom, piecesFrom, frameOf_append, frameOf_append, frameOf_pieces, frameOf_pieces,
        ih (Nat.succ.inj same)]

theorem frameOf_pagePieces (es : List Entry) (requestPath : String) :
    frameOf (pagePieces es requestPath)
      = frameOf (frontPieces "") ++ (frameOf (piecesFrom 0 es) ++ frameOf backPieces) := by
  rw [pagePieces, frameOf_append, frameOf_append]
  rfl

/-- No link begins in a text, whatever stands behind it. -/
def hasNoAnchor : List Char → Bool
  | [] => true
  | c :: rest => (c != '<' || rest.head?.any (· != 'a')) && hasNoAnchor rest

theorem hasNoAnchor_of_not_mem {s : List Char} (h : '<' ∉ s) : hasNoAnchor s = true := by
  induction s with
  | nil => rfl
  | cons c rest ih =>
    obtain ⟨hc, hrest⟩ := not_or.1 (mt List.mem_cons.2 h)
    rw [hasNoAnchor, ih hrest, bne_iff_ne.2 (Ne.symm hc)]
    rfl

/-- The front of a page has no ampersand and no link. -/
theorem calm_frontPieces :
    ∀ t ∈ frameOf (frontPieces ""), '&' ∉ t.toList ∧ hasNoAnchor t.toList = true := by
  have head : ∀ t ∈ frameOf (headPieces ""), '&' ∉ t.toList ∧ hasNoAnchor t.toList = true := by
    decide +kernel
  have body : ∀ t ∈ frameOf (bodyPieces ""), '&' ∉ t.toList ∧ hasNoAnchor t.toList = true := by
    decide +kernel
  have css : '&' ∉ style.toList ∧ '<' ∉ style.toList := by
    unfold style
    simp only [String.toList_append, List.mem_append, not_or]
    decide +kernel
  rw [frontPieces, frameOf_append]
  refine List.forall_mem_append.2 ⟨head, List.forall_mem_cons.2 ⟨?_, body⟩⟩
  exact ⟨css.1, hasNoAnchor_of_not_mem css.2⟩

/-- No name, type or path changes what markup a page has. -/
theorem marksOf_listingPage {es es' : List Entry} (same : es.length = es'.length)
    (requestPath requestPath' : String) :
    marksOf (listingPage es requestPath) = marksOf (listingPage es' requestPath') := by
  rw [← textOf_pagePieces, ← textOf_pagePieces, marksOf_textOf (inert_dataOf_pagePieces es requestPath),
    marksOf_textOf (inert_dataOf_pagePieces es' requestPath'), frameOf_pagePieces, frameOf_pagePieces,
    frameOf_piecesFrom same]

/-- A page has no ampersand but those of the data. -/
theorem onlyEntities_listingPage (es : List Entry) (requestPath : String) :
    OnlyEntities (listingPage es requestPath).toList := by
  have front : ∀ t ∈ frameOf (frontPieces ""), '&' ∉ t.toList := fun t ht => (calm_frontPieces t ht).1
  have back : ∀ t ∈ frameOf backPieces, '&' ∉ t.toList := by decide
  rw [← textOf_pagePieces]
  apply onlyEntities_textOf (inert_dataOf_pagePieces es requestPath)
  rw [frameOf_pagePieces]
  refine List.forall_mem_append.2 ⟨front, ?_⟩
  exact List.forall_mem_append.2 ⟨not_mem_frameOf_piecesFrom 0 es, back⟩

/-! ## §2 Links -/

/-- A link of a page, as it stands there. -/
structure Anchor where
  href : List Char
  text : List Char
deriving DecidableEq, Repr

/-- The link that begins a text: what its quotes enclose, and what stands before the next tag. -/
def anchorAt? (s : List Char) : Option Anchor := do
  let inside ← Text.dropStart? "<a href=\"".toList s
  let (href, rest) ← Text.cut? '"' inside
  let rest ← Text.dropStart? ['>'] rest
  let (text, _) ← Text.cut? '<' rest
  return ⟨href, text⟩

/-- All links of a text, wherever they begin. -/
def anchorsOf : List Char → List Anchor
  | [] => []
  | c :: rest => (anchorAt? (c :: rest)).toList ++ anchorsOf rest

theorem Inert.hasNoAnchor {s : String} (h : Inert s) : hasNoAnchor s.toList = true := by
  apply hasNoAnchor_of_not_mem
  intro tag
  exact absurd (h.unmarked '<' tag) (by decide)

/-- No link begins with a character other than the one that opens tags, nor with a tag of another
    name. -/
theorem anchorAt?_eq_none {c : Char} {rest : List Char}
    (h : c != '<' ∨ rest.head?.any (· != 'a') = true) (t : List Char) :
    anchorAt? (c :: (rest ++ t)) = none := by
  have start : Text.dropStart? "<a href=\"".toList (c :: (rest ++ t)) = none := by
    cases hdrop : Text.dropStart? "<a href=\"".toList (c :: (rest ++ t)) with
    | none => rfl
    | some inside =>
      have whole : c :: (rest ++ t) = '<' :: 'a' :: (" href=\"".toList ++ inside) :=
        Text.dropStart?_eq_some_iff.1 hdrop
      obtain ⟨rfl, behind⟩ := List.cons.inj whole
      cases rest with
      | nil => exact absurd h (by decide)
      | cons d rest =>
        obtain ⟨rfl, -⟩ := List.cons.inj behind
        exact absurd h (by simp)
  rw [anchorAt?, start]
  rfl

/-- A text in which no link begins has no influence on those behind it. -/
theorem anchorsOf_append {s : List Char} (h : hasNoAnchor s = true) (t : List Char) :
    anchorsOf (s ++ t) = anchorsOf t := by
  induction s with
  | nil => rfl
  | cons c rest ih =>
    rw [hasNoAnchor, Bool.and_eq_true, Bool.or_eq_true] at h
    rw [List.cons_append, anchorsOf, anchorAt?_eq_none h.1, ih h.2]
    rfl

theorem anchorsOf_textOf {pieces : List Piece} (inert : ∀ t ∈ dataOf pieces, Inert t)
    (closed : ∀ t ∈ frameOf pieces, hasNoAnchor t.toList = true) (rest : List Char) :
    anchorsOf ((textOf pieces).toList ++ rest) = anchorsOf rest := by
  induction pieces with
  | nil => rfl
  | cons piece pieces ih =>
    rw [textOf, String.toList_append, List.append_assoc]
    cases piece with
    | fixed text =>
      obtain ⟨htext, hrest⟩ := List.forall_mem_cons.1 closed
      exact (anchorsOf_append htext _).trans (ih inert hrest)
    | data text =>
      obtain ⟨htext, hrest⟩ := List.forall_mem_cons.1 inert
      exact (anchorsOf_append htext.hasNoAnchor _).trans (ih hrest closed)

/-- The link of a row. -/
def Entry.link (e : Entry) : Anchor := ⟨e.href.toList, e.shown.toList⟩

@[simp] theorem Entry.href_link (e : Entry) : e.link.href = e.href.toList := by rw [link]
@[simp] theorem Entry.text_link (e : Entry) : e.link.text = e.shown.toList := by rw [link]

theorem anchorAt?_row (e : Entry) (rest : List Char) :
    anchorAt? ("<a href=\"".toList ++ (e.href.toList ++ '"' :: '>' :: (e.shown.toList ++ '<' :: rest)))
      = some e.link := by
  have quote : '"' ∉ e.href.toList := fun h =>
    absurd (isLinkChar_of_mem_href '"' h) (by decide)
  have tag : '<' ∉ e.shown.toList := fun h => absurd ((inert_shown e).unmarked '<' h) (by decide)
  have opens : ∀ inside, Text.dropStart? "<a href=\"".toList ("<a href=\"".toList ++ inside)
      = some inside := fun inside => Text.dropStart?_eq_some_iff.2 rfl
  have closes : ∀ inside, Text.dropStart? ['>'] ('>' :: inside) = some inside :=
    fun inside => Text.dropStart?_eq_some_iff.2 rfl
  rw [anchorAt?, opens]
  simp only [Option.bind_eq_bind, Option.bind_some, Text.cut?_append_cons quote, closes,
    Text.cut?_append_cons tag]
  rfl

theorem anchorsOf_rowStart (index : Nat) (rest : List Char) :
    anchorsOf ((textOf (rowStart index)).toList ++ rest) = anchorsOf rest := by
  have both : ∀ i < 2, ∀ t ∈ frameOf (rowStart i), hasNoAnchor t.toList = true := by decide
  rw [← rowStart_mod]
  exact anchorsOf_textOf (List.forall_mem_nil _) (both (index % 2) (Nat.mod_lt index (by decide))) rest

theorem anchorsOf_rowEnd (e : Entry) (rest : List Char) :
    anchorsOf ((textOf e.rowEnd).toList ++ rest) = anchorsOf rest := by
  have cells : ∀ t ∈ dataOf e.rowEnd, Inert t := inert_cells e
  have closed : ∀ t ∈ frameOf (Entry.rowEnd ⟨"", true, 0, none⟩), hasNoAnchor t.toList = true := by
    decide
  exact anchorsOf_textOf cells closed rest

/-- The link is found where it begins; behind its first character no other one begins. -/
theorem anchorsOf_linkPieces (e : Entry) (rest : List Char) :
    anchorsOf ((textOf e.linkPieces).toList ++ rest) = e.link :: anchorsOf rest := by
  have opening : "<a href=\"".toList = '<' :: "a href=\"".toList := by decide
  have quote : "\">".toList = ['"', '>'] := by decide
  have closing : "</a></td>\n".toList = '<' :: "/a></td>\n".toList := by decide
  have href := inert_of_isLinkChar (@isLinkChar_of_mem_href e)
  have found := anchorAt?_row e ("/a></td>\n".toList ++ rest)
  have behind : anchorsOf ("a href=\"".toList ++ (e.href.toList ++ ("\">".toList ++ (e.shown.toList
      ++ ("</a></td>\n".toList ++ rest))))) = anchorsOf rest := by
    rw [anchorsOf_append (by decide), anchorsOf_append href.hasNoAnchor, anchorsOf_append (by decide),
      anchorsOf_append (inert_shown e).hasNoAnchor, anchorsOf_append (by decide)]
  have whole : (textOf e.linkPieces).toList ++ rest = '<' :: ("a href=\"".toList ++ (e.href.toList
      ++ '"' :: '>' :: (e.shown.toList ++ '<' :: ("/a></td>\n".toList ++ rest)))) := by
    simp only [Entry.linkPieces, textOf, Piece.text, String.append_empty, String.toList_append, opening,
      quote, closing, List.append_assoc, List.cons_append, List.nil_append]
  rw [opening, List.cons_append] at found
  simp only [quote, closing, List.cons_append, List.nil_append] at behind
  rw [whole, anchorsOf, found, behind]
  rfl

/-- A row has its link and no other. -/
theorem anchorsOf_row (index : Nat) (e : Entry) (rest : List Char) :
    anchorsOf ((e.row index).toList ++ rest) = e.link :: anchorsOf rest := by
  rw [← textOf_pieces, Entry.pieces, textOf_append, textOf_append, String.toList_append,
    String.toList_append, List.append_assoc, List.append_assoc, anchorsOf_rowStart,
    anchorsOf_linkPieces, anchorsOf_rowEnd]

theorem anchorsOf_rowsFrom (index : Nat) (es : List Entry) (rest : List Char) :
    anchorsOf ((rowsFrom index es).toList ++ rest) = es.map Entry.link ++ anchorsOf rest := by
  induction es generalizing index with
  | nil => rfl
  | cons e others ih =>
    rw [rowsFrom, String.toList_append, List.append_assoc, anchorsOf_row, ih]
    rfl

/-- A page has the links of its rows, in order, and no others. -/
theorem anchorsOf_listingPage (es : List Entry) (requestPath : String) :
    anchorsOf (listingPage es requestPath).toList = es.map Entry.link := by
  have front : ∀ t ∈ frameOf (frontPieces ""), hasNoAnchor t.toList = true :=
    fun t ht => (calm_frontPieces t ht).2
  have back : ∀ t ∈ frameOf backPieces, hasNoAnchor t.toList = true := by decide
  have inert := inert_dataOf_frontPieces requestPath
  have parts : (listingPage es requestPath).toList = (textOf (frontPieces requestPath)).toList
      ++ ((rowsFrom 0 es).toList ++ ((textOf backPieces).toList ++ [])) := by
    rw [← textOf_pagePieces, pagePieces, textOf_append, textOf_append, textOf_piecesFrom,
      String.toList_append, String.toList_append, List.append_nil]
  rw [parts, anchorsOf_textOf inert front, anchorsOf_rowsFrom, anchorsOf_textOf (List.forall_mem_nil _) back]
  exact List.append_nil _

/-! ## §3 The page -/

/-- The text of a link is the name of its entry, with a slash behind that of a directory. -/
theorem unescape_shown (e : Entry) :
    unescape e.shown.toList = (e.name ++ if e.isDir then "/" else "").toList := by
  rw [Entry.shown, String.toList_append, unescape_escapeText, String.toList_append]
  cases e.isDir
  · rfl
  · rfl

/-- Entries of one kind with different names are shown differently. -/
theorem shown_ne_of_name_ne {e e' : Entry} (kind : e.isDir = e'.isDir) (differ : e.name ≠ e'.name) :
    e.shown ≠ e'.shown := by
  intro same
  have names := unescape_shown e
  rw [same, unescape_shown e', kind] at names
  apply differ
  have cut := List.append_cancel_right ((String.toList_append ..).symm.trans
    (names.symm.trans (String.toList_append ..)))
  exact String.toList_inj.1 cut

/-- No name, type or path puts markup into a listing.  Pages with the same number of rows have the same
    markup, character for character; every ampersand begins an entity.  The links of a page are those
    of its rows; they have nothing but the characters of a path, no colon among them, so none has a
    scheme; their texts are the names, and tell them apart. -/
theorem markup_of_listing (es : List Entry) (requestPath : String) :
    let page := listingPage es requestPath
    (∀ es' requestPath', es'.length = es.length →
      marksOf (listingPage es' requestPath') = marksOf page) ∧
    OnlyEntities page.toList ∧
    anchorsOf page.toList = es.map Entry.link ∧
    (∀ anchor ∈ anchorsOf page.toList,
      (∀ c ∈ anchor.href, isLinkChar c = true) ∧ ':' ∉ anchor.href) ∧
    (anchorsOf page.toList).map (fun anchor => unescape anchor.text)
      = es.map (fun e => (e.name ++ if e.isDir then "/" else "").toList) ∧
    (∀ e e' : Entry, e.isDir = e'.isDir → e.name ≠ e'.name → e.link.text ≠ e'.link.text) := by
  intro page
  have links : anchorsOf page.toList = es.map Entry.link := anchorsOf_listingPage es requestPath
  refine ⟨?_, onlyEntities_listingPage es requestPath, links, ?_, ?_, ?_⟩
  · intro es' requestPath' same
    exact marksOf_listingPage same requestPath' requestPath
  · intro anchor hanchor
    rw [links] at hanchor
    obtain ⟨e, -, rfl⟩ := List.mem_map.1 hanchor
    rw [Entry.href_link]
    constructor
    · exact isLinkChar_of_mem_href
    · intro colon
      exact absurd (isLinkChar_of_mem_href ':' colon) (by decide)
  · rw [links, List.map_map]
    apply List.map_congr_left
    intro e _
    rw [Function.comp_apply, Entry.text_link]
    exact unescape_shown e
  · intro e e' kind differ same
    rw [Entry.text_link, Entry.text_link] at same
    exact shown_ne_of_name_ne kind differ (String.toList_inj.1 same)

/-- Names that look like markup, like entities and like a scheme, beside plain ones. -/
theorem markup_of_hostile_names :
    let hostile : List Entry := [⟨"<a href=\"x\">&lt;", false, 3, some ⟨"text/<b>", some "g\x27z"⟩⟩,
      ⟨"javascript:alert(1)", true, 0, none⟩]
    let plain : List Entry := [⟨"a.txt", false, 3, some ⟨"text/plain", none⟩⟩, ⟨"b", true, 0, none⟩]
    plain.length = hostile.length ∧
    marksOf (listingPage plain "/") = marksOf (listingPage hostile "/%3Cscript%3E/") ∧
    anchorsOf (listingPage hostile "/%3Cscript%3E/").toList = hostile.map Entry.link ∧
    (Entry.mk "<" false 0 none).link.text ≠ (Entry.mk "&lt;" false 0 none).link.text := by
  intro hostile plain
  obtain ⟨marks, -, links, -, -, apart⟩ := markup_of_listing hostile "/%3Cscript%3E/"
  have same : plain.length = hostile.length := rfl
  exact ⟨same, marks plain "/" same, links, apart _ _ rfl (by decide)⟩

end StaticSite.Site
