import ElementWrap.Terminal.CellTable
import ElementWrap.Text.Case

/-! # Cells of a terminal

A terminal shows text in cells of one width. A character takes one cell, two, or none of its own.
A joiner makes one glyph of the characters beside it, and a selector can widen the character before
it.
-/

namespace ElementWrap.Terminal

/-- The number of cells that a character takes. -/
def cellsOf (c : Char) : Nat :=
  if Text.inRanges emptyCellRanges c.toNat then 0
  else if Text.inRanges doubleCellRanges c.toNat then 2
  else 1

/-- The character that joins its neighbours to one glyph. -/
def joiner : Char := Char.ofNat 0x200D

/-- The character that asks for the colourful form of the one before it. -/
def colorful : Char := Char.ofNat 0xFE0F

/-- The cell that a character gains where its colourful form is asked for. -/
def growth (c : Char) : Nat := if Text.inRanges growingRanges c.toNat then 1 else 0

/-- The number of cells that a text takes, `last` being the last character before it that takes
any. -/
def cellsAfter : (last : Option Char) → List Char → Nat
  | _, [] => 0
  | last, [c] => if c = joiner then 0 else if c = colorful then last.elim 0 growth else cellsOf c
  | last, c :: d :: rest =>
    if c = joiner then cellsAfter last rest
    else if c = colorful then last.elim 0 growth + cellsAfter none (d :: rest)
    else cellsOf c + cellsAfter (if cellsOf c = 0 then last else some c) (d :: rest)

/-- The number of cells that a text takes. -/
def cells (cs : List Char) : Nat := cellsAfter none cs

/-- What shows as one sign: its characters, the one that gives it its width, and its cells. -/
structure Glyph where
  chars : List Char
  base : Option Char
  cells : Nat
  deriving DecidableEq, Repr

/-- Adds a character to the glyphs of a text, which stand in reverse. -/
def addGlyph (glyphs : List Glyph) (c : Char) : List Glyph :=
  match glyphs with
  | [] => [⟨[c], if cellsOf c = 0 then none else some c, cellsOf c⟩]
  | glyph :: before =>
    let longer := { glyph with chars := glyph.chars ++ [c] }
    if glyph.chars.getLast? = some joiner && !(before.isEmpty && glyph.chars = [joiner]) then
      longer :: before
    else if c = colorful then
      { longer with base := none, cells := glyph.cells + glyph.base.elim 0 growth } :: before
    else if c = joiner || cellsOf c = 0 then longer :: before
    else ⟨[c], some c, cellsOf c⟩ :: glyph :: before

/-- The glyphs of a text. -/
def glyphs (cs : List Char) : List Glyph := (cs.foldl addGlyph []).reverse

/-- As many glyphs as fit into some cells. -/
def crop : (width : Nat) → List Glyph → List Char
  | _, [] => []
  | width, glyph :: rest =>
    if glyph.cells ≤ width then glyph.chars ++ crop (width - glyph.cells) rest else []

/-- A text with blanks behind it up to some cells. -/
def pad (width : Nat) (cs : List Char) : List Char := cs ++ List.replicate (width - cells cs) ' '

/-- A text in exactly so many cells: one that is too long ends in an ellipsis. -/
def fit (width : Nat) (cs : List Char) : List Char :=
  if width < cells cs then pad (width - 1) (crop (width - 1) (glyphs cs)) ++ ['…']
  else pad width cs

end ElementWrap.Terminal
