import ElementWrap.Terminal.Cell
import ElementWrap.Text.Class

/-! # Lines on a terminal

A text is cut at its line feeds, tabs lead to columns of eight, and a line that is too long is
broken before the word that does not fit. A word that fits on no line can be folded.
-/

namespace ElementWrap.Terminal

/-- The number of cells of a terminal's line. -/
def lineWidth : Nat := 4000

/-- The distance of the columns that a tab leads to. -/
def tabWidth : Nat := 8

/-- The parts of a line between tabs with blanks in place of the tabs, `column` being where the
parts start. -/
def expandParts : (column : Nat) → List (List Char) → List Char
  | _, [] => []
  | _, [part] => part
  | column, part :: rest =>
    let stop := column + cells part
    let width := tabWidth - stop % tabWidth
    part ++ List.replicate width ' ' ++ expandParts (stop + width) rest

/-- A line with blanks in place of tabs. -/
def expandTabs (line : List Char) : List Char := expandParts 0 (line.splitOn '\t')

/-- A text without the white space at its end. -/
def trimEnd (cs : List Char) : List Char := (cs.reverse.dropWhile Text.isSpace).reverse

/-- The words of a line, each with the white space behind it, and the first one also with that in
front of it. -/
def spacedWords : (fuel : Nat) → List Char → List (List Char)
  | 0, _ => []
  | fuel + 1, cs =>
    let before := cs.takeWhile Text.isSpace
    let inside := cs.drop before.length
    let word := inside.takeWhile fun c => !Text.isSpace c
    let behind := inside.drop word.length
    let blanks := behind.takeWhile Text.isSpace
    if word.isEmpty then []
    else (before ++ word ++ blanks) :: spacedWords fuel (behind.drop blanks.length)

/-- Glyphs cut into pieces that fit, of which `used` cells of the first one are taken. -/
def fold (width : Nat) : (used : Nat) → List Glyph → List (List Char)
  | _, [] => [[]]
  | used, glyph :: rest =>
    let starts := width < used + glyph.cells
    match fold width (if starts then glyph.cells else used + glyph.cells) rest with
    | piece :: pieces =>
      if starts then [] :: (glyph.chars ++ piece) :: pieces else (glyph.chars ++ piece) :: pieces
    | [] => [glyph.chars]

/-- Fills lines with words. `line` is the line that is being filled, and it takes `used` cells. -/
def fill (width : Nat) (folding : Bool) :
    (line : List Char) → (used : Nat) → List (List Char) → List (List Char)
  | line, _, [] => [line]
  | line, used, word :: rest =>
    let needed := cells (trimEnd word)
    if used + needed ≤ width then fill width folding (line ++ word) (used + cells word) rest
    else
      let filled := if line.isEmpty then [] else [line]
      if width < needed && folding then
        let pieces := fold width 0 (glyphs word)
        let last := pieces.getLast?.getD []
        filled ++ pieces.dropLast ++ fill width folding last (cells last) rest
      else filled ++ fill width folding word (cells word) rest

/-- A line broken into lines of a width. A line without words stays whole. -/
def breakLine (width : Nat) (folding : Bool) (line : List Char) : List (List Char) :=
  let line := expandTabs line
  match spacedWords (line.length + 1) line with
  | [] => [line]
  | words => fill width folding [] 0 words

/-- The lines of a text in a width. -/
def wrap (width : Nat) (folding : Bool) (text : List Char) : List (List Char) :=
  (text.splitOn '\n').flatMap (breakLine width folding)

/-- The lines of a text as they stand on the terminal, without the white space at their ends. -/
def printedLines (text : List Char) : List String :=
  (wrap lineWidth true text).map fun line => String.ofList (trimEnd line)

end ElementWrap.Terminal
