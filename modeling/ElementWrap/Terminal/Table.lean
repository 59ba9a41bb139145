import ElementWrap.Terminal.Wrapping

/-! # Tables on the terminal

A table of two columns under a centred title. A column is as wide as the longest line of its cells,
its heading included; where both together are wider than the terminal, the first one gives way. A
cell that needs more lines than its neighbour has blanks beside it.
-/

namespace ElementWrap.Terminal.Table

/-- A character that ends a line where a cell is measured. -/
def endsLine (c : Char) : Bool :=
  [0xA, 0x1C, 0x1D, 0x1E, 0x85, 0x2028, 0x2029].contains c.toNat

/-- The cells that a text asks for: those of its longest line. -/
def measure (text : List Char) : Nat :=
  (text.splitOnP endsLine).foldl (fun width line => max width (cells line)) 0

/-- The cells that the widest of some texts asks for. -/
def widest (texts : List (List Char)) : Nat :=
  texts.foldl (fun width text => max width (measure text)) 0

/-- The cells of a line that its two columns do not have: edges, paddings and what parts them. -/
def frameWidth : Nat := 7

/-- The line without the white space at its end by which it has more characters than a width has
cells. -/
def dropExcess (width : Nat) (line : List Char) : List Char :=
  line.take (max width (trimEnd line).length)

/-- The lines of a cell, all of one width. -/
def cellLines (width : Nat) (text : List Char) : List (List Char) :=
  (wrap width false text).map fun line => fit width (dropExcess width line)

/-- The lines of a row of cells of given widths. -/
def row (first second : Nat) (texts : List Char × List Char) : List String :=
  let left := cellLines first texts.1
  let right := cellLines second texts.2
  let blank (width : Nat) : List Char := List.replicate width ' '
  (List.range (max left.length right.length)).map fun i =>
    let line := [' ', ' '] ++ left.getD i (blank first) ++ [' ', ' ', ' '] ++
      right.getD i (blank second)
    String.ofList (trimEnd line)

/-- The lines of a table; `rows` begins with the headings. -/
def lines (title : String) (rows : List (List Char × List Char)) : List String :=
  let second := widest (rows.map Prod.snd)
  let first := min (widest (rows.map Prod.fst)) (lineWidth - frameWidth - second)
  let width := first + second + frameWidth
  let margin := String.ofList (List.replicate ((width - title.length) / 2) ' ')
  let rule := " " ++ String.ofList (List.replicate (width - 2) '─')
  match rows.map (row first second) with
  | [] => []
  | heading :: rows => [margin ++ title, ""] ++ heading ++ [rule] ++ rows.flatten ++ [""]

end ElementWrap.Terminal.Table
