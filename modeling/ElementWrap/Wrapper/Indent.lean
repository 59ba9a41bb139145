/-! # Indentation

Code is written with four blanks per level. `reindent` turns each full group of leading blanks of a
line into one unit of indentation and keeps the blanks that remain.
-/

namespace ElementWrap.Wrapper

/-- The number of blanks that one level of indentation is written with. -/
def levelWidth : Nat := 4

/-- The number of blanks that open a line. -/
def leadingBlanks (line : List Char) : Nat := (line.takeWhile (· == ' ')).length

/-- A line with each full group of leading blanks replaced by a unit of indentation. -/
def reindentLine (unit line : List Char) : List Char :=
  let width := leadingBlanks line
  (List.replicate (width / levelWidth) unit).flatten ++
    List.replicate (width % levelWidth) ' ' ++ line.drop width

/-- Code with every line indented by the unit. The written unit itself changes nothing. -/
def reindentChars (unit code : List Char) : List Char :=
  if unit = List.replicate levelWidth ' ' then code
  else ['\n'].intercalate ((code.splitOn '\n').map (reindentLine unit))

/-- Code with every line indented by the unit. -/
def reindent (unit code : String) : String :=
  String.ofList (reindentChars unit.toList code.toList)

end ElementWrap.Wrapper
