/-! # Code points in writing

A code point is written in hexadecimal digits. Reading takes capital and small letters among them,
and the digits that an escape asks for are as few of two, four or eight as hold the code point.

A text can hold surrogates that stand alone, which are no characters. The last code points of the
private use area stand in for them, one for each and in their order; these characters themselves are
therefore in no text of this library.
-/

namespace ElementWrap.Text

/-- The lower-case hexadecimal digits of `code`, padded with zeros to `width`. -/
def hexDigits : (width code : Nat) → List Char
  | 0, _ => []
  | width + 1, code => hexDigits width (code / 16) ++ [Nat.digitChar (code % 16)]

/-- The value of a hexadecimal digit. -/
def hexDigit? (c : Char) : Option Nat :=
  if c.isDigit then some (c.toNat - '0'.toNat)
  else if 'a' ≤ c && c ≤ 'f' then some (c.toNat - 'a'.toNat + 10)
  else if 'A' ≤ c && c ≤ 'F' then some (c.toNat - 'A'.toNat + 10)
  else none

/-- The number that hexadecimal digits write. -/
def hexNumber? (digits : List Char) : Option Nat :=
  digits.foldlM (fun value c => (hexDigit? c).map (value * 16 + ·)) 0

/-- The code point of the character that stands in for the first surrogate. -/
def firstLone : Nat := 0x10F800

/-- A surrogate that stands alone. -/
def isLone (c : Char) : Bool := firstLone ≤ c.toNat

/-- The character of a code point. -/
def character (code : Nat) : Char :=
  if 0xD800 ≤ code && code < 0xE000 then Char.ofNat (firstLone + (code - 0xD800))
  else Char.ofNat code

/-- The code point of a character. -/
def codePoint (c : Char) : Nat :=
  if isLone c then 0xD800 + (c.toNat - firstLone) else c.toNat

/-- A surrogate that stands for a byte of a name that is no text. -/
def isRawByte (c : Char) : Bool := 0xDC80 ≤ codePoint c && codePoint c < 0xDD00

/-- The characters whose code points are written with dashes between them. -/
def ofCodes (codes : String) : List Char :=
  (codes.toList.splitOn '-').map fun digits => character ((hexNumber? digits).getD 0)

/-- A character written by its code point. -/
def escapedCode (c : Char) : List Char :=
  let code := codePoint c
  if code < 0x100 then '\\' :: 'x' :: hexDigits 2 code
  else if code < 0x10000 then '\\' :: 'u' :: hexDigits 4 code
  else '\\' :: 'U' :: hexDigits 8 code

end ElementWrap.Text
