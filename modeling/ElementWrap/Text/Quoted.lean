import ElementWrap.Text.Case
import ElementWrap.Text.CodePoint
import ElementWrap.Text.PrintableTable

/-! # Quoted texts

A quoted text stands between single quotes, or between double quotes if it holds a single quote and
no double one. Inside, the quote and the backslash are escaped, and a character without a printed
form is written by its code point.
-/

namespace ElementWrap.Text

/-- A character has a printed form. -/
def isPrintable (c : Char) : Bool := !inRanges unprintableRanges c.toNat

namespace Quoted

/-- The written form of one character between quotes `quote`. -/
def encodeChar (quote c : Char) : List Char :=
  if c = quote || c = '\\' then ['\\', c]
  else if c = '\n' then ['\\', 'n']
  else if c = '\r' then ['\\', 'r']
  else if c = '\t' then ['\\', 't']
  else if isPrintable c then [c]
  else escapedCode c

/-- The quote that a text is written between. -/
def quoteFor (cs : List Char) : Char :=
  if cs.contains '\'' && !cs.contains '"' then '"' else '\''

/-- A text in quotes. -/
def encode (cs : List Char) : List Char :=
  let quote := quoteFor cs
  quote :: cs.flatMap (encodeChar quote) ++ [quote]

end Quoted

/-- A text in quotes, as a string. -/
def quoted (s : String) : String := String.ofList (Quoted.encode s.toList)

end ElementWrap.Text
