import ElementWrap.Terminal.ColorTable
import ElementWrap.Text.Class

/-! # Styles of terminal text

A style is written as words: attributes, a colour, `on` with the colour behind the text, and `link`
with an address. Two writings of one style have the same normal form, in which the attributes come
in a fixed order, under their full names, and the colours after them.
-/

namespace ElementWrap.Terminal

/-- What a style turns on or off. -/
inductive Attribute
  | bold
  | dim
  | italic
  | underline
  | blink
  | blink2
  | reverse
  | conceal
  | strike
  | underline2
  | frame
  | encircle
  | overline
  deriving DecidableEq, Repr

namespace Attribute

/-- The attributes with their names, in the order of normal forms. -/
def named : List (Attribute × String) :=
  [(bold, "bold"), (dim, "dim"), (italic, "italic"), (underline, "underline"), (blink, "blink"),
    (blink2, "blink2"), (reverse, "reverse"), (conceal, "conceal"), (strike, "strike"),
    (underline2, "underline2"), (frame, "frame"), (encircle, "encircle"), (overline, "overline")]

/-- The attributes that can be written short. -/
def short : List (Attribute × String) :=
  [(bold, "b"), (dim, "d"), (italic, "i"), (underline, "u"), (reverse, "r"), (conceal, "c"),
    (strike, "s"), (underline2, "uu"), (overline, "o")]

/-- The attribute that a word names. -/
def ofWord? (word : List Char) : Option Attribute :=
  ((named ++ short).find? fun entry => entry.2.toList == word).map Prod.fst

end Attribute

/-- A style; of two settings of an attribute the first one counts. -/
structure Style where
  attributes : List (Attribute × Bool) := []
  color : Option (List Char) := none
  background : Option (List Char) := none
  link : Option (List Char) := none
  deriving DecidableEq, Repr

namespace Style

/-- The greatest part of a colour. -/
def partLimit : Nat := 255

/-- The digits write a part of a colour. -/
def isPart (digits : List Char) : Bool :=
  !digits.isEmpty && digits.all Char.isDigit &&
    decide (digits.foldl (fun value c => value * 10 + (c.toNat - '0'.toNat)) 0 ≤ partLimit)

/-- The text between an opening and a final parenthesis. -/
def argument? (opening : String) (cs : List Char) : Option (List Char) :=
  if opening.toList.isPrefixOf cs && cs.getLast? = some ')' then
    some (cs.drop opening.length).dropLast
  else none

/-- A word in lower case names a colour, or gives its number or its parts. -/
def isColor (word : List Char) : Bool :=
  word == "default".toList || colorNames.contains (String.ofList word) ||
    (match word with
      | '#' :: digits => digits.length == 6 &&
          digits.all fun c => c.isDigit || ('a' ≤ c && c ≤ 'f')
      | _ => false) ||
    ((argument? "color(" word).any fun number => number.length ≤ 3 && isPart number) ||
    ((argument? "rgb(" word).any fun parts =>
      (parts.splitOn ',').length == 3 && (parts.splitOn ',').all isPart)

/-- The colour that a word stands for. -/
def color? (word : List Char) : Option (List Char) :=
  let word := Text.lower word
  if isColor word then some word else none

/-- Adds what words ask for to a style. -/
def add? (style : Style) : List (List Char) → Option Style
  | [] => some style
  | word :: rest =>
    let key := String.ofList (Text.lower word)
    if key = "on" then
      match rest with
      | [] => none
      | word :: rest => do add? { style with background := some (← color? word) } rest
    else if key = "not" then
      match rest with
      | [] => none
      | word :: rest => do
        let effect ← Attribute.ofWord? word
        add? { style with attributes := (effect, false) :: style.attributes } rest
    else if key = "link" then
      match rest with
      | [] => none
      | word :: rest => add? { style with link := some word } rest
    else
      match Attribute.ofWord? key.toList with
      | some effect =>
        add? { style with attributes := (effect, true) :: style.attributes } rest
      | none => do add? { style with color := some (← color? word) } rest

/-- The style that a text writes. -/
def ofChars? (cs : List Char) : Option Style :=
  let words := (cs.splitOnP Text.isSpace).filter fun word => !word.isEmpty
  if words == ["none".toList] then some {} else add? {} words

/-- The words of the normal form. -/
def words (style : Style) : List (List Char) :=
  let attributes := Attribute.named.filterMap fun (effect, name) =>
    (style.attributes.lookup effect).map fun on =>
      if on then name.toList else "not ".toList ++ name.toList
  attributes ++ style.color.toList ++
    (style.background.elim [] fun color => ["on".toList, color]) ++
    (style.link.elim [] fun link => ["link".toList, link])

/-- The text of the normal form. -/
def normalText (style : Style) : List Char :=
  if style.words.isEmpty then "none".toList else [' '].intercalate style.words

end Style

/-- The normal form of what a tag writes; where that is no style, its text in lower case. -/
def normalName (cs : List Char) : List Char :=
  match Style.ofChars? cs with
  | some style => style.normalText
  | none => Text.lower (Text.trim Text.isSpace cs)

end ElementWrap.Terminal
