import ElementWrap.Terminal.Cell
import ElementWrap.Terminal.PictographTable
import ElementWrap.Text.CodePoint
import ElementWrap.Text.Class

/-! # Pictographs by name

A name between two colons stands for a pictograph, as in `:star:`. The letters' case does not count,
and a name that ends in `-text` or `-emoji` asks for the plain or the colourful form of what the
rest of it names. What names no pictograph shows as it is.
-/

namespace ElementWrap.Terminal.Pictograph

/-- The word behind another one in a list of pairs of words. -/
def wordBehind? (word : String) : List String → Option String
  | key :: value :: rest => if key = word then some value else wordBehind? word rest
  | _ => none

/-- What stands behind a name in the lines of a table. -/
def lookUp? (name : String) (lines : List String) : Option String :=
  lines.findSome? fun line => wordBehind? name (line.splitOn " ")

/-- The sign for a letter of a region. -/
def regionSign (c : Char) : Char := Char.ofNat (0x1F1E6 + (c.toLower.toNat - 'a'.toNat))

/-- The flag of the region of two letters. -/
def flag (letters : String) : List Char := letters.toList.map regionSign

/-- The tones of skin, with the characters that give a pictograph the tone. -/
def tones : List (String × Char) :=
  [("_medium-light_skin_tone", Char.ofNat 0x1F3FC), ("_medium-dark_skin_tone", Char.ofNat 0x1F3FE),
    ("_light_skin_tone", Char.ofNat 0x1F3FB), ("_dark_skin_tone", Char.ofNat 0x1F3FF),
    ("_medium_skin_tone", Char.ofNat 0x1F3FD)]

/-- The character that asks for the plain form. -/
def plain : Char := Char.ofNat 0xFE0E

/-- A pictograph in a tone, which follows its first character. -/
def withTone (tone : Char) : List Char → List Char
  | [] => []
  | c :: rest => c :: tone :: if rest.head? = some colorful then rest.drop 1 else rest

/-- The beginning of a text that has a given end. -/
def dropEnd? (ending text : String) : Option String :=
  if text.endsWith ending then
    some (String.ofList (text.toList.take (text.length - ending.length)))
  else none

/-- The pictograph of a name that ends in a tone. -/
def toned? (name : String) : Option (List Char) :=
  tones.findSome? fun (ending, tone) => do
    let codes ← lookUp? (← dropEnd? ending name) tonedPictographs
    some (withTone tone (Text.ofCodes codes))

/-- The sign of a letter that is asked for by name. -/
def letter? (name : String) : Option (List Char) :=
  match "regional_indicator_".toList.isPrefixOf name.toList, name.toList.drop 19 with
  | true, [c] => if c.isLower then some [regionSign c] else none
  | _, _ => none

/-- The flag that goes by a name behind `flag_for_`. -/
def flagFor? (name : String) : Option (List Char) :=
  if "flag_for_".toList.isPrefixOf name.toList then
    (lookUp? (String.ofList (name.toList.drop 9)) (regions ++ flagRegions)).map flag
  else none

/-- The pictograph of a name. -/
def ofName? (name : String) : Option (List Char) :=
  ((lookUp? name (plainPictographs ++ tonedPictographs)).map Text.ofCodes).or <|
    ((lookUp? name (regions ++ bareRegions)).map flag).or <|
      (toned? name).or ((flagFor? name).or (letter? name))

/-- What the text between two colons stands for. -/
def ofCode? (code : List Char) : Option (List Char) :=
  let named (name : List Char) : Option (List Char) := ofName? (String.ofList (Text.lower name))
  match dropEnd? "-text" (String.ofList code), dropEnd? "-emoji" (String.ofList code) with
  | some name, _ => (named name.toList).map (· ++ [plain])
  | _, some name => (named name.toList).map (· ++ [colorful])
  | none, none => named code

/-- The text with pictographs in place of their names. Between the two colons of a name there is
neither white space nor a third colon. -/
def replaceNames : (fuel : Nat) → List Char → List Char
  | 0, _ => []
  | _ + 1, [] => []
  | fuel + 1, c :: rest =>
    if c = ':' then
      let code := rest.takeWhile fun d => d ≠ ':' && !Text.isSpace d
      match rest.drop code.length with
      | ':' :: after => (ofCode? code).getD (':' :: code ++ [':']) ++ replaceNames fuel after
      | _ => c :: replaceNames fuel rest
    else c :: replaceNames fuel rest

/-- The text with pictographs in place of their names. -/
def replace (cs : List Char) : List Char := replaceNames (cs.length + 1) cs

end ElementWrap.Terminal.Pictograph
