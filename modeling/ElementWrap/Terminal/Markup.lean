import ElementWrap.Fault
import ElementWrap.Terminal.Handler
import ElementWrap.Terminal.Pictograph
import ElementWrap.Terminal.Style

/-! # Terminal markup

A tag is a text in brackets that opens with a letter from `a` to `z`, `#`, `/` or `@`. Tags set the
style and do not show. A backslash before a tag shows it as it is; `escape` puts backslashes where
they are needed. A closing tag has to match a tag that is open. In the text that shows, pictographs
stand in place of their names.
-/

namespace ElementWrap.Terminal.Markup

/-- A character that can open a tag. -/
def opensTag (c : Char) : Bool :=
  ('a' ≤ c && c ≤ 'z') || c == '#' || c == '/' || c == '@'

/-- The inside of a tag and what follows it, for a text behind an opening bracket. -/
def tag? (cs : List Char) : Option (List Char × List Char) :=
  match cs with
  | [] => none
  | c :: _ =>
    if opensTag c then
      let inside := cs.takeWhile fun d => d ≠ '[' && d ≠ ']'
      match cs.drop inside.length with
      | ']' :: rest => some (inside, rest)
      | _ => none
    else none

/-- A part of a text with markup: a text that shows, or a tag. -/
inductive Piece
  | shown (cs : List Char)
  | tag (inside : List Char)
  deriving DecidableEq, Repr

/-- The tag that a text opens with, behind backslashes: their number, its inside and the rest. -/
def leadingTag? (cs : List Char) : Option (Nat × List Char × List Char) :=
  let backslashes := (cs.takeWhile (· == '\\')).length
  match cs.drop backslashes with
  | '[' :: rest => (tag? rest).map fun found => (backslashes, found.1, found.2)
  | _ => none

/-- The parts of a text with markup, `before` being the text in front that belongs to no tag, last
character first. Half of the backslashes before a tag show, and one that is left over makes the tag
show. -/
def pieces : (fuel : Nat) → (before : List Char) → List Char → List Piece
  | 0, before, _ => [.shown before.reverse]
  | _ + 1, before, [] => [.shown before.reverse]
  | fuel + 1, before, c :: rest =>
    match leadingTag? (c :: rest) with
    | some (backslashes, inside, after) =>
      let half := List.replicate (backslashes / 2) '\\'
      let found :=
        if backslashes % 2 = 1 then Piece.shown ('[' :: inside ++ [']']) else .tag inside
      .shown before.reverse :: .shown half :: found :: pieces fuel [] after
    | none => pieces fuel (c :: before) rest

/-- A text without the backslashes that stand before brackets. -/
def dropBackslashes : List Char → List Char
  | [] => []
  | c :: rest =>
    if c = '\\' && rest.head? = some '[' then dropBackslashes rest else c :: dropBackslashes rest

/-- A tag that is open: the normal form of what it writes, and what stands behind its equals sign.
-/
structure OpenTag where
  name : List Char
  parameters : List Char
  deriving DecidableEq, Repr

/-- The tag that a text in brackets opens. -/
def OpenTag.ofChars (inside : List Char) : OpenTag :=
  let name := inside.takeWhile (· ≠ '=')
  ⟨normalName name, inside.drop (name.length + 1)⟩

/-- A tag can be closed: what a handler is given has to be understood. -/
def OpenTag.canClose (tag : OpenTag) : Bool :=
  tag.name.head? ≠ some '@' || tag.parameters.isEmpty || Handler.isUnderstood tag.parameters

/-- The open tags after a tag of that name was closed, innermost one first; without a name it is the
innermost one. -/
def close? (name : List Char) (openTags : List OpenTag) : Option (List OpenTag) := do
  let tag ←
    if name.isEmpty then openTags.head?
    else openTags.find? fun tag => tag.name == normalName name
  if tag.canClose then some (openTags.erase tag) else none

/-- The text that shows, given the open tags, innermost one first. -/
def shownFrom : (openTags : List OpenTag) → List Piece → Except Fault (List Char)
  | _, [] => .ok []
  | openTags, .shown cs :: rest =>
    return Pictograph.replace (dropBackslashes cs) ++ (← shownFrom openTags rest)
  | openTags, .tag inside :: rest =>
    match inside.takeWhile (· ≠ '=') with
    | '/' :: name =>
      match close? (Text.trim Text.isSpace name) openTags with
      | some openTags => shownFrom openTags rest
      | none => .error .markup
    | _ => shownFrom (OpenTag.ofChars inside :: openTags) rest

/-- A character that the terminal does not print. -/
def isControl (c : Char) : Bool := [7, 8, 11, 12, 13].contains c.toNat

/-- The text that a text with markup shows. -/
def render (text : String) : Except Fault (List Char) := do
  let shown ← shownFrom [] (pieces (text.length + 1) [] text.toList)
  return shown.filter fun c => !isControl c

/-- The text with a backslash before every tag, and those before a tag doubled. -/
def escapeChars : (fuel : Nat) → List Char → List Char
  | 0, _ => []
  | _ + 1, [] => []
  | fuel + 1, c :: rest =>
    match leadingTag? (c :: rest) with
    | some (backslashes, inside, after) =>
      List.replicate (2 * backslashes + 1) '\\' ++ '[' :: inside ++ ']' :: escapeChars fuel after
    | none => c :: escapeChars fuel rest

/-- The markup that shows a text. A single backslash at the end is doubled. -/
def escape (text : String) : String :=
  let escaped := escapeChars (text.length + 1) text.toList
  let final := (escaped.reverse.takeWhile (· == '\\')).length
  String.ofList (if final = 1 then escaped ++ ['\\'] else escaped)

end ElementWrap.Terminal.Markup
