import ElementWrap.Text.Class
import ElementWrap.Text.Escape
import ElementWrap.Text.Newline

/-! # The parts of a template

A template is text with outputs `{{ … }}`, tags `{% … %}` and comments `{# … #}` in between. A tag
or a comment on a line of its own leaves no trace: blanks before it on its line are dropped, and so
is the line feed right after it.
-/

namespace ElementWrap.Template

/-- A word, a quoted string or a mark inside an output or a tag. -/
inductive Token
  | name (s : String)
  | string (s : String)
  | mark (c : Char)
  deriving DecidableEq, Repr

/-- A part of a template. -/
inductive Segment
  | text (s : String)
  | output (tokens : List Token)
  | tag (tokens : List Token)
  deriving DecidableEq, Repr

/-- The opening brace. -/
def openBrace : Char := '\x7b'

/-- The closing brace. -/
def closeBrace : Char := '\x7d'

/-- The kinds of parts that are not text. -/
inductive Opening
  | output
  | tag
  | comment
  deriving DecidableEq, Repr

namespace Opening

/-- The opening with a character behind its brace. -/
def ofChar? (c : Char) : Option Opening :=
  if c = openBrace then some output
  else if c = '%' then some tag
  else if c = '#' then some comment
  else none

/-- The character before the closing brace. -/
def closer : Opening → Char
  | output => closeBrace
  | tag => '%'
  | comment => '#'

end Opening

/-- The text up to the first opening, and what follows that opening. -/
def cutText : List Char → List Char × Option (Opening × List Char)
  | [] => ([], none)
  | c :: rest =>
    let opening :=
      if c = openBrace then
        match rest with
        | d :: after => (Opening.ofChar? d).map fun opening => (opening, after)
        | [] => none
      else none
    match opening with
    | some found => ([], some found)
    | none =>
      let (text, found) := cutText rest
      (c :: text, found)

/-- The marks that can stand in an expression. -/
def isMark (c : Char) : Bool := c == '.' || c == '|' || c == ',' || c == '(' || c == ')'

/-- A character can continue a name. -/
def isNameRest (c : Char) : Bool :=
  Text.isIdentifierRest c && !Text.inRanges Text.recentMarkRanges c.toNat

/-- The text up to a quote, and what follows the quote. A backslash takes the next character along,
even a quote. -/
def cutString (quote : Char) : List Char → Option (List Char × List Char)
  | [] => none
  | '\\' :: c :: rest => (cutString quote rest).map fun (s, after) => ('\\' :: c :: s, after)
  | c :: rest =>
    if c = quote then some ([], rest)
    else (cutString quote rest).map fun (s, after) => (c :: s, after)

/-- Reads tokens up to the closing of a part and answers what follows it. Inside parentheses the
closing has no meaning. -/
def readTokens (opening : Opening) :
    (fuel depth : Nat) → List Char → Option (List Token × List Char)
  | 0, _, _ => none
  | _ + 1, _, [] => none
  | fuel + 1, depth, c :: rest =>
    if Text.isSpace c then readTokens opening fuel depth rest
    else if depth = 0 && c = opening.closer && rest.head? = some closeBrace then
      some ([], rest.drop 1)
    else if Text.isIdentifierStart c then do
      let word := c :: rest.takeWhile isNameRest
      let (tokens, after) ←
        readTokens opening fuel depth (rest.dropWhile isNameRest)
      some (.name (String.ofList word) :: tokens, after)
    else if c = '\'' || c = '"' then do
      let (inside, behind) ← cutString c rest
      let shown ← Text.Escape.decode? (Text.Escape.spell inside)
      let (tokens, after) ← readTokens opening fuel depth behind
      some (.string (String.ofList shown) :: tokens, after)
    else if isMark c then
      let depth :=
        if c = '(' then some (depth + 1)
        else if c ≠ ')' then some depth
        else if depth = 0 then none
        else some (depth - 1)
      match depth with
      | none => none
      | some depth => do
        let (tokens, after) ← readTokens opening fuel depth rest
        some (.mark c :: tokens, after)
    else none

/-- The text before a tag without the blanks that open the tag's line. Where the text has no line
feed, they do so only if the text itself opens a line. -/
def stripLine (opensLine : Bool) (text : List Char) : List Char :=
  let tail := (text.reverse.takeWhile (· ≠ '\n')).reverse
  if (opensLine || tail.length < text.length) && tail.all Text.isSpace then
    text.take (text.length - tail.length)
  else text

/-- What follows a comment. -/
def skipComment : List Char → Option (List Char)
  | [] => none
  | c :: rest =>
    if c = '#' && rest.head? = some closeBrace then some (rest.drop 1) else skipComment rest

/-- Drops the line feed right after a tag or a comment, and tells whether there was one. -/
def skipLineFeed : List Char → Bool × List Char
  | '\n' :: rest => (true, rest)
  | rest => (false, rest)

/-- Cuts a template whose lines end in line feeds; `opensLine` tells whether it starts at the
beginning of a line. -/
def cut : (fuel : Nat) → (opensLine : Bool) → List Char → Option (List Segment)
  | 0, _, _ => none
  | fuel + 1, opensLine, cs =>
    match cutText cs with
    | (text, none) => some [.text (String.ofList text)]
    | (text, some (.output, rest)) => do
      let (tokens, after) ← readTokens .output (rest.length + 1) 0 rest
      let segments ← cut fuel false after
      some (.text (String.ofList text) :: .output tokens :: segments)
    | (text, some (.tag, rest)) => do
      let text := stripLine opensLine text
      let (tokens, after) ← readTokens .tag (rest.length + 1) 0 rest
      let (fed, after) := skipLineFeed after
      let segments ← cut fuel fed after
      some (.text (String.ofList text) :: .tag tokens :: segments)
    | (text, some (.comment, rest)) => do
      let text := stripLine opensLine text
      let (fed, after) := skipLineFeed (← skipComment rest)
      let segments ← cut fuel fed after
      some (.text (String.ofList text) :: segments)

/-- The parts of a template. -/
def segments? (source : List Char) : Option (List Segment) :=
  let cs := Text.unifyNewlines source
  cut (cs.length + 1) true cs

end ElementWrap.Template
