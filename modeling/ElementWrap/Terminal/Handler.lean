import ElementWrap.Json.Reader
import ElementWrap.Text.Class

/-! # Arguments of handlers

A tag that opens with `@` names a handler behind an equals sign: a name, a name with arguments in
parentheses, or arguments alone. Arguments are literal values: numbers, quoted texts, the three
constants, and lists, tuples, sets and dictionaries of them.
-/

namespace ElementWrap.Terminal.Handler

/-- What a literal value is, as far as it decides where the value can stand. -/
inductive Shape
  | plain
  | mutable
  deriving DecidableEq, Repr

/-- A blank between the parts of a literal. -/
def isBlank (c : Char) : Bool := c == ' ' || c == '\t' || c == '\n' || c == '\x0c'

/-- The text after its leading blanks. -/
def skip (cs : List Char) : List Char := cs.dropWhile isBlank

/-- The text behind a quoted text that ends in `quote`. -/
def closeQuote? (quote : Char) : (fuel : Nat) → List Char → Option (List Char)
  | 0, _ => none
  | _ + 1, [] => none
  | fuel + 1, c :: rest =>
    if c = quote then some rest
    else if c = '\\' then closeQuote? quote fuel (rest.drop 1)
    else if c = '\n' then none
    else closeQuote? quote fuel rest

/-- The text behind an unsigned number. -/
def number? (cs : List Char) : Option (List Char) := do
  let (_, rest) ← Json.integerPart? cs
  if (rest.head?.map Char.isDigit) = some true then none
  let rest := match rest with
    | '.' :: rest => rest.dropWhile Char.isDigit
    | rest => rest
  let rest := (Json.exponentPart rest).2
  match rest with
  | c :: after => if c = 'j' || c = 'J' then some after else
      if Text.isIdentifierStart c then none else some rest
  | [] => some []

/-- The constants. -/
def constants : List String := ["None", "True", "False"]

mutual

/-- The shape of a literal value and the text behind it. -/
def value? : (fuel : Nat) → List Char → Option (Shape × List Char)
  | 0, _ => none
  | fuel + 1, cs =>
    match skip cs with
    | [] => none
    | '(' :: rest => do
      let (shape, after) ← tuple? fuel ')' .plain rest
      some (shape, after)
    | '[' :: rest => do
      let (_, after) ← tuple? fuel ']' .plain rest
      some (.mutable, after)
    | '\x7b' :: rest => do
      let after ← entries? fuel rest
      some (.mutable, after)
    | c :: rest =>
      if c = '\'' || c = '"' then do some (.plain, ← closeQuote? c (rest.length + 1) rest)
      else if c = '-' || c = '+' then do some (.plain, ← number? (skip rest))
      else if c.isDigit then do some (.plain, ← number? (c :: rest))
      else
        let word := (c :: rest).takeWhile Text.isIdentifierRest
        if constants.contains (String.ofList word) then
          some (.plain, (c :: rest).drop word.length)
        else none

/-- The values up to a closing bracket with commas between them: whether one of them is mutable, and
the text behind the bracket. -/
def tuple? : (fuel : Nat) → (closer : Char) → Shape → List Char → Option (Shape × List Char)
  | 0, _, _, _ => none
  | fuel + 1, closer, shape, cs =>
    match skip cs with
    | [] => none
    | c :: rest =>
      if c = closer then some (shape, rest)
      else do
        let (found, after) ← value? fuel (c :: rest)
        let shape := if found = .mutable then .mutable else shape
        match skip after with
        | ',' :: after => tuple? fuel closer shape after
        | c :: after => if c = closer then some (shape, after) else none
        | [] => none

/-- The text behind the members of a set or the entries of a dictionary; neither a member nor a key
is mutable. -/
def entries? : (fuel : Nat) → List Char → Option (List Char)
  | 0, _ => none
  | fuel + 1, cs =>
    match skip cs with
    | '\x7d' :: rest => some rest
    | cs => do
      let (shape, after) ← value? fuel cs
      if shape = .mutable then none
      else
        let after ←
          match skip after with
          | ':' :: after => (value? fuel after).map Prod.snd
          | after => some after
        match skip after with
        | ',' :: after => entries? fuel after
        | '\x7d' :: after => some after
        | _ => none

end

/-- The text is one literal value. -/
def isLiteral (cs : List Char) : Bool :=
  match value? (2 * cs.length + 2) cs with
  | some (_, rest) => (skip rest).isEmpty
  | none => false

/-- A character of a handler's name. -/
def isNamePart (c : Char) : Bool := c == '.' || Text.isIdentifierRest c

/-- What stands behind the equals sign of a handler's tag can be understood. -/
def isUnderstood (cs : List Char) : Bool :=
  let cs := Text.trim Text.isSpace cs
  match cs.dropWhile isNamePart with
  | [] => true
  | '(' :: rest =>
    if rest.getLast? = some ')' then isLiteral ('(' :: rest) else isLiteral cs
  | _ => isLiteral cs

end ElementWrap.Terminal.Handler
