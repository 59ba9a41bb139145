import ElementWrap.Template.Token

/-! # The structure of a template

An expression is a name followed by members and filters. The body of a template is a sequence of
texts, outputs, loops and conditionals. These are the constructs that the templates of this library
are written with. The language has others, and a source that uses one of them has no structure here.
-/

namespace ElementWrap.Template

/-- An expression of a template. -/
inductive Expression
  | name (s : String)
  | bool (b : Bool)
  | null
  | member (of : Expression) (name : String)
  | filter (of : Expression) (name : String) (arguments : List String)
  deriving DecidableEq, Repr

/-- The body of a template or of a block: its parts in order, each with what comes `next`. -/
inductive Body
  | done
  | text (s : String) (next : Body)
  | output (value : Expression) (next : Body)
  | loop (item : String) (items : Expression) (body alternative next : Body)
  | cond (condition : Expression) (body alternative next : Body)
  deriving DecidableEq, Repr

namespace Expression

/-- The expression that a word alone stands for; some words are constants. -/
def ofWord? (word : String) : Option Expression :=
  if word = "true" || word = "True" then some (bool true)
  else if word = "false" || word = "False" then some (bool false)
  else if word = "none" || word = "None" then some null
  else if word = "not" then none
  else some (name word)

/-- The members after an expression, and the tokens behind them. -/
def takeMembers (e : Expression) : List Token → Expression × List Token
  | .mark '.' :: .name field :: rest => takeMembers (member e field) rest
  | rest => (e, rest)

/-- A name with the names behind its dots, and the tokens behind them. -/
def takeDotted (word : String) : List Token → String × List Token
  | .mark '.' :: .name more :: rest => takeDotted (word ++ "." ++ more) rest
  | rest => (word, rest)

/-- The texts in parentheses behind a filter, and the tokens behind them. Strings next to each other
are one text, of which `current` is what was read; a comma may follow the last text. -/
def takeArguments? (current : Option String) : List Token → Option (List String × List Token)
  | .string s :: rest => takeArguments? (some (current.getD "" ++ s)) rest
  | .mark ',' :: rest => do
    let argument ← current
    let (arguments, rest) ← takeArguments? none rest
    some (argument :: arguments, rest)
  | .mark ')' :: rest => some (current.toList, rest)
  | _ => none

/-- The filters after an expression, each with texts in parentheses or without. -/
def takeFilters? : (fuel : Nat) → Expression → List Token → Option Expression
  | _, e, [] => some e
  | fuel + 1, e, .mark '|' :: .name word :: rest =>
    match takeDotted word rest with
    | (word, .mark '(' :: rest) => do
      let (arguments, rest) ← takeArguments? none rest
      takeFilters? fuel (filter e word arguments) rest
    | (word, rest) => takeFilters? fuel (filter e word []) rest
  | _, _, _ => none

/-- The expression that tokens write. -/
def ofTokens? : List Token → Option Expression
  | .name word :: rest => do
    let (e, rest) := takeMembers (← ofWord? word) rest
    takeFilters? rest.length e rest
  | _ => none

end Expression

namespace Body

/-- The tags that end a body. -/
def isCloser (tokens : List Token) : Bool :=
  tokens == [.name "else"] || tokens == [.name "endif"] || tokens == [.name "endfor"]

/-- The variable that a loop assigns; a constant can not be one. -/
def loopVariable? (word : String) : Option String :=
  if word = "in" then none
  else if word = "not" then some word
  else
    match Expression.ofWord? word with
    | some (.name s) => some s
    | _ => none

/-- The sequence that a loop goes through. The word for loops that call themselves opens none. -/
def loopItems? (tokens : List Token) : Option Expression :=
  if tokens.head? = some (.name "recursive") then none else Expression.ofTokens? tokens

mutual

/-- Reads a body up to a closing tag, which is left, or to the end. -/
def read? : (fuel : Nat) → List Segment → Option (Body × List Segment)
  | 0, _ => none
  | _ + 1, [] => some (done, [])
  | fuel + 1, .text s :: rest => do
    let (next, after) ← read? fuel rest
    some (text s next, after)
  | fuel + 1, .output tokens :: rest => do
    let value ← Expression.ofTokens? tokens
    let (next, after) ← read? fuel rest
    some (output value next, after)
  | fuel + 1, .tag tokens :: rest =>
    if isCloser tokens then some (done, .tag tokens :: rest)
    else
      match tokens with
      | .name "for" :: .name word :: .name "in" :: source => do
        let item ← loopVariable? word
        let items ← loopItems? source
        let (body, alternative, after) ← readBlock? fuel "endfor" rest
        let (next, after) ← read? fuel after
        some (loop item items body alternative next, after)
      | .name "if" :: source => do
        let condition ← Expression.ofTokens? source
        let (body, alternative, after) ← readBlock? fuel "endif" rest
        let (next, after) ← read? fuel after
        some (cond condition body alternative next, after)
      | _ => none

/-- Reads the body of a block and its alternative up to and including the closing tag. -/
def readBlock? : (fuel : Nat) → (closer : String) → List Segment →
    Option (Body × Body × List Segment)
  | 0, _, _ => none
  | fuel + 1, closer, segments => do
    let (body, rest) ← read? fuel segments
    match rest with
    | .tag [.name word] :: after =>
      if word = closer then some (body, done, after)
      else if word = "else" then do
        let (alternative, rest) ← read? fuel after
        match rest with
        | .tag [.name word] :: after =>
          if word = closer then some (body, alternative, after) else none
        | _ => none
      else none
    | _ => none

end

/-- The body of a template, if the template is well-formed. -/
def ofChars? (source : List Char) : Option Body := do
  let segments ← segments? source
  let (body, rest) ← read? (2 * segments.length + 2) segments
  if rest.isEmpty then some body else none

end Body

end ElementWrap.Template
