import ElementWrap.Text.Class
import ElementWrap.Text.Quoted

/-! # Command-line arguments

Options may be shortened to a prefix that fits only one of them, joined with their argument by an
equals sign, and, where they have one letter, joined with their argument or with each other. After
two dashes alone everything is an argument. Negative numbers and texts with a blank are arguments
even where they open with a dash.
-/

namespace ElementWrap.Command

/-- What an option asks for. -/
inductive Switch
  | help
  | components
  | dest
  | bundle
  | bundleName
  | config
  | verbose
  deriving DecidableEq, Repr

/-- How many arguments an option takes. -/
inductive Arity
  | none
  | one
  | many
  deriving DecidableEq, Repr

namespace Switch

/-- The spellings of the options. -/
def spellings : List (String × Switch) :=
  [("-h", help), ("--help", help), ("--components", components), ("-c", components),
    ("--dest", dest), ("-d", dest), ("--bundle", bundle), ("--bundle-name", bundleName),
    ("--config", config), ("--verbose", verbose), ("-v", verbose)]

/-- The option of a spelling. -/
def ofSpelling? (spelling : List Char) : Option Switch :=
  (spellings.find? fun entry => entry.1.toList == spelling).map Prod.snd

/-- All spellings of an option. -/
def title (switch : Switch) : String :=
  "/".intercalate ((spellings.filter (·.2 = switch)).map Prod.fst)

/-- How many arguments an option takes. -/
def arity : Switch → Arity
  | components => .many
  | dest => .one
  | bundleName => .one
  | config => .one
  | _ => .none

end Switch

/-- The arguments of a command line. For an option it is the arguments that the option took; where
it takes one, none are left if two dashes alone were joined to it. -/
structure Arguments where
  webComponent : Option String := none
  components : Option (List String) := none
  dest : Option (List String) := none
  bundle : Bool := false
  bundleName : Option (List String) := none
  config : Option (List String) := none
  verbose : Bool := false
  deriving DecidableEq, Repr

/-- Why a command line is not run: it asks for help, or it is wrong. -/
inductive Refusal
  | help
  | misuse (message : String)
  deriving DecidableEq, Repr

/-- An option of a command line as it was written: the spelling it was recognised by and the text
that was joined to it. -/
structure Written where
  switch : Switch
  spelling : List Char
  joined : Option (List Char)
  deriving DecidableEq, Repr

/-- A part of a command line: two dashes, an argument, an option, or what looks like an option. -/
inductive Part
  | marker
  | argument (s : String)
  | option (written : Written)
  | unknown (s : String)
  deriving DecidableEq, Repr

namespace Part

/-- The text of a part that is no option. -/
def text : Part → String
  | marker => "--"
  | argument s => s
  | option written => String.ofList written.spelling
  | unknown s => s

/-- The part is an argument. -/
def isArgument : Part → Bool
  | argument _ => true
  | _ => false

/-- The part is or looks like an option. -/
def isOption : Part → Bool
  | option _ => true
  | unknown _ => true
  | _ => false

end Part

/-- The text without a line feed at its end. -/
def dropFinalNewline (cs : List Char) : List Char :=
  if cs.getLast? = some '\n' then cs.dropLast else cs

/-- A dash with digits of any script and at most one point, which digits follow. A line feed may end
the text. -/
def isNegativeNumber (cs : List Char) : Bool :=
  match dropFinalNewline cs with
  | '-' :: body =>
    match body.dropWhile Text.isDecimalDigit with
    | [] => !body.isEmpty
    | '.' :: decimals => !decimals.isEmpty && decimals.all Text.isDecimalDigit
    | _ => false
  | _ => false

/-- A text cut at its first equals sign. -/
def cutAtEquals (cs : List Char) : List Char × Option (List Char) :=
  match cs.dropWhile (· ≠ '=') with
  | [] => (cs, none)
  | _ :: joined => (cs.takeWhile (· ≠ '='), some joined)

/-- The options that a text may be short for. -/
def candidates (cs : List Char) : List Written :=
  match cs with
  | '-' :: '-' :: _ =>
    let (stem, joined) := cutAtEquals cs
    Switch.spellings.filterMap fun entry =>
      if stem.isPrefixOf entry.1.toList then some ⟨entry.2, entry.1.toList, joined⟩ else none
  | _ =>
    Switch.spellings.filterMap fun entry =>
      if entry.1.toList = cs.take 2 then some ⟨entry.2, entry.1.toList, some (cs.drop 2)⟩
      else if cs.isPrefixOf entry.1.toList then some ⟨entry.2, entry.1.toList, none⟩
      else none

/-- What a text is that was not preceded by two dashes alone. -/
def classify (s : String) : Except Refusal Part :=
  let cs := s.toList
  if cs.head? ≠ some '-' then .ok (.argument s)
  else
    match Switch.ofSpelling? cs with
    | some switch => .ok (.option ⟨switch, cs, none⟩)
    | none =>
      if cs.length = 1 then .ok (.argument s)
      else
        let (stem, joined) := cutAtEquals cs
        match if joined.isSome then Switch.ofSpelling? stem else none with
        | some switch => .ok (.option ⟨switch, stem, joined⟩)
        | none =>
          match candidates cs with
          | [written] => .ok (.option written)
          | [] =>
            if isNegativeNumber cs || cs.contains ' ' then .ok (.argument s)
            else .ok (.unknown s)
          | several =>
            let names := several.map fun written => String.ofList written.spelling
            .error (.misuse ("ambiguous option: " ++ s ++ " could match " ++
              ", ".intercalate names))

/-- The parts of a command line. -/
def parts : List String → Except Refusal (List Part)
  | [] => .ok []
  | s :: rest =>
    if s = "--" then .ok (.marker :: rest.map .argument)
    else do
      let part ← classify s
      return part :: (← parts rest)

/-- A complaint about an option. -/
def complaint (switch : Switch) (message : String) : Refusal :=
  .misuse ("argument " ++ switch.title ++ ": " ++ message)

/-- The arguments after an option took effect. -/
def Arguments.apply (arguments : Arguments) (switch : Switch) (values : List String) :
    Except Refusal Arguments :=
  match switch with
  | .help => .error .help
  | .components => .ok { arguments with components := some values }
  | .dest => .ok { arguments with dest := some values }
  | .bundle => .ok { arguments with bundle := true }
  | .bundleName => .ok { arguments with bundleName := some values }
  | .config => .ok { arguments with config := some values }
  | .verbose => .ok { arguments with verbose := true }

/-- The argument of an option that is joined to it. Two dashes alone do not count. -/
def joinedArguments (text : String) : List String := if text = "--" then [] else [text]

/-- Takes the options that are joined in one text apart; the last one may take its arguments from
what follows. Answers the options with their arguments and whether the last one still takes some. -/
def unjoin (switch : Switch) (spelling : List Char) :
    (joined : List Char) → Except Refusal (List (Switch × List String) × Option Switch)
  | [] =>
    if switch.arity = .none then
      .error (complaint switch ("ignored explicit argument " ++ Text.quoted ""))
    else .ok ([(switch, [""])], none)
  | letter :: rest =>
    let text := String.ofList (letter :: rest)
    if switch.arity ≠ .none then .ok ([(switch, joinedArguments text)], none)
    else
      match if spelling[1]? = some '-' then none else Switch.ofSpelling? ['-', letter] with
      | none => .error (complaint switch ("ignored explicit argument " ++ Text.quoted text))
      | some next =>
        if rest.isEmpty then .ok ([(switch, [])], some next)
        else do
          let (taken, last) ← unjoin next ['-', letter] rest
          return ((switch, []) :: taken, last)

/-- The state of reading a command line: the arguments so far, whether the component file is still
to be met, and what fits nowhere. -/
structure Reading where
  arguments : Arguments := {}
  awaitsFile : Bool := true
  extras : List String := []

/-- Lets options with their arguments take effect. -/
def Reading.applyAll (reading : Reading) (taken : List (Switch × List String)) :
    Except Refusal Reading := do
  let arguments ← taken.foldlM (fun arguments entry => arguments.apply entry.1 entry.2)
    reading.arguments
  return { reading with arguments }

/-- Lets an option take its arguments from the parts that follow. -/
def takeFollowing (switch : Switch) (rest : List Part) :
    Except Refusal (List String × List Part) :=
  match switch.arity with
  | .none => .ok ([], rest)
  | .one =>
    match rest with
    | .argument s :: rest => .ok ([s], rest)
    | _ => .error (complaint switch "expected one argument")
  | .many =>
    let values := (rest.takeWhile Part.isArgument).map Part.text
    if values.isEmpty then .error (complaint switch "expected at least one argument")
    else .ok (values, rest.dropWhile Part.isArgument)

/-- Reads the parts behind the last option: the component file, if it is still to be met, and what
fits nowhere. -/
def Reading.finish (reading : Reading) (rest : List Part) : Reading :=
  let texts (parts : List Part) : List String := parts.map Part.text
  if reading.awaitsFile then
    let rest := if rest.head? = some .marker then rest.drop 1 else rest
    match rest with
    | .argument s :: after =>
      let after := if after.head? = some .marker then after.drop 1 else after
      { reading with
        arguments := { reading.arguments with webComponent := some s }
        awaitsFile := false
        extras := reading.extras ++ texts after }
    | after => { reading with extras := reading.extras ++ texts after }
  else { reading with extras := reading.extras ++ texts rest }

/-- Reads the parts of a command line, at most `fuel` of them. -/
def Reading.run : (fuel : Nat) → Reading → List Part → Except Refusal Reading
  | 0, reading, _ => .ok reading
  | fuel + 1, reading, parts =>
    if !parts.any Part.isOption then .ok (reading.finish parts)
    else
      match parts with
      | .option ⟨switch, _, none⟩ :: rest => do
        let (values, rest) ← takeFollowing switch rest
        run fuel (← reading.applyAll [(switch, values)]) rest
      | .option ⟨switch, spelling, some joined⟩ :: rest => do
        let (taken, last) ← unjoin switch spelling joined
        match last with
        | none => run fuel (← reading.applyAll taken) rest
        | some switch => do
          let (values, rest) ← takeFollowing switch rest
          run fuel (← reading.applyAll (taken ++ [(switch, values)])) rest
      | .unknown s :: rest => run fuel { reading with extras := reading.extras ++ [s] } rest
      | part :: rest =>
        if reading.awaitsFile then
          run fuel
            { reading with
              arguments := { reading.arguments with webComponent := some part.text }
              awaitsFile := false }
            rest
        else run fuel { reading with extras := reading.extras ++ [part.text] } rest
      | [] => .ok reading

/-- The arguments of a command line. -/
def Arguments.parse (line : List String) : Except Refusal Arguments := do
  let parts ← parts line
  let reading ← Reading.run (parts.length + 1) {} parts
  if reading.extras.isEmpty then return reading.arguments
  else throw (.misuse ("unrecognized arguments: " ++ " ".intercalate reading.extras))

end ElementWrap.Command
