import ElementWrap.Json.Fault
import ElementWrap.Text.CodePoint
import ElementWrap.Value.Basic

/-! # Reading a JSON text

The reader takes one value with blanks around it. It also takes `NaN` and the two infinities, keeps
the order of an object's names, and lets a repeated name replace the value of the first. It stops at
the first character that fits nowhere, of which `read` reports the place, and at the bracket that
opens one container too many inside others.
-/

namespace ElementWrap.Json

/-- What stopped the reader: a defect with `remaining` characters to go, an integer with too many
digits, or a container too deep inside others. -/
inductive Stop
  | defect (defect : Defect) (remaining : Nat)
  | hugeInteger (digits : Nat)
  | tooDeep (container : Container)
  deriving DecidableEq, Repr

/-- A step of the reader yields a result and the text after it. -/
abbrev Step (α : Type) := Except Stop (α × List Char)

/-- A failure in front of the rest of the text. -/
def fail (defect : Defect) (rest : List Char) : Step α := .error (.defect defect rest.length)

/-- A character between the parts of a text. -/
def isBlank (c : Char) : Bool := c == ' ' || c == '\t' || c == '\n' || c == '\r'

/-- The text after its leading blanks. -/
def skipBlanks (cs : List Char) : List Char := cs.dropWhile isBlank

/-- The number that four hexadecimal digits write. -/
def fourDigits? (digits : List Char) : Option Nat :=
  if digits.length = 4 then Text.hexNumber? digits else none

/-- Reads an escape from its `u` on, and a second escape if the two make up one character. The
escape has to be followed by at least one character. -/
def readUnicode (cs : List Char) : Step Char :=
  let digits := cs.drop 1
  let after := digits.drop 4
  if after.isEmpty then fail .unicodeEscape cs
  else match fourDigits? (digits.take 4) with
    | none => fail .unicodeEscape cs
    | some code =>
      if 0xD800 ≤ code && code < 0xDC00 && !(after.drop 6).isEmpty &&
          after.take 2 == ['\\', 'u'] then
        match fourDigits? ((after.drop 2).take 4) with
        | none => fail .unicodeEscape (after.drop 1)
        | some low =>
          if 0xDC00 ≤ low && low < 0xE000 then
            .ok (Text.character (0x10000 + (code - 0xD800) * 0x400 + (low - 0xDC00)), after.drop 6)
          else .ok (Text.character code, after)
      else .ok (Text.character code, after)

/-- The character that a one-letter escape stands for. -/
def escaped? : Char → Option Char
  | '"' => some '"'
  | '\\' => some '\\'
  | '/' => some '/'
  | 'b' => some '\x08'
  | 'f' => some '\x0c'
  | 'n' => some '\n'
  | 'r' => some '\r'
  | 't' => some '\t'
  | _ => none

/-- Reads the characters of a string up to its closing quote, of which at most `fuel`. `read` are
those read so far, last one first, and `start` is the text from the opening quote on. -/
def readString (start : List Char) : (fuel : Nat) → (read : List Char) → List Char → Step String
  | 0, _, _ => fail .unterminated start
  | fuel + 1, read, cs =>
    match cs with
    | [] => fail .unterminated start
    | '"' :: rest => .ok (String.ofList read.reverse, rest)
    | ['\\'] => fail .unterminated start
    | '\\' :: 'u' :: rest =>
      match readUnicode ('u' :: rest) with
      | .error stop => .error stop
      | .ok (c, after) => readString start fuel (c :: read) after
    | '\\' :: letter :: rest =>
      match escaped? letter with
      | some c => readString start fuel (c :: read) rest
      | none => fail .escape cs
    | c :: rest =>
      if c.toNat < 0x20 then fail .controlCharacter cs
      else readString start fuel (c :: read) rest

/-- Reads a string whose opening quote stands before `rest`. -/
def readText (fuel : Nat) (rest : List Char) : Step String :=
  readString ('"' :: rest) fuel [] rest

/-- The number that decimal digits write. -/
def decimal (digits : List Char) : Nat :=
  digits.foldl (fun value c => value * 10 + (c.toNat - '0'.toNat)) 0

/-- The digits before the point, and what follows them: a zero stands alone. -/
def integerPart? : List Char → Option (List Char × List Char)
  | '0' :: rest => some (['0'], rest)
  | c :: rest =>
    if c.isDigit then some (c :: rest.takeWhile Char.isDigit, rest.dropWhile Char.isDigit)
    else none
  | [] => none

/-- The digits after the point, if there are any, and what follows them. -/
def fractionPart : List Char → List Char × List Char
  | '.' :: rest =>
    let digits := rest.takeWhile Char.isDigit
    if digits.isEmpty then ([], '.' :: rest) else (digits, rest.dropWhile Char.isDigit)
  | cs => ([], cs)

/-- The exponent with its sign, if it has digits, and what follows it. -/
def exponentPart (cs : List Char) : Option Int × List Char :=
  match cs with
  | mark :: rest =>
    if mark == 'e' || mark == 'E' then
      let (negative, rest) := match rest with
        | '-' :: rest => (true, rest)
        | '+' :: rest => (false, rest)
        | rest => (false, rest)
      let digits := rest.takeWhile Char.isDigit
      if digits.isEmpty then (none, cs)
      else
        let size := (decimal digits : Int)
        (some (if negative then -size else size), rest.dropWhile Char.isDigit)
    else (none, cs)
  | [] => (none, [])

/-- Reads a number. It is an integer unless it has a fraction or an exponent. -/
def readNumber (cs : List Char) : Step Value :=
  let (negative, body) := match cs with
    | '-' :: rest => (true, rest)
    | rest => (false, rest)
  match integerPart? body with
  | none => fail .value cs
  | some (whole, afterWhole) =>
    let (fraction, afterFraction) := fractionPart afterWhole
    let (exponent, after) := exponentPart afterFraction
    if fraction.isEmpty && exponent.isNone then
      if digitLimit < whole.length then .error (.hugeInteger whole.length)
      else
        let size := (decimal whole : Int)
        .ok (.int (if negative then -size else size), after)
    else
      let power := exponent.getD 0 - fraction.length
      .ok (.real (Binary64.ofDecimal negative (decimal (whole ++ fraction)) power), after)

/-- The words that stand for a value. -/
def words : List (List Char × Value) :=
  [("null".toList, .null), ("true".toList, .bool true), ("false".toList, .bool false),
    ("NaN".toList, .real .nan), ("Infinity".toList, .real (.infinity false)),
    ("-Infinity".toList, .real (.infinity true))]

mutual

/-- Reads a value that starts here; `room` is the number of containers that can still be nested. -/
def readValue : (fuel room : Nat) → List Char → Step Value
  | 0, _, cs => fail .value cs
  | fuel + 1, room, cs =>
    match cs with
    | '"' :: rest =>
      match readText fuel rest with
      | .error stop => .error stop
      | .ok (s, after) => .ok (.text s, after)
    | '[' :: rest =>
      if room = 0 then .error (.tooDeep .array)
      else
        match skipBlanks rest with
        | ']' :: after => .ok (.list [], after)
        | inside => readItems fuel (room - 1) [] inside
    | '\x7b' :: rest =>
      if room = 0 then .error (.tooDeep .object)
      else
        match skipBlanks rest with
        | '\x7d' :: after => .ok (.object [], after)
        | inside => readFields fuel (room - 1) [] inside
    | cs =>
      match words.find? fun word => word.1.isPrefixOf cs with
      | some (word, value) => .ok (value, cs.drop word.length)
      | none => readNumber cs

/-- Reads the items of a list from here on; `read` are those before, last one first. -/
def readItems : (fuel room : Nat) → (read : List Value) → List Char → Step Value
  | 0, _, _, cs => fail .value cs
  | fuel + 1, room, read, cs =>
    match readValue fuel room cs with
    | .error stop => .error stop
    | .ok (item, after) =>
      match skipBlanks after with
      | ']' :: after => .ok (.list (item :: read).reverse, after)
      | ',' :: after => readItems fuel room (item :: read) (skipBlanks after)
      | after => fail .comma after

/-- Reads the fields of an object from here on; `read` are those before. -/
def readFields : (fuel room : Nat) → (read : List (String × Value)) → List Char → Step Value
  | 0, _, _, cs => fail .propertyName cs
  | fuel + 1, room, read, cs =>
    match cs with
    | '"' :: rest =>
      match readText fuel rest with
      | .error stop => .error stop
      | .ok (name, after) =>
        match skipBlanks after with
        | ':' :: after =>
          match readValue fuel room (skipBlanks after) with
          | .error stop => .error stop
          | .ok (value, after) =>
            let read := Ordered.put name value read
            match skipBlanks after with
            | '\x7d' :: after => .ok (.object read, after)
            | ',' :: after => readFields fuel room read (skipBlanks after)
            | after => fail .comma after
        | after => fail .colon after
    | cs => fail .propertyName cs

end

/-- Reads a value and nothing but blanks after it. A value takes at most two steps a character. -/
def readDocument (text : List Char) : Except Stop Value :=
  if text.head? = some (Char.ofNat 0xFEFF) then .error (.defect .byteOrderMark text.length)
  else
    match readValue (2 * text.length + 2) nestingLimit (skipBlanks text) with
    | .error stop => .error stop
    | .ok (value, after) =>
      match skipBlanks after with
      | [] => .ok value
      | after => .error (.defect .extraData after.length)

/-- The value that a text holds. -/
def read (text : List Char) : Except Fault Value :=
  match readDocument text with
  | .ok value => .ok value
  | .error (.defect defect remaining) =>
    .error (.malformed (Malformed.at text defect (text.length - remaining)))
  | .error (.hugeInteger digits) => .error (.hugeInteger digits)
  | .error (.tooDeep container) => .error (.tooDeep container)

end ElementWrap.Json
