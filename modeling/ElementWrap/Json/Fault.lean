/-! # Faults of a JSON text

A malformed text is reported by what was wanted where: the line and the column count from one and
the offset from zero, all in characters, and only the line feed ends a line.
-/

namespace ElementWrap.Json

/-- What is wrong at a place of a text. -/
inductive Defect
  | value
  | propertyName
  | colon
  | comma
  | extraData
  | unterminated
  | controlCharacter
  | escape
  | unicodeEscape
  | byteOrderMark
  deriving DecidableEq, Repr

/-- The wording of a defect. -/
def Defect.message : Defect → String
  | .value => "Expecting value"
  | .propertyName => "Expecting property name enclosed in double quotes"
  | .colon => "Expecting ':' delimiter"
  | .comma => "Expecting ',' delimiter"
  | .extraData => "Extra data"
  | .unterminated => "Unterminated string starting at"
  | .controlCharacter => "Invalid control character at"
  | .escape => "Invalid \\escape"
  | .unicodeEscape => "Invalid \\uXXXX escape"
  | .byteOrderMark => "Unexpected UTF-8 BOM (decode using utf-8-sig)"

/-- A defect with its place. -/
structure Malformed where
  defect : Defect
  line : Nat
  column : Nat
  offset : Nat
  deriving DecidableEq, Repr

/-- The place `offset` characters into a text. -/
def Malformed.at (text : List Char) (defect : Defect) (offset : Nat) : Malformed :=
  let before := text.take offset
  { defect, offset
    line := before.count '\n' + 1
    column := (before.reverse.takeWhile (· != '\n')).length + 1 }

/-- The wording of a malformed text. -/
def Malformed.message (fault : Malformed) : String :=
  fault.defect.message ++ ": line " ++ toString fault.line ++ " column " ++
    toString fault.column ++ " (char " ++ toString fault.offset ++ ")"

/-- What values are nested in. -/
inductive Container
  | array
  | object
  deriving DecidableEq, Repr

/-- The word for a container. -/
def Container.name : Container → String
  | .array => "array"
  | .object => "object"

/-- Why a text was not read: it is malformed, an integer has more digits than are converted, or
containers are nested too deep. -/
inductive Fault
  | malformed (fault : Malformed)
  | hugeInteger (digits : Nat)
  | tooDeep (container : Container)
  deriving DecidableEq, Repr

/-- The most digits of an integer that are converted. -/
def digitLimit : Nat := 4300

/-- The most containers that are nested in each other. -/
def nestingLimit : Nat := 984

/-- The wording of a fault. -/
def Fault.message : Fault → String
  | .malformed fault => fault.message
  | .hugeInteger digits =>
    "Exceeds the limit (" ++ toString digitLimit ++
      " digits) for integer string conversion: value has " ++ toString digits ++
      " digits; use sys.set_int_max_str_digits() to increase the limit"
  | .tooDeep container =>
    "maximum recursion depth exceeded while decoding a JSON " ++ container.name ++
      " from a unicode string"

end ElementWrap.Json
