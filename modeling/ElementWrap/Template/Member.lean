import ElementWrap.Template.Datum

/-! # The members of a datum

A template asks for a member by its name. What comes with every datum of a kind is found first: the
kind itself, the parts of a number, and the operations of texts, lists, tables and numbers. Only
then the entries of a table are looked at. An operation is there to be found and serves no other
end. Of what is undefined nothing can be asked.
-/

namespace ElementWrap.Template.Datum

/-- The operations of a text. -/
def textOperations : List String :=
  ["capitalize", "casefold", "center", "count", "encode", "endswith", "expandtabs", "find",
    "format", "format_map", "index", "isalnum", "isalpha", "isascii", "isdecimal", "isdigit",
    "isidentifier", "islower", "isnumeric", "isprintable", "isspace", "istitle", "isupper", "join",
    "ljust", "lower", "lstrip", "maketrans", "partition", "removeprefix", "removesuffix", "replace",
    "rfind", "rindex", "rjust", "rpartition", "rsplit", "rstrip", "split", "splitlines",
    "startswith", "strip", "swapcase", "title", "translate", "upper", "zfill"]

/-- The operations of a list. -/
def listOperations : List String :=
  ["append", "clear", "copy", "count", "extend", "index", "insert", "pop", "remove", "reverse",
    "sort"]

/-- The operations of a table. -/
def tableOperations : List String :=
  ["clear", "copy", "fromkeys", "get", "items", "keys", "pop", "popitem", "setdefault", "update",
    "values"]

/-- The operations of a whole number or a truth value. -/
def integerOperations : List String :=
  ["as_integer_ratio", "bit_count", "bit_length", "conjugate", "from_bytes", "to_bytes"]

/-- The operations of a number with a point. -/
def realOperations : List String :=
  ["as_integer_ratio", "conjugate", "fromhex", "hex", "is_integer"]

/-- The operations that come with a datum. -/
def operations : Datum → List String
  | scalar (.text _) => textOperations
  | scalar (.bool _) => integerOperations
  | scalar (.int _) => integerOperations
  | scalar (.real _) => realOperations
  | list _ => listOperations
  | table _ => tableOperations
  | _ => []

/-- The name of the kind of a datum. -/
def kindName : Datum → String
  | scalar (.bool _) => "bool"
  | scalar (.int _) => "int"
  | scalar (.real _) => "float"
  | scalar (.text _) => "str"
  | scalar _ => "NoneType"
  | list _ => "list"
  | table _ => "dict"
  | _ => "object"

/-- The name under which a datum tells its kind. -/
def kindMember : String := "__class__"

/-- The name under which a kind tells its own name. -/
def nameMember : String := "__name__"

/-- The parts of a whole number: as a complex number and as a fraction. -/
def integerPart? (n : Int) (name : String) : Option Datum :=
  if name = "real" || name = "numerator" then some (int n)
  else if name = "imag" then some (int 0)
  else if name = "denominator" then some (int 1)
  else none

/-- The part of a number under a name. -/
def part? (name : String) : Datum → Option Datum
  | scalar (.bool b) => integerPart? (if b then 1 else 0) name
  | scalar (.int n) => integerPart? n name
  | scalar (.real x) =>
    if name = "real" then some (scalar (.real x))
    else if name = "imag" then some (scalar (.real (.ofRatio false 0 1)))
    else none
  | _ => none

/-- What comes with a datum under a name. -/
def attribute? (name : String) : Datum → Option Datum
  | undefined => none
  | entity attributes => Ordered.get? name attributes
  | thing _ members => Ordered.get? name members
  | kind shown =>
    if name = nameMember then some (text shown)
    else if shown = "dict" && tableOperations.contains name then
      some (thing ("<method '" ++ name ++ "' of 'dict' objects>") [])
    else none
  | datum =>
    if name = kindMember then some (kind datum.kindName)
    else if datum.operations.contains name then some (operation name)
    else datum.part? name

/-- What is kept under a name in a datum: an entry of a table. The kind of tables answers with the
kind of the tables with some keys. -/
def entry? (name : String) : Datum → Option Datum
  | table entries => Ordered.get? name entries
  | kind "dict" => some (thing ("dict[" ++ Text.quoted name ++ "]") [])
  | _ => none

/-- What a template finds under a name of a datum; in what is undefined nothing can be found. -/
def member? (name : String) : Datum → Option Datum
  | undefined => none
  | datum => some ((datum.attribute? name <|> datum.entry? name).getD undefined)

/-- What comes with a datum under a name, which has to be there. -/
def attributeOf (name : String) (datum : Datum) : Except Fault Datum :=
  match datum.attribute? name with
  | some found => .ok found
  | none => .error .noAttribute

/-- An attribute of each item, with a comma and a blank between them. -/
def joinNames (name : String) (datum : Datum) : Except Fault String :=
  match datum.items? with
  | none => .error .wrongType
  | some items => do
    let names ← items.mapM fun item => do return (← item.attributeOf name).display
    return ", ".intercalate names

end ElementWrap.Template.Datum
