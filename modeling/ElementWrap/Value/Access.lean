import ElementWrap.Fault
import ElementWrap.Value.Equality

/-! # Reading values of unknown shape

An analysis document promises no shape, so every look into a value says what it meets: a value that
has no fields, an object without the name asked for, or a value that is no sequence.
-/

namespace ElementWrap.Value

/-- The value under a name of an object, null if the name is absent. -/
def field (value : Value) (name : String) : Except Fault Value :=
  match value with
  | object fields => .ok ((Ordered.get? name fields).getD null)
  | _ => .error .noAttribute

/-- The value under a name of an object, if the name is there. -/
def field? (value : Value) (name : String) : Except Fault (Option Value) :=
  match value with
  | object fields => .ok (Ordered.get? name fields)
  | _ => .error .noAttribute

/-- The value under a name that has to be there. -/
def require (value : Value) (name : String) : Except Fault Value :=
  match value with
  | object fields =>
    match Ordered.get? name fields with
    | some value => .ok value
    | none => .error (.missingKey name)
  | _ => .error .wrongType

/-- The items of a sequence. -/
def items (value : Value) : Except Fault (List Value) :=
  match value.items? with
  | some items => .ok items
  | none => .error .wrongType

/-- The items of a sequence; what does not count as given has none. -/
def itemsOrNone (value : Value) : Except Fault (List Value) :=
  if value.truthy then value.items else .ok []

/-- One text occurs within another. -/
def isInfix (part : List Char) : List Char → Bool
  | [] => part.isEmpty
  | c :: rest => part.isPrefixOf (c :: rest) || isInfix part rest

/-- A text is among what a value holds: the names of an object, the members of a list, the parts of
a text. -/
def holds (value : Value) (name : String) : Except Fault Bool :=
  match value with
  | object fields => .ok (fields.any fun field => field.1 == name)
  | list items => .ok (items.any (·.isText name))
  | text s => .ok (isInfix name.toList s.toList)
  | _ => .error .wrongType

end ElementWrap.Value
