import ElementWrap.Decimal.Binary64
import ElementWrap.Ordered

/-! # Values of a document

The values that a document holds. An object is a list of named values in document order, each name
occurring once.
-/

namespace ElementWrap

/-- A value of a document. -/
inductive Value
  | null
  | bool (b : Bool)
  | int (n : Int)
  | real (x : Binary64)
  | text (s : String)
  | list (items : List Value)
  | object (fields : List (String × Value))
  deriving Repr, Inhabited

namespace Value

/-- A value counts as given unless it is null, false, zero or empty. -/
def truthy : Value → Bool
  | null => false
  | bool b => b
  | int n => n != 0
  | real x => !x.isZero
  | text s => s != ""
  | list items => !items.isEmpty
  | object fields => !fields.isEmpty

/-- The value is a text, this one. -/
def isText (s : String) : Value → Bool
  | text t => s == t
  | _ => false

/-- The value can be the key of a dictionary. -/
def isKey : Value → Bool
  | list _ => false
  | object _ => false
  | _ => true

/-- The items that a value stands for where a sequence is asked for: those of a list, the characters
of a text, the names of an object. -/
def items? : Value → Option (List Value)
  | list items => some items
  | text s => some (s.toList.map fun c => text (String.singleton c))
  | object fields => some (fields.map fun field => text field.1)
  | _ => none

end Value

end ElementWrap
