import ElementWrap.Fault

/-! # What a template can print

Data of a template: plain values, lists, tables whose entries are read by key, and entities whose
attributes are read by name. Beside them stand the kinds of data and the things that a template
finds without being given them, such as the state of a loop. A name that nothing was given for is
undefined: it prints as nothing, counts as false and has no items.
-/

namespace ElementWrap.Template

/-- A datum of a template. -/
inductive Datum
  | undefined
  | scalar (value : Value)
  | list (items : List Datum)
  | table (entries : List (String × Datum))
  | entity (attributes : List (String × Datum))
  | kind (name : String)
  | thing (shown : String) (members : List (String × Datum))
  deriving Repr, Inhabited

namespace Datum

mutual

/-- The datum of a value: lists and objects become lists and tables. -/
def ofValue : Value → Datum
  | .list items => list (ofValues items)
  | .object fields => table (ofFields fields)
  | value => scalar value

/-- The data of the items of a list. -/
def ofValues : List Value → List Datum
  | [] => []
  | value :: rest => ofValue value :: ofValues rest

/-- The data of the fields of an object. -/
def ofFields : List (String × Value) → List (String × Datum)
  | [] => []
  | (name, value) :: rest => (name, ofValue value) :: ofFields rest

end

/-- A text. -/
def text (s : String) : Datum := scalar (.text s)

/-- A truth value. -/
def bool (b : Bool) : Datum := scalar (.bool b)

/-- A whole number. -/
def int (n : Int) : Datum := scalar (.int n)

/-- An operation, which a template can only find to be there. -/
def operation (name : String) : Datum := thing ("<operation " ++ name ++ ">") []

mutual

/-- The text of a datum that shows its kind. -/
def literal : Datum → String
  | undefined => ""
  | scalar value => value.literal
  | list items => "[" ++ ", ".intercalate (literals items) ++ "]"
  | table entries => "\x7b" ++ ", ".intercalate (entryLiterals entries) ++ "\x7d"
  | entity attributes => "namespace(" ++ ", ".intercalate (attributeLiterals attributes) ++ ")"
  | kind name => "<class '" ++ name ++ "'>"
  | thing shown _ => shown

/-- The texts of the items of a list. -/
def literals : List Datum → List String
  | [] => []
  | item :: rest => literal item :: literals rest

/-- The texts of the entries of a table. -/
def entryLiterals : List (String × Datum) → List String
  | [] => []
  | (key, datum) :: rest => (Text.quoted key ++ ": " ++ literal datum) :: entryLiterals rest

/-- The texts of the attributes of an entity. -/
def attributeLiterals : List (String × Datum) → List String
  | [] => []
  | (name, datum) :: rest => (name ++ "=" ++ literal datum) :: attributeLiterals rest

end

/-- The text that a datum prints as. -/
def display : Datum → String
  | scalar value => value.display
  | datum => datum.literal

/-- A datum counts as given unless it is undefined, null, false, zero or empty. -/
def truthy : Datum → Bool
  | undefined => false
  | scalar value => value.truthy
  | list items => !items.isEmpty
  | table entries => !entries.isEmpty
  | _ => true

/-- The items that a datum stands for where a sequence is asked for. -/
def items? : Datum → Option (List Datum)
  | undefined => some []
  | scalar value => value.items?.map fun items => items.map scalar
  | list items => some items
  | table entries => some (entries.map fun entry => text entry.1)
  | _ => none

end Datum

end ElementWrap.Template
