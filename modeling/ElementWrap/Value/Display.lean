import ElementWrap.Value.Basic
import ElementWrap.Decimal.Shortest
import ElementWrap.Text.Quoted

/-! # The text of a value

`literal` writes a value so that its kind shows: texts are quoted and containers bracketed.
`display` writes it as part of a sentence: a text stands for itself.
-/

namespace ElementWrap.Value

/-- Numbers have a point or an exponent, which is written from `1e16` on and below `1e-4`. -/
def numberLayout : Decimal.Layout := ⟨-4, 15, 2⟩

mutual

/-- The text of a value that shows its kind. -/
def literal : Value → String
  | null => "None"
  | bool b => if b then "True" else "False"
  | int n => toString n
  | real x => String.ofList (numberLayout.writeNumber x)
  | text s => Text.quoted s
  | list items => "[" ++ ", ".intercalate (literalList items) ++ "]"
  | object fields => "\x7b" ++ ", ".intercalate (literalFields fields) ++ "\x7d"

/-- The texts of the members of a list. -/
def literalList : List Value → List String
  | [] => []
  | item :: rest => literal item :: literalList rest

/-- The texts of the fields of an object. -/
def literalFields : List (String × Value) → List String
  | [] => []
  | (name, value) :: rest => (Text.quoted name ++ ": " ++ literal value) :: literalFields rest

end

/-- The text of a value within a sentence. -/
def display : Value → String
  | text s => s
  | value => value.literal

end ElementWrap.Value
