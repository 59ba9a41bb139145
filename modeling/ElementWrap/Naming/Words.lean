import ElementWrap.Text.Case

/-! # Dash case and camel case

An element is named in dash case (`paper-input`) and a class in camel case (`PaperInput`). A dash is
folded only before a letter from `a` to `z`, so that unfolding, which puts a dash before every
letter from `A` to `Z` and lower-cases the word, can give a lower-case name back.
-/

namespace ElementWrap.Naming

/-- The word with every dash before an ASCII lower-case letter folded into that letter's upper
case. -/
def foldDashes : List Char → List Char
  | [] => []
  | ['-'] => ['-']
  | '-' :: c :: rest =>
    if c.isLower then c.toUpper :: foldDashes rest else '-' :: foldDashes (c :: rest)
  | c :: rest => c :: foldDashes rest

/-- The word with a dash before every ASCII upper-case letter. -/
def markCapitals (cs : List Char) : List Char :=
  cs.flatMap fun c => if c.isUpper then ['-', c] else [c]

/-- The camel case of a word, with its first character in upper case if asked for. -/
def camelChars (upperFirst : Bool) (cs : List Char) : List Char :=
  let folded := foldDashes cs
  if upperFirst then Text.upperFirst folded else folded

/-- The dash case of a word. -/
def dashChars (cs : List Char) : List Char := Text.lower (markCapitals cs)

/-- The camel case of a name. -/
def camel (upperFirst : Bool) (name : String) : String :=
  String.ofList (camelChars upperFirst name.toList)

/-- The dash case of a name. -/
def dash (name : String) : String := String.ofList (dashChars name.toList)

/-- The snake case of a name: its dash case with underscores. -/
def snake (name : String) : String :=
  String.ofList ((dashChars name.toList).map fun c => if c = '-' then '_' else c)

end ElementWrap.Naming
