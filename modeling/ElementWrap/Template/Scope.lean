import ElementWrap.Template.Loop
import ElementWrap.Template.Syntax
import ElementWrap.Text.Compatibility

/-! # What names stand for

A template and the passes of its loops are frames inside one another. A frame knows the names that
the frames around it look up or define. It defines names of its own, such as a loop's variable, and
takes each further name that it looks up from the context. Names whose spellings are compatible
are one name within a frame, and what the last of them was given counts for all.
-/

namespace ElementWrap.Template

/-- What names stand for; of two entries for a name the first one counts. -/
abbrev Scope := List (String × Datum)

namespace Expression

/-- The name that an expression looks up. -/
def lookup? : Expression → Option String
  | name s => some s
  | bool _ => none
  | null => none
  | member of _ => of.lookup?
  | filter of _ _ => of.lookup?

end Expression

namespace Body

/-- The names that a body looks up, in order. The bodies of loops have frames of their own. -/
def lookups : Body → List String
  | done => []
  | text _ next => next.lookups
  | output value next => value.lookup?.toList ++ next.lookups
  | loop _ items _ _ next => items.lookup?.toList ++ next.lookups
  | cond condition body alternative next =>
    condition.lookup?.toList ++ body.lookups ++ alternative.lookups ++ next.lookups

/-- Whether the first mention of a name looks it up, or makes it the variable of a loop. -/
def firstLookup? (name : String) : Body → Option Bool
  | done => none
  | text _ next => next.firstLookup? name
  | output value next => lookup value <|> next.firstLookup? name
  | loop item items body alternative next =>
    (if item = name then some false else none) <|> lookup items <|> body.firstLookup? name <|>
      alternative.firstLookup? name <|> next.firstLookup? name
  | cond condition body alternative next =>
    lookup condition <|> body.firstLookup? name <|> alternative.firstLookup? name <|>
      next.firstLookup? name
where
  /-- An expression looks the name up. -/
  lookup (e : Expression) : Option Bool := if e.lookup? = some name then some true else none

/-- A body looks a name up before any loop takes it as its variable. -/
def asksFor (name : String) (body : Body) : Bool := body.firstLookup? name = some true

end Body

namespace Scope

/-- Some entry is for the name. -/
def binds (scope : Scope) (name : String) : Bool := (Ordered.get? name scope).isSome

/-- What the last of the names compatible with a name was given. -/
def settled (given : List (String × Option Datum)) (name : String) : Option Datum :=
  let form := Text.compatibleForm name.toList
  (given.reverse.find? fun entry => Text.compatibleForm entry.1.toList == form).bind (·.2)

/-- What a name of a frame shows as that lost what it stood for. -/
def lost : Datum := .thing "missing" []

/-- The scope inside a frame that defines some names and looks up others, `context` telling what the
latter stand for if the frames around do not know them. -/
def enter (context outer defined : Scope) (lookups : List String) : Scope :=
  let fresh := (lookups.filter fun name => !defined.binds name && !outer.binds name).eraseDups
  let given := defined.map (fun entry => (entry.1, some entry.2)) ++
    fresh.map fun name => (name, Ordered.get? name context)
  defined.map (fun entry => (entry.1, (settled given entry.1).getD lost)) ++
    fresh.map (fun name => (name, (settled given name).getD .undefined)) ++ outer

end Scope

end ElementWrap.Template
