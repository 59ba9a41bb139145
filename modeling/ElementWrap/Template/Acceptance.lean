import ElementWrap.Template.Scope

/-! # Templates that can be used

A well-formed template can be used if its filters are known, no loop takes the name of the state of
loops for its variable, and it keeps within the limits: on tags inside one another, on loops inside
one another, and on members and filters in a row. The one filter is `join_names`. Right inside a
conditional another filter makes nothing unusable; it fails once it is reached.
-/

namespace ElementWrap.Template

/-- The name of the filter that lists the names of items. -/
def joinFilter : String := "join_names"

/-- The deepest nesting of tags. -/
def levelLimit : Nat := 98

/-- The deepest nesting of loops. -/
def loopLimit : Nat := 20

/-- The deepest nesting of an expression. -/
def nestingLimit : Nat := 200

namespace Expression

/-- An expression uses a filter that is not known. -/
def hasUnknownFilter : Expression → Bool
  | member of _ => of.hasUnknownFilter
  | filter of word _ => word != joinFilter || of.hasUnknownFilter
  | _ => false

/-- How deep an expression is nested: each member and each filter is one level, and two more are for
a name that is none of the `defined` ones and so may be missing. -/
def nesting (defined : List String) : Expression → Nat
  | name s => if defined.contains s then 0 else 2
  | bool _ => 0
  | null => 0
  | member of _ => of.nesting defined + 1
  | filter of _ _ => of.nesting defined + 1

end Expression

namespace Body

/-- A body uses an unknown filter outside a conditional, `lenient` telling whether it is the body of
one itself. -/
def hasUnknownFilter : (lenient : Bool) → Body → Bool
  | _, done => false
  | lenient, text _ next => hasUnknownFilter lenient next
  | lenient, output value next =>
    (!lenient && value.hasUnknownFilter) || hasUnknownFilter lenient next
  | lenient, loop _ items body alternative next =>
    (!lenient && items.hasUnknownFilter) || hasUnknownFilter false body ||
      hasUnknownFilter false alternative || hasUnknownFilter lenient next
  | lenient, cond _ body alternative next =>
    hasUnknownFilter true body || hasUnknownFilter true alternative ||
      hasUnknownFilter lenient next

/-- Some loop of a body has the name for its variable. -/
def assigns (name : String) : Body → Bool
  | done => false
  | text _ next => next.assigns name
  | output _ next => next.assigns name
  | loop item _ body alternative next =>
    item == name || body.assigns name || alternative.assigns name || next.assigns name
  | cond _ body alternative next =>
    body.assigns name || alternative.assigns name || next.assigns name

/-- How many loops of a body are inside one another. -/
def loopNesting : Body → Nat
  | done => 0
  | text _ next => next.loopNesting
  | output _ next => next.loopNesting
  | loop _ _ body alternative next =>
    max (body.loopNesting + 1) (max alternative.loopNesting next.loopNesting)
  | cond _ body alternative next =>
    max body.loopNesting (max alternative.loopNesting next.loopNesting)

/-- The body of a loop asks for the state of the loop. -/
def asksForState (body : Body) : Bool := body.asksFor loopName

/-- The names that a loop defines for its body. -/
def loopNames (item : String) (body : Body) : List String :=
  if body.asksForState then [item, loopName] else [item]

/-- The first place that is beyond the limits on tags and expressions, where `levels` tags are
around a body and the `defined` names are those of the loops around it. -/
def excess? (defined : List String) (levels : Nat) : Body → Option TemplateFault
  | done => none
  | text _ next => next.excess? defined levels
  | output value next =>
    if nestingLimit < value.nesting defined + 1 then some .longExpression
    else next.excess? defined levels
  | loop item items body alternative next =>
    if nestingLimit < items.nesting defined + (if body.asksForState then 1 else 0) then
      some .longExpression
    else if levelLimit ≤ levels then some .deepLevels
    else
      body.excess? (loopNames item body ++ defined) (levels + 1) <|>
        alternative.excess? defined (levels + 1) <|> next.excess? defined levels
  | cond condition body alternative next =>
    if nestingLimit < condition.nesting defined then some .longExpression
    else if levelLimit ≤ levels then some .deepLevels
    else
      body.excess? defined (levels + 1) <|> alternative.excess? defined (levels + 1) <|>
        next.excess? defined levels

end Body

/-- The name that stands for the template itself. -/
def selfName : String := "self"

namespace Body

/-- The names that a template defines for itself. -/
def ownNames (body : Body) : List String := if body.asksFor selfName then [selfName] else []

/-- What makes a body unusable. -/
def defect? (body : Body) : Option TemplateFault :=
  if body.hasUnknownFilter false then some .unknownFilter
  else if body.assigns loopName then some .reservedVariable
  else
    body.excess? body.ownNames 0 <|>
      if loopLimit < body.loopNesting then some .deepLoops else none

/-- The body of a usable template. -/
def compile (source : List Char) : Except TemplateFault Body :=
  match ofChars? source with
  | none => .error .malformed
  | some body =>
    match body.defect? with
    | some fault => .error fault
    | none => .ok body

end Body

end ElementWrap.Template
