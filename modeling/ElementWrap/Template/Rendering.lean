import ElementWrap.Template.Acceptance

/-! # Rendering a template

The text of a template in a context, by way of the scopes of its frames. A context can not say what
the template itself is, and what it says of the names that every template knows takes the place of
those.
-/

namespace ElementWrap.Template

/-- What a template is given. -/
abbrev Context := Scope

/-- The attribute that the filter lists by default. -/
def defaultAttribute : String := "name"

/-- The names that every template knows. -/
def commonNames : Scope :=
  [("range", .kind "range"), ("dict", .kind "dict"), ("lipsum", .operation "lipsum"),
    ("cycler", .kind "jinja2.utils.Cycler"), ("joiner", .kind "jinja2.utils.Joiner"),
    ("namespace", .kind "jinja2.utils.Namespace")]

/-- What a template stands for inside itself; a source that is given itself has no name. -/
def selfReference (name : Option String) : Datum :=
  .thing ("<TemplateReference " ++ (name.map Text.quoted).getD "None" ++ ">") []

namespace Expression

/-- The datum that an expression stands for. -/
def evaluate (scope : Scope) : Expression → Except TemplateFault Datum
  | name s => .ok ((Ordered.get? s scope).getD .undefined)
  | bool b => .ok (.bool b)
  | null => .ok (.scalar .null)
  | member of key => do
    match (← of.evaluate scope).member? key with
    | some datum => .ok datum
    | none => .error .evaluation
  | filter of word arguments => do
    let datum ← of.evaluate scope
    if word = joinFilter && arguments.length ≤ 1 then
      match datum.joinNames (arguments.headD defaultAttribute) with
      | .ok s => .ok (.text s)
      | .error _ => .error .evaluation
    else .error .evaluation

end Expression

namespace Body

/-- What a loop defines for a pass through its body. -/
def loopScope (item : String) (body : Body) (items : List Datum) (datum : Datum) (index : Nat) :
    Scope :=
  (item, datum) ::
    if body.asksForState then [(loopName, .loopState items index)] else []

/-- The text of a body in a scope. -/
def render (context : Context) : Scope → Body → Except TemplateFault String
  | _, done => .ok ""
  | scope, text s next => return s ++ (← render context scope next)
  | scope, output value next => do
    let shown := (← value.evaluate scope).display
    return shown ++ (← render context scope next)
  | scope, loop item items body alternative next => do
    let shown ←
      match (← items.evaluate scope).items? with
      | none => throw .evaluation
      | some [] => render context (.enter context scope [] alternative.lookups) alternative
      | some data => do
        let texts ← data.zipIdx.mapM fun (datum, index) =>
          render context
            (.enter context scope (loopScope item body data datum index) body.lookups) body
        pure (String.join texts)
    return shown ++ (← render context scope next)
  | scope, cond condition body alternative next => do
    let shown ←
      if (← condition.evaluate scope).truthy then render context scope body
      else render context scope alternative
    return shown ++ (← render context scope next)

/-- The text of the template of a name, or of a source that is given itself, in a context. -/
def renderIn (context : Context) (name : Option String) (body : Body) :
    Except TemplateFault String :=
  if context.binds selfName then .error .evaluation
  else
    let known := context ++ commonNames
    let defined := body.ownNames.map fun own => (own, selfReference name)
    body.render known (.enter known [] defined body.lookups)

end Body

/-- The text of a source in a context. -/
def renderSource (source : String) (name : Option String) (context : Context) :
    Except TemplateFault String := do
  (← Body.compile source.toList).renderIn context name

end ElementWrap.Template
