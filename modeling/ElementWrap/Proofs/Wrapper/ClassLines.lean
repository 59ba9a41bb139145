import ElementWrap.Proofs.Wrapper.Indentation
import ElementWrap.Wrapper.Sections

/-! # The lines of a wrapper class

A wrapper class written out line by line from the names of a component, without a template: the line
that opens it, the constructor, the callbacks of the insertion, the removal and an update, a handler
for each event, the public interface, and the method that places the element. The words in it come
from the component's names alone, so the lines do not depend on the unit of indentation.
-/

namespace ElementWrap.Wrapper

/-- The method that handles an event. -/
def handlerOf (event : String) : String := "_" ++ Naming.camel false event ++ "Event"

/-- The property that takes the callback of an event. -/
def callbackOf (event : String) : String := "on" ++ Naming.camel true event

/-- A member of the public interface: one that is read through a getter, or a method that is
forwarded with its parameters. -/
inductive Member
  | getter (name : Value)
  | forward (name : Value) (params : List Value)
  deriving Repr

/-- A property is read through a getter if it holds a function and is not inherited by every
element. -/
def memberOfProperty? (property : Property) : Option Member :=
  if property.isFunction && !property.reserved then some (.getter property.name) else none

/-- Of the exposed methods a function is forwarded and an accessor is read through a getter. -/
def memberOfMethod? (method : Method) : Option Member :=
  if method.isExposed then
    match method.kind with
    | .function => some (.forward method.name (method.params.map (·.name)))
    | .accessor => some (.getter method.name)
    | .other => none
  else none

/-- The public interface of a component, properties before methods. -/
def membersOf (component : Component) : List Member :=
  component.properties.filterMap memberOfProperty? ++ component.methods.filterMap memberOfMethod?

namespace Lines

/-- A method of a class, and the blank line behind it. -/
def method (opening : String) (statements : List Line) : List Line :=
  ⟨1, opening ++ " \x7b"⟩ :: statements ++ [⟨1, "\x7d"⟩, ⟨0, ""⟩]

/-- The line that opens a class, which a module of its own exports as the default, and the blank
line behind it. -/
def header (config : Config) (className : String) : List Line :=
  [⟨0, "export " ++ (if config.isBundle then "" else "default ") ++ "class " ++ className ++
      " extends React.Component \x7b"⟩, ⟨0, ""⟩]

/-- The constructor binds every handler to the instance. -/
def constructor (events : List String) : List Line :=
  method "constructor(props)" <|
    ⟨2, "super(props);"⟩ :: events.map fun event =>
      ⟨2, "this." ++ handlerOf event ++ " = this." ++ handlerOf event ++ ".bind(this);"⟩

/-- A listener is added or removed for each event. -/
def listeners (call : String) (events : List String) : List Line :=
  events.map fun event =>
    ⟨2, "this._refElement." ++ call ++ "('" ++ event ++ "', this." ++ handlerOf event ++ ");"⟩

/-- A property is copied onto the element under a condition. -/
def copyIf (condition property : String) : List Line :=
  [⟨2, "if (" ++ condition ++ ") \x7b"⟩,
    ⟨3, "this._refElement." ++ property ++ " = this.props." ++ property ++ ";"⟩, ⟨2, "\x7d"⟩]

/-- After the insertion the listeners are added and the properties that are set are copied. -/
def mount (events properties : List String) : List Line :=
  method "componentDidMount()" <|
    listeners "addEventListener" events ++
      properties.flatMap fun property => copyIf ("this.props." ++ property) property

/-- Before the removal the listeners are removed. -/
def unmount (events : List String) : List Line :=
  method "componentWillUnmount()" (listeners "removeEventListener" events)

/-- After an update the properties that changed are copied. -/
def update (properties : List String) : List Line :=
  method "componentDidUpdate(pp)" <|
    properties.flatMap fun property =>
      copyIf ("pp." ++ property ++ " !== this.props." ++ property) property

/-- A handler hands an event to its callback, with its detail in front. -/
def eventHandler (event : String) : List Line :=
  method (handlerOf event ++ "(e)")
    [⟨2, "if (this.props." ++ callbackOf event ++ ") \x7b"⟩,
      ⟨3, "this.props." ++ callbackOf event ++ "(e.detail, e);"⟩, ⟨2, "\x7d"⟩]

/-- A getter reads a member of the element, and a forwarding method calls the method of the element
with its parameters. -/
def ofMember : Member → List Line
  | .getter name =>
    method ("get " ++ name.display ++ "()")
      [⟨2, "return this._refElement." ++ name.display ++ ";"⟩]
  | .forward name params =>
    let listed := ", ".intercalate (params.map (·.display))
    method (name.display ++ "(" ++ listed ++ ")")
      [⟨2, "this._refElement." ++ name.display ++ "(" ++ listed ++ ");"⟩]

/-- The method that places the element and keeps a reference to it. -/
def placement (tagName : String) : List Line :=
  [⟨1, "render() \x7b"⟩, ⟨2, "return ("⟩, ⟨3, "<div>"⟩, ⟨4, "<" ++ tagName⟩,
    ⟨4, "  ref=\x7b(element) => \x7bthis._refElement = element;\x7d\x7d/>"⟩, ⟨3, "</div>"⟩,
    ⟨2, ");"⟩, ⟨1, "\x7d"⟩]

/-- The sections of a class, in order, but for the brace that closes it. -/
def sections (config : Config) (component : Component) : List (List Line) :=
  let events := component.events.map (·.name.display)
  let properties := component.bindable.map (·.name.display)
  [header config (Naming.camel true component.name.display), constructor events,
    mount events properties, unmount events, update properties, events.flatMap eventHandler,
    (membersOf component).flatMap ofMember, placement component.name.display]

end Lines

/-- The declaration of a wrapper class, written out. -/
def declaration (config : Config) (component : Component) : String :=
  writeLines config.indent (Lines.sections config component).flatten ++ "\x7d"

end ElementWrap.Wrapper
