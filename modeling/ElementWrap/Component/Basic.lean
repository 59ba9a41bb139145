import ElementWrap.Value.Equality

/-! # Components

What a wrapper has to know of an element: its events, properties and methods in the order of their
declaration. Visibility, kind and reserved names were decided when the component was read, so that
the generator only looks at flags. Names and types are kept as the values they were given as.
-/

namespace ElementWrap

/-- Who may use a member. -/
inductive Visibility
  | visible
  | hidden
  deriving DecidableEq, Repr

/-- What the declaration of a property or a method stands for. -/
inductive MemberKind
  | function
  | accessor
  | other
  deriving DecidableEq, Repr

/-- An event that the element fires. -/
structure Event where
  name : Value
  deriving Repr

/-- A declared parameter of a method. -/
structure Parameter where
  name : Value
  deriving Repr

/-- A declared property. -/
structure Property where
  name : Value
  type : Value := .null
  visibility : Visibility := .hidden
  readOnly : Bool := false
  kind : MemberKind := .other
  reserved : Bool := false
  deriving Repr

/-- The type of a callable member. -/
def functionType : String := "Function"

/-- A declared method. -/
structure Method where
  name : Value
  type : Value := .text functionType
  visibility : Visibility := .hidden
  kind : MemberKind := .function
  params : List Parameter := []
  reserved : Bool := false
  deriving Repr

/-- The public surface of an element. -/
structure Component where
  name : Value
  events : List Event := []
  properties : List Property := []
  methods : List Method := []
  deriving Repr

namespace Property

/-- The property is copied from the wrapper onto the element. -/
def isBindable (property : Property) : Bool :=
  property.visibility == .visible && property.kind != .function && !property.readOnly &&
    !property.reserved

/-- The property holds a function. -/
def isFunction (property : Property) : Bool := property.kind == .function

end Property

/-- The wrapper forwards the method to the element. -/
def Method.isExposed (method : Method) : Bool :=
  method.visibility == .visible && !method.reserved

namespace Component

/-- The first property of a name. -/
def property? (component : Component) (name : Value) : Option Property :=
  component.properties.find? (·.name.equal name)

/-- The first method of a name. -/
def method? (component : Component) (name : Value) : Option Method :=
  component.methods.find? (·.name.equal name)

/-- The properties that are copied onto the element, in declaration order. -/
def bindable (component : Component) : List Property :=
  component.properties.filter Property.isBindable

/-- The methods that are forwarded to the element, in declaration order. -/
def exposed (component : Component) : List Method :=
  component.methods.filter Method.isExposed

/-- The component has nothing that a wrapper could connect. -/
def isBare (component : Component) : Bool :=
  component.events.isEmpty && component.properties.isEmpty && component.methods.isEmpty

end Component

end ElementWrap
