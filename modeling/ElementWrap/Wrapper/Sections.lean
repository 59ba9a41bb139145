import ElementWrap.Component.Basic
import ElementWrap.Naming.CaseMap
import ElementWrap.Template.Engine
import ElementWrap.Wrapper.Config
import ElementWrap.Wrapper.Indent
import ElementWrap.Wrapper.Source

/-! # The sections of a wrapper class

Each section is a template rendered in a context of the component's names and then indented. The
class is its sections one after the other with a closing brace.
-/

namespace ElementWrap.Wrapper

open Template

/-- The files of the template directory. -/
def templateFiles : List (String × String) :=
  [("api.js.j2", Source.api), ("class_header.js.j2", Source.classHeader),
    ("constructor.js.j2", Source.constructor), ("event_handlers.js.j2", Source.eventHandlers),
    ("file_header.js.j2", Source.fileHeader), ("helpers.js.j2", Source.helpers),
    ("index.js.j2", Source.index), ("mount_callback.js.j2", Source.mount),
    ("render.js.j2", Source.render), ("unmount_callback.js.j2", Source.unmount),
    ("update_callback.js.j2", Source.update)]

/-- The engine of the template directory. -/
def engine : Engine := ⟨.directory, templateFiles⟩

/-- Renders a template of the directory and indents the result. -/
def renderTemplate (config : Config) (template : String) (context : Context) :
    Except Fault String := do
  return reindent config.indent (← engine.render template context)

/-- Renders in a context that takes naming. -/
def renderNamed (config : Config) (template : String) (context : Naming Context) :
    Naming String := do
  ExceptT.mk (pure (renderTemplate config template (← context)))

/-- What a template knows of an event. -/
def eventDatum (event : Event) : Naming Datum := do
  let handler ← Naming.handlerName event.name
  let callback ← Naming.callbackName event.name
  return .table [("name", .ofValue event.name), ("handler", .text handler),
    ("callback", .text callback)]

/-- What a template knows of the events. -/
def eventsContext (component : Component) : Naming Context := do
  return [("events", .list (← component.events.mapM eventDatum))]

/-- What a template knows of the bindable properties. -/
def propertiesContext (component : Component) : Context :=
  [("properties",
    .list (component.bindable.map fun property => .entity [("name", .ofValue property.name)]))]

/-- A member that is read through a getter. -/
def getterDatum (name : Value) : Datum := .table [("name", .ofValue name), ("getter", .bool true)]

/-- What a template knows of a property: one that holds a function has a getter. -/
def propertyDatum? (property : Property) : Option Datum :=
  if property.isFunction && !property.reserved then some (getterDatum property.name) else none

/-- What a template knows of a method: a function is forwarded, an accessor has a getter. -/
def methodDatum? (method : Method) : Option Datum :=
  if !method.isExposed then none
  else
    match method.kind with
    | .function => some (.table [("name", .ofValue method.name), ("getter", .bool false),
        ("params",
          .list (method.params.map fun param => .entity [("name", .ofValue param.name)]))])
    | .accessor => some (getterDatum method.name)
    | .other => none

/-- What a template knows of the public interface, properties before methods. -/
def membersContext (component : Component) : Context :=
  [("members",
    .list (component.properties.filterMap propertyDatum? ++
      component.methods.filterMap methodDatum?))]

/-- The line that opens the class. -/
def header (config : Config) (name : Value) : Naming String :=
  renderNamed config "class_header.js.j2" do
    return [("class_name", .text (← Naming.className name)),
      ("export_default", .bool (!config.isBundle))]

/-- The constructor. -/
def constructorMethod (config : Config) (component : Component) : Naming String :=
  renderNamed config "constructor.js.j2" (eventsContext component)

/-- The callback of the insertion. -/
def mountCallback (config : Config) (component : Component) : Naming String :=
  renderNamed config "mount_callback.js.j2" do
    return (← eventsContext component) ++ propertiesContext component

/-- The callback of the removal. -/
def unmountCallback (config : Config) (component : Component) : Naming String :=
  renderNamed config "unmount_callback.js.j2" (eventsContext component)

/-- The callback of an update. -/
def updateCallback (config : Config) (component : Component) : Naming String :=
  renderNamed config "update_callback.js.j2" (pure (propertiesContext component))

/-- The event handlers. -/
def eventHandlers (config : Config) (component : Component) : Naming String :=
  renderNamed config "event_handlers.js.j2" (eventsContext component)

/-- The public interface. -/
def publicInterface (config : Config) (component : Component) : Naming String :=
  renderNamed config "api.js.j2" (pure (membersContext component))

/-- The method that places the element. -/
def renderMethod (config : Config) (name : Value) : Naming String :=
  renderNamed config "render.js.j2" (pure [("tag_name", .ofValue name)])

/-- The sections of a class, in order. -/
def sections (config : Config) (component : Component) : List (Naming String) :=
  [header config component.name, constructorMethod config component,
    mountCallback config component, unmountCallback config component,
    updateCallback config component, eventHandlers config component,
    publicInterface config component, renderMethod config component.name, pure "\x7d"]

/-- The declaration of the wrapper class of a component. -/
def classText (config : Config) (component : Component) : Naming String := do
  return String.join (← (sections config component).mapM id)

/-- The import that opens every module. -/
def fileHeader (config : Config) : Except Fault String :=
  renderTemplate config "file_header.js.j2" []

/-- The module that exports a class under its directory. -/
def indexModule (config : Config) (className : String) : Except Fault String :=
  renderTemplate config "index.js.j2" [("class_name", .text className)]

/-- The helper declarations. -/
def helpers (config : Config) : Except Fault String := renderTemplate config "helpers.js.j2" []

/-- What is worth a warning in the components still to be looked at, given the names of those
before: a name that was seen, and a component that has nothing to connect. -/
def warningsFrom : (seen : List Value) → List Component → Except Fault (List String)
  | _, [] => .ok []
  | seen, component :: rest => do
    if !component.name.isKey then throw .wrongType
    let title := "Component '" ++ component.name.display ++ "' "
    let repeated :=
      if seen.any (·.same component.name) then [title ++ "was selected more than once"] else []
    let bare :=
      if component.isBare then [title ++ "exposes no events, properties or methods"] else []
    return repeated ++ bare ++ (← warningsFrom (component.name :: seen) rest)

/-- What is worth a warning in components that are about to be generated. -/
def warnings (components : List Component) : Except Fault (List String) :=
  warningsFrom [] components

end ElementWrap.Wrapper
