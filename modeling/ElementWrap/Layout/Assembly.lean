import ElementWrap.Layout.Artifact
import ElementWrap.Log.Trace
import ElementWrap.Wrapper.Sections

/-! # Laying out classes as files

The classes of a list of components, one for each class name, either go each into a directory of its
own or all into one module. The helper declarations always come last.
-/

namespace ElementWrap.Layout

open Log Wrapper

/-- Class texts by class name, in the order in which the classes were met. -/
abbrev Classes := List (String × String)

/-- The part that reports about the layout. -/
def source : String := "wc_reactor.codegen.assembler"

/-- Runs a naming computation on a map, which the rest of the work goes on with. -/
def named (map : CaseMap) (computation : Naming α) : Traced (α × CaseMap) :=
  match computation.run.run map with
  | (.ok result, map) => pure (result, map)
  | (.error fault, _) => throw fault

/-- Adds the classes of the components to those that are there. A class that is there already is
not rendered again. -/
def renderFrom (config : Config) :
    (map : CaseMap) → (classes : Classes) → List Component → Traced (Classes × CaseMap)
  | map, classes, [] => pure (classes, map)
  | map, classes, component :: rest => do
    let (className, map) ← named map (Naming.className component.name)
    if (Ordered.get? className classes).isSome then
      Traced.report .debug source
        ("Skipping duplicate component " ++ component.name.display)
      renderFrom config map classes rest
    else
      let (text, map) ← named map (classText config component)
      renderFrom config map (classes ++ [(className, text)]) rest

/-- The classes of the components; the first of those that share a class counts. -/
def renderClasses (config : Config) (map : CaseMap) (components : List Component) :
    Traced (Classes × CaseMap) :=
  renderFrom config map [] components

/-- The files of one class: its module and the index of its directory. -/
def classArtifacts (config : Config) (fileHeader className text : String) :
    Except Fault (List Artifact) := do
  let directory := Files.Path.ofString className
  let index ← indexModule config className
  return [
    ⟨directory.join (.ofString (className ++ extension)), fileHeader ++ text, .component⟩,
    ⟨directory.join (.ofString ("index" ++ extension)), index, .index⟩]

/-- A directory for each class, and the module of the helpers. -/
def separateArtifacts (config : Config) (classes : Classes) : Except Fault (List Artifact) := do
  let fileHeader ← fileHeader config
  let artifacts ← classes.mapM fun entry => classArtifacts config fileHeader entry.1 entry.2
  return artifacts.flatten ++
    [⟨.ofString (helpersStem ++ extension), ← helpers config, .helpers⟩]

/-- One module that holds everything. -/
def bundleArtifact (config : Config) (classes : Classes) : Except Fault Artifact := do
  let fileHeader ← fileHeader config
  let body := String.join (classes.map fun entry => entry.2 ++ "\n\n")
  let helpers ← helpers config
  return ⟨.ofString (config.bundleFile extension), fileHeader ++ body ++ helpers, .bundle⟩

/-- The files of the classes in the layout that was chosen. -/
def artifactsOf (config : Config) (classes : Classes) : Except Fault (List Artifact) :=
  if config.isBundle then do return [← bundleArtifact config classes]
  else separateArtifacts config classes

/-- The files of the components. -/
def assemble (config : Config) (map : CaseMap) (components : List Component) :
    Traced (List Artifact) := do
  let (classes, _) ← renderClasses config map components
  Traced.lift (artifactsOf config classes)

end ElementWrap.Layout
