import ElementWrap.Template.Rendering

/-! # Template engines

An engine finds templates by name, in memory or in a directory. Adding a template to an engine of a
directory moves the engine into memory, and the directory's templates are gone. The engine leaves it
to a language what its sources mean; the templates of this library are written in a part of it that
is known in full.
-/

namespace ElementWrap.Template

/-- A language of templates: what makes a source unusable, and what a source renders as. A template
can ask for its own name, which is none where the source was given itself, and it can go on to other
templates, which it finds by their names. -/
structure Language (Given : Type) where
  defect? : (source : String) → Option TemplateFault
  render : (find : String → Option String) → (name : Option String) → (source : String) → Given →
    Except TemplateFault String
  unusable : ∀ {source fault}, defect? source = some fault →
    ∀ find name given, render find name source given = .error fault

/-- The fault of a result. -/
def faultOf? : Except TemplateFault α → Option TemplateFault
  | .ok _ => none
  | .error fault => some fault

/-- The part of the language that the templates of this library are written in. A source that goes
beyond it is taken for malformed, whatever the language as a whole makes of it. -/
def Language.known : Language Context where
  defect? source := faultOf? (Body.compile source.toList)
  render _ name source context := renderSource source name context
  unusable := by
    intro source fault defect find name context
    unfold renderSource
    cases compiled : Body.compile source.toList with
    | ok body => rw [compiled] at defect; exact nomatch defect
    | error other =>
        rw [compiled] at defect
        cases defect
        rfl

/-- Where an engine finds templates: under their very names, or as files below a directory. -/
inductive Backing
  | memory
  | directory
  deriving DecidableEq, Repr

/-- An engine with its templates. Those of a directory are known by their paths below it. -/
structure Engine where
  backing : Backing
  templates : List (String × String)
  deriving DecidableEq, Repr

namespace Engine

/-- An engine without templates. -/
def empty : Engine := ⟨.memory, []⟩

/-- The path below a directory that a name stands for: empty and single-dot steps are passed over,
and no name leads upwards. -/
def fileName? (name : String) : Option String :=
  let steps := name.toList.splitOn '/'
  if steps.contains ['.', '.'] then none
  else
    match steps.filter fun step => !(step.isEmpty || step == ['.']) with
    | [] => none
    | steps => some (String.ofList (['/'].intercalate steps))

/-- The source that a name stands for. -/
def source? (engine : Engine) (name : String) : Option String :=
  match engine.backing with
  | .memory => Ordered.get? name engine.templates
  | .directory =>
    match fileName? name with
    | some file => Ordered.get? file engine.templates
    | none => none

/-- Adds a template under a name. -/
def add (engine : Engine) (name source : String) : Engine :=
  match engine.backing with
  | .memory => { engine with templates := Ordered.put name source engine.templates }
  | .directory => ⟨.memory, [(name, source)]⟩

/-- The fault of a name that stands for no source. -/
def missing (engine : Engine) (name : String) : TemplateFault :=
  match engine.backing with
  | .memory => .missing name
  | .directory => .noFile name

section Language

variable {Given : Type} (language : Language Given)

/-- A name stands for a template of a language; one that is there but unusable is a fault. -/
def containsWith (engine : Engine) (name : String) : Except Fault Bool :=
  match engine.source? name with
  | none => .ok false
  | some source =>
    match language.defect? source with
    | none => .ok true
    | some fault => .error (.badTemplate fault)

/-- Renders the template of a name. -/
def renderWith (engine : Engine) (name : String) (given : Given) : Except Fault String :=
  match engine.source? name with
  | none => .error (.rendering name (engine.missing name))
  | some source =>
    (language.render engine.source? (some name) source given).mapError (.rendering name)

/-- Renders a source that is given itself. -/
def renderStringWith (engine : Engine) (source : String) (given : Given) : Except Fault String :=
  (language.render engine.source? none source given).mapError (.rendering "string")

end Language

/-- A name stands for a template. -/
def contains (engine : Engine) (name : String) : Except Fault Bool :=
  engine.containsWith .known name

/-- Renders the template of a name. -/
def render (engine : Engine) (name : String) (context : Context) : Except Fault String :=
  engine.renderWith .known name context

/-- Renders a source that is given itself. -/
def renderString (engine : Engine) (source : String) (context : Context) : Except Fault String :=
  engine.renderStringWith .known source context

end Engine

end ElementWrap.Template
