import ElementWrap.Command.Arguments
import ElementWrap.Options.Loading
import ElementWrap.Terminal.Markup
import ElementWrap.Terminal.Table
import ElementWrap.Work.Build

/-! # Running a command line

A run ends with the code 0 after a successful build, 1 after a failed one and 2 where the command
line or the options are wrong. What the command line gives takes precedence over the configuration
file.
-/

namespace ElementWrap.Command

open Layout Log Terminal Work

/-- The part that reports about runs. -/
def source : String := "wc_reactor.cli"

/-- The name of the program. -/
def programName : String := "wc-reactor"

/-- The line that a wrong command line is answered with. -/
def misuseLine (message : String) : String := programName ++ ": error: " ++ message

/-- How a run ended: its code, and what it complained of in the command line. -/
structure Exit where
  code : Nat
  complaint : Option String := none
  deriving DecidableEq, Repr

/-- The value of an option that takes one argument: that argument, or the empty list if none was
left. -/
def single (taken : Option (List String)) : Value :=
  match taken with
  | none => .null
  | some [] => .list []
  | some (s :: _) => .text s

/-- The value of an option that takes many arguments. -/
def several (taken : Option (List String)) : Value :=
  taken.elim .null fun texts => .list (texts.map .text)

/-- The settings that a command line gives. -/
def Arguments.settings (arguments : Arguments) : Settings :=
  let flag (value : Bool) : Value := if value then .bool true else .null
  [("web_component", .json (arguments.webComponent.elim .null .text)),
    ("react_components", .json (several arguments.components)),
    ("dest", .json (single arguments.dest)), ("bundle", .json (flag arguments.bundle)),
    ("bundle_name", .json (single arguments.bundleName)),
    ("verbose", .json (flag arguments.verbose))]

/-- Prints a text with markup. -/
def print (markup : String) : Work Unit := do
  let shown ← lift (Markup.render markup)
  modify fun workspace =>
    { workspace with printed := workspace.printed ++ printedLines shown }

/-- Prints the table of the files that were written. -/
def printTable (files : List (String × String)) : Work Unit := do
  let rows ← lift ((("File", "Kind") :: files).mapM fun (path, kind) => do
    return (← Markup.render path, ← Markup.render kind))
  modify fun workspace =>
    { workspace with printed := workspace.printed ++ Table.lines "Generated files" rows }

/-- The files that were written, each with its kind. -/
def writtenFiles (outcome : Outcome Artifact Fault) : List (String × String) :=
  let written :=
    match Ordered.get? "written" outcome.metadata with
    | some (.list paths) => paths.map Value.display
    | _ => []
  (outcome.artifacts.zip written).map fun (artifact, path) => (path, artifact.kind.name)

/-- Prints what a successful build did. -/
def printOutcome (outcome : Outcome Artifact Fault) : Work Unit := do
  printTable (writtenFiles outcome)
  outcome.warnings.forM fun text =>
    print ("[yellow]⚠ " ++ Markup.escape text ++ "[/yellow]")
  let fact (name : String) : String :=
    ((Ordered.get? name outcome.metadata).getD .null).display
  print ("[green]✓[/green] " ++ fact "component_count" ++ " React component(s) written to " ++
    fact "dest")

/-- Builds with valid options. -/
def runBuild (options : BuildOptions) : Work Exit := do
  let outcome ← build options
  if !outcome.success then
    print ("[red]✗ " ++ Markup.escape (outcome.errorMessage.getD "") ++ "[/red]")
    return ⟨1, none⟩
  log .debug source ("Build metadata: " ++ (Value.object outcome.metadata).literal)
  printOutcome outcome
  return ⟨0, none⟩

/-- Runs a command line that was read. -/
def runArguments (arguments : Arguments) : Work Exit := do
  let config := arguments.config.bind List.head?
  match BuildOptions.load (← get).disk config arguments.settings with
  | .error (.options fault) =>
    print ("[red]✗ Error:[/red] " ++ Markup.escape fault.message)
    return ⟨2, none⟩
  | .error fault => throw fault
  | .ok options =>
    if !options.isValid then
      options.errors.forM fun fault => print ("[red]✗[/red] " ++ Markup.escape fault.message)
      return ⟨2, none⟩
    runBuild options

/-- Runs a command line. -/
def run (line : List String) : Work Exit :=
  match Arguments.parse line with
  | .error .help => pure ⟨0, none⟩
  | .error (.misuse message) => pure ⟨2, some (misuseLine message)⟩
  | .ok arguments => runArguments arguments

end ElementWrap.Command
