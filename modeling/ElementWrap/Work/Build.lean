import ElementWrap.Layout.Outcome
import ElementWrap.Options.Basic
import ElementWrap.Work.Loading
import ElementWrap.Work.Writing

/-! # Builds

A build reads an analysis document, generates the wrappers of the selected components and writes
them. Without a logger of the caller it sets up the program's log with a debug file in the working
directory, which a successful build removes again. A failure is reported and becomes the outcome of
the build; only options that are not valid stop it before.
-/

namespace ElementWrap.Work

open Layout Log

/-- The part that reports about builds. -/
def buildSource : String := "wc_reactor.reactor"

/-- The name of the debug file. -/
def debugFileName : String := "wc-reactor.log"

/-- The destination where none was chosen. -/
def defaultDestination : String := "./build"

/-- The debug file of a working directory. -/
def debugFile (home : Files.Location) : Files.Path := ⟨.root, home ++ [debugFileName]⟩

/-- The level of the log of a build. -/
def buildLevel (options : BuildOptions) : Level :=
  if options.verbose = some true then .debug else .error

/-- The one to be told about a build: the caller's logger, or else the log after it was set up. -/
def prepareReporter (options : BuildOptions) : Work Reporter :=
  match options.ownLogger with
  | some logger => pure (.own logger)
  | none => do
    setUpLog (buildLevel options) true (some (debugFile (← get).disk.home))
    return .package rootSource

/-- Starts a build: options that are not valid are reported and stop it. -/
def start (options : BuildOptions) : Work Reporter := do
  let reporter ← prepareReporter options
  options.errors.forM fun fault => error reporter fault.message
  options.warnings.forM fun text => warning reporter text
  if !options.isValid then throw (.options .invalid)
  return reporter

/-- The destination of a build. -/
def destination (options : BuildOptions) : Files.Path :=
  match options.dest with
  | some dest => .ofString (if dest = "" then defaultDestination else dest)
  | none => .ofString defaultDestination

/-- The settings of the wrappers of a build. -/
def wrapperConfig (options : BuildOptions) : Wrapper.Config :=
  { bundle := .bool (options.bundle = some true), bundleName := options.bundleName }

/-- Generates and writes the wrappers. -/
def generateAndWrite (options : BuildOptions) (reporter : Reporter) (analysis : Analysis) :
    Work (Outcome Artifact Fault) := do
  let requested := options.reactComponents.elim Value.null .list
  let outcome ← replay (generate (wrapperConfig options) analysis requested)
  let count := (Ordered.get? "component_count" outcome.metadata).getD .null
  info reporter ("Building React wrappers for " ++ count.display ++ " web components")
  outcome.warnings.forM fun text => warning reporter text
  let destination := destination options
  let written ← writeArtifacts outcome.artifacts destination reporter
  return { outcome with
    warnings := options.warnings ++ outcome.warnings
    metadata := outcome.metadata ++ [("dest", .text destination.toString),
      ("written", .list (written.map fun path => .text path.toString))] }

/-- The steps of a build that can fail. -/
def attempt (options : BuildOptions) (reporter : Reporter) : Work (Outcome Artifact Fault) := do
  let analysis ← analyze (.ofString (options.webComponent.getD "")) reporter
  generateAndWrite options reporter analysis

/-- The report that the trace of a failure stands below. -/
def failureDetails (fault : Fault) : Entry :=
  { Entry.plain .debug buildSource "Build failure details" with trace := fault.message }

/-- Reports a failure and makes it the outcome. -/
def failBuild (reporter : Reporter) (fault : Fault) : Work (Outcome Artifact Fault) := do
  let text := "Build failed: " ++ fault.message
  error reporter text
  record (failureDetails fault)
  return .failure (some text) (some fault)

/-- Takes the file handlers off the log and answers the files they wrote to. -/
def detachFiles : Work (List Files.Path) := do
  let workspace ← get
  set { workspace with journal := workspace.journal.detach }
  return workspace.journal.files

/-- Removes the debug file of a build that reported to the program's log. -/
def clearDebugFile (reporter : Reporter) : Work Unit :=
  match reporter with
  | .own _ => pure ()
  | .package _ => do
    let files ← detachFiles
    files.forM fun file => onDisk (·.removeFile file)

/-- Runs a build. -/
def build (options : BuildOptions) : Work (Outcome Artifact Fault) := do
  let reporter ← start options
  let outcome ← tryCatch (attempt options reporter) (failBuild reporter)
  if outcome.success then clearDebugFile reporter
  return outcome

end ElementWrap.Work
