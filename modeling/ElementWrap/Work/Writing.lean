import ElementWrap.Layout.Artifact
import ElementWrap.Work.Basic

/-! # Writing artifacts

Artifacts are written in order below a destination, and the directories on the way are made. What
was written before a failure stays.
-/

namespace ElementWrap.Work

open Layout Log

/-- The part that reports about writing. -/
def writingSource : String := "wc_reactor.codegen.assembler"

/-- What is said before an artifact is written. -/
def announcement? (artifact : Artifact) (target : Files.Path) : Option String :=
  match artifact.kind with
  | .helpers => some "Creating helper module..."
  | .bundle => some ("Creating React bundle file... " ++ target.toString)
  | .component => some ("Creating React files for " ++ artifact.path.parent.toString ++ "...")
  | _ => none

/-- Makes a directory and those that lead to it. -/
def makeDirectories (path : Files.Path) : Work Unit := do
  let depth := (← get).depth
  onDiskAlways (·.ensureDirectories depth path)

/-- Writes an artifact and answers where. -/
def writeArtifact (destination : Files.Path) (reporter : Reporter) (artifact : Artifact) :
    Work Files.Path := do
  let target := destination.join artifact.path
  match announcement? artifact target with
  | some text => info reporter text
  | none => pure ()
  makeDirectories target.parent
  onDiskAlways (·.writeText target artifact.content)
  log .debug writingSource ("Wrote " ++ target.toString)
  return target

/-- Writes artifacts and answers where, in order. -/
def writeArtifacts (artifacts : List Artifact) (destination : Files.Path) (reporter : Reporter) :
    Work (List Files.Path) := do
  let written ← artifacts.mapM (writeArtifact destination reporter)
  info reporter "React components ready"
  return written

end ElementWrap.Work
