import ElementWrap.Command.Footprint
import Std.Time.Format

/-! # The program

The outer layer: it shows a disk the places of the file system that the run touches, runs the
command line on that disk, and carries out what the run changed and printed.
-/

namespace ElementWrap.Command

/-- The line that is printed where help is asked for. -/
def usage : String :=
  "usage: " ++ programName ++ " [-h] [--components NAME [NAME ...]] [--dest DIR] [--bundle] " ++
    "[--bundle-name FILE] [--config FILE] [--verbose] [ANALYSIS]"

/-- The name that the operating system knows a place by. -/
def placeName (location : Files.Location) : String := "/" ++ "/".intercalate location

/-- What the file system has at a place whose directory is there. -/
def probe (location : Files.Location) : IO (Option Files.Node) := do
  if location = [] then return some .directory
  try
    return some (.file (← IO.FS.readBinFile (placeName location)).data.toList)
  catch error =>
    match error with
    | .inappropriateType .. => return some .directory
    | _ => return none

/-- Shows a disk the places that steps lead through. -/
def showSteps (disk : Files.Disk) (place : Files.Location) : List String → IO Files.Disk
  | [] => return disk
  | step :: rest => do
    let next := if step = ".." then place.dropLast else place ++ [step]
    match ← probe next with
    | none => return disk
    | some (.file content) => return disk.put next (.file content)
    | some .directory =>
      let disk := if next = [] then disk else disk.put next .directory
      showSteps disk next rest

/-- Shows a disk the places that paths lead through. -/
def showPaths (disk : Files.Disk) : List Files.Path → IO Files.Disk
  | [] => return disk
  | path :: rest => do
    let start := if path.anchor = .relative then disk.home else []
    showPaths (← showSteps disk start path.steps) rest

/-- The workspace of a run in the current directory. -/
def workspaceOf (line : List String) : IO Workspace := do
  let here := Files.Path.ofString (toString (← IO.currentDir))
  let now ← Std.Time.PlainDateTime.now
  let stamp := now.format "uuuu-MM-dd HH:mm:ss,SSS"
  let disk ← showPaths ⟨[], here.steps⟩ [here]
  let disk ← showPaths disk (readPaths disk line)
  let disk ← showPaths disk (readPaths disk line)
  let disk ← showPaths disk (writtenPaths { disk, clock := fun _ => stamp } line)
  return { disk, clock := fun _ => stamp }

/-- Does to the file system what was done to the disk. -/
def carryOut (edit : Files.Location × Option Files.Node) : IO Unit :=
  let name := placeName edit.1
  match edit.2 with
  | some .directory => IO.FS.createDirAll name
  | some (.file content) => IO.FS.writeBinFile name ⟨content.toArray⟩
  | none => IO.FS.removeFile name

/-- Reports the end of a run and answers its code. -/
def close : Except Fault Exit → IO UInt32
  | .ok exit => do
    exit.complaint.forM IO.eprintln
    return exit.code.toUInt32
  | .error fault => do
    IO.eprintln (programName ++ ": " ++ fault.message)
    return 1

end ElementWrap.Command

open ElementWrap ElementWrap.Command

/-- Runs the command line in the current directory. -/
def main (line : List String) : IO UInt32 := do
  if let .error .help := Arguments.parse line then IO.println usage
  let workspace ← workspaceOf line
  let (answer, after) := (run line).run.run workspace
  (workspace.disk.edits after.disk).forM carryOut
  after.printed.forM fun text => IO.println text
  close answer
