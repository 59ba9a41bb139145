import ElementWrap.Files.Disk
import ElementWrap.Log.Journal

/-! # Work on a disk under a log

The state that the program works on: a disk, the log, and what the caller's own logger was told. It
survives a failure.
-/

namespace ElementWrap

/-- What the program works on. `heard` are the messages that the caller's logger was given, each
with the method that was called, and `printed` the lines that went to the terminal. `clock` has the
time stamps of the log's entries, one for each in their order. A directory is made with those above
it if at most `depth` of them are missing: each is one call inside another, and the calls that are
under way leave room for no more. -/
structure Workspace where
  disk : Files.Disk
  journal : Log.Journal := {}
  heard : List (String × String) := []
  printed : List String := []
  clock : Nat → String := fun _ => "2000-01-01 00:00:00,000"
  depth : Nat := 988

/-- A step of work. -/
abbrev Work (α : Type) := ExceptT Fault (StateM Workspace) α

/-- A logger of the caller: the methods that can be called on it, what it has besides, and whether
it counts as true. -/
structure OwnLogger where
  methods : List String
  attributes : List String := []
  truthy : Bool := true
  deriving DecidableEq, Repr

/-- Who is told about the progress: a part of the program's log, or the caller's logger. -/
inductive Reporter
  | package (source : String)
  | own (logger : OwnLogger)
  deriving DecidableEq, Repr

namespace Work

open Log

/-- A result that does not touch the workspace. -/
def lift (result : Except Fault α) : Work α := ExceptT.mk (pure result)

/-- Replaces the disk by the result of an operation on it. -/
def onDisk (operation : Files.Disk → Except Fault Files.Disk) : Work Unit := do
  let workspace ← get
  let disk ← lift (operation workspace.disk)
  set { workspace with disk }

/-- Runs an operation that leaves a disk even where it fails. -/
def onDiskAlways (operation : Files.Disk → Except Fault α × Files.Disk) : Work α := do
  let workspace ← get
  let (answer, disk) := operation workspace.disk
  set { workspace with disk }
  lift answer

/-- The part of the log that all others belong to. -/
def rootSource : String := "wc_reactor"

/-- A part belongs to the program: the one that all belong to, and those below it. -/
def reports (source : String) : Bool :=
  source == rootSource || (rootSource ++ ".").toList.isPrefixOf source.toList

/-- Sets up the log. A file is taken from the working directory on. -/
def setUpLog (level : Level) (terminal : Bool) (file : Option Files.Path) : Work Unit :=
  modify fun workspace =>
    { workspace with
      journal := workspace.journal.setUp level terminal (file.map workspace.disk.absolute) }

/-- Hands an entry to handlers. A file that can not be opened is a failure. -/
def handle (stamp : String) (entry : Entry) : List Handler → Work Unit
  | [] => pure ()
  | handler :: rest => do
    match handler with
    | .file level path =>
      if level.value ≤ entry.level.value then
        onDisk (·.appendFile path (entry.bytes stamp))
    | _ => pure ()
    handle stamp entry rest

/-- Makes an entry in the log, if the log's level lets it through. -/
def record (entry : Entry) : Work Unit := do
  let workspace ← get
  let journal := workspace.journal
  if journal.admits entry.level then
    set { workspace with journal := { journal with records := journal.records ++ [entry] } }
    handle (workspace.clock journal.records.length) entry journal.handlers

/-- Makes an entry of a level. -/
def log (level : Level) (source text : String) : Work Unit := record (.plain level source text)

/-- Makes the entries of a computation in the log, one after the other, then takes its result. -/
def replay (computation : Traced α) : Work α := do
  let (result, entries) := computation.outcome
  entries.forM record
  lift result

/-- Calls a method of the caller's logger. -/
def call (logger : OwnLogger) (method text : String) : Work Unit :=
  if logger.attributes.contains method then throw .wrongType
  else if logger.methods.contains method then
    modify fun workspace => { workspace with heard := workspace.heard ++ [(method, text)] }
  else throw .noAttribute

/-- Reports progress. -/
def info : Reporter → String → Work Unit
  | .package source, text => log .info source text
  | .own logger, text => call logger "info" text

/-- Reports something worth a look. -/
def warning : Reporter → String → Work Unit
  | .package source, text => log .warning source text
  | .own logger, text => call logger "warning" text

/-- Reports a failure. -/
def error : Reporter → String → Work Unit
  | .package source, text => log .error source text
  | .own logger, text => call logger "error" text

end Work

end ElementWrap
