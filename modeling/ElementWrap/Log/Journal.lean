import ElementWrap.Files.Path
import ElementWrap.Log.Trace

/-! # The program's log

The log has a level and handlers. An entry whose level lets it through is recorded and goes to every
handler; the handler of a file writes it as a line that opens with a time stamp, unless the line has
no encoding, and it creates the file only with the first entry.
-/

namespace ElementWrap.Log

/-- Where entries go: nowhere, to the terminal, or into a file. -/
inductive Handler
  | quiet
  | terminal (level : Level)
  | file (level : Level) (path : Files.Path)
  deriving DecidableEq, Repr

namespace Handler

/-- The level from which on a handler takes entries. -/
def level : Handler → Level
  | quiet => .unset
  | terminal level => level
  | file level _ => level

/-- The file that a handler writes to. -/
def file? : Handler → Option Files.Path
  | file _ path => some path
  | _ => none

end Handler

/-- The log: its level, its handlers and the entries that it let through, oldest first. -/
structure Journal where
  level : Level := .debug
  handlers : List Handler := [.quiet]
  records : List Entry := []
  deriving DecidableEq, Repr

namespace Journal

/-- The level that applies: where none was chosen it is that of all logs. -/
def effectiveLevel (journal : Journal) : Level :=
  if journal.level = .unset then .warning else journal.level

/-- An entry of a level is let through. -/
def admits (journal : Journal) (level : Level) : Bool :=
  decide (journal.effectiveLevel.value ≤ level.value)

/-- Chooses the level and replaces the handlers: one for the terminal and one for a file, each only
if asked for. -/
def setUp (journal : Journal) (level : Level) (terminal : Bool) (file : Option Files.Path) :
    Journal :=
  { journal with
    level
    handlers := (if terminal then [.terminal level] else []) ++
      (file.map fun path => Handler.file level path).toList }

/-- The log without its file handlers. -/
def detach (journal : Journal) : Journal :=
  { journal with handlers := journal.handlers.filter fun handler => handler.file?.isNone }

/-- The files that the log writes to. -/
def files (journal : Journal) : List Files.Path := journal.handlers.filterMap Handler.file?

end Journal

/-- The line of an entry in a file. -/
def Entry.line (stamp : String) (entry : Entry) : String :=
  let level := entry.level.name
  let padding := String.ofList (List.replicate (8 - level.length) ' ')
  stamp ++ " " ++ level ++ padding ++ " " ++ entry.source ++ ": " ++ entry.text ++ "\n"

/-- What an entry leaves in a file: its line, while the trace below it is left out of account. It
leaves nothing if its line or its trace has no encoding. -/
def Entry.bytes (stamp : String) (entry : Entry) : List UInt8 :=
  if Text.Utf8.isEncodable (entry.line stamp ++ entry.trace) then
    Text.Utf8.encode (entry.line stamp)
  else []

end ElementWrap.Log
