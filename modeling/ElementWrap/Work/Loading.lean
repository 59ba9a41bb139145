import ElementWrap.Analysis.Document
import ElementWrap.Json.Reader
import ElementWrap.Text.Newline
import ElementWrap.Work.Basic

/-! # Loading documents

A file is read as UTF-8, its line breaks are unified and its text is read as JSON. A missing,
unreadable or malformed file is a failed load; bytes that are no UTF-8, integers beyond the limit
and containers nested too deep are failures of their own.
-/

namespace ElementWrap

/-- Why a file does not hold a value. -/
inductive JsonFileFault
  | unreadable (refusal : Files.Refusal)
  | malformed (fault : Json.Malformed)
  | other (fault : Fault)

/-- The value that bytes hold. -/
def valueOfBytes (content : List UInt8) : Except JsonFileFault Value :=
  match Text.Utf8.decode content with
  | .error fault => .error (.other (.undecodable fault))
  | .ok text =>
    match Json.read (Text.unifyNewlines text) with
    | .ok value => .ok value
    | .error (.malformed fault) => .error (.malformed fault)
    | .error (.hugeInteger digits) => .error (.other (.hugeInteger digits))
    | .error (.tooDeep container) => .error (.other (.deepDocument container))

/-- The value that a file holds. -/
def valueOfFile (disk : Files.Disk) (path : Files.Path) : Except JsonFileFault Value :=
  match disk.readFile path with
  | .ok content => valueOfBytes content
  | .error (.refused refusal _) => .error (.unreadable refusal)
  | .error fault => .error (.other fault)

namespace Work

open Log

/-- The part that reports about loading. -/
def loadingSource : String := "wc_reactor.utils"

/-- The part that reports about analyses. -/
def analyzerSource : String := "wc_reactor.analyzer"

/-- Reports a failed load and fails. -/
def failLoad (fault : LoadFault) : Work α := do
  log .error loadingSource fault.message
  throw (.loading fault)

/-- Loads the value of a file. -/
def loadValue (path : Files.Path) : Work Value := do
  let name := path.toString
  log .debug loadingSource ("Attempting to load JSON from file: " ++ name)
  if !(← lift ((← get).disk.contains path)) then failLoad (.notFound name)
  if !path.isJson then
    log .warning loadingSource ("File does not have .json extension: " ++ name)
  match valueOfFile (← get).disk path with
  | .ok value =>
    log .info loadingSource ("Successfully loaded JSON from " ++ name)
    return value
  | .error (.malformed fault) => failLoad (.malformed name fault)
  | .error (.unreadable refusal) => failLoad (.unreadable name refusal)
  | .error (.other fault) => throw fault

/-- Loads an analysis document. -/
def loadAnalysis (path : Files.Path) : Work Analysis := do
  lift (Analysis.ofValue (← loadValue path))

/-- Loads the analysis document of a build. -/
def analyze (path : Files.Path) (reporter : Reporter) : Work Analysis := do
  info reporter "Analyzing Polymer components"
  loadAnalysis path

end Work

end ElementWrap
