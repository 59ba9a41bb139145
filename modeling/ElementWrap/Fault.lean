import ElementWrap.Files.Refusal
import ElementWrap.Json.Fault
import ElementWrap.Text.Utf8
import ElementWrap.Value.Display

/-! # Causes of failure

Every operation of the library that can fail does so with one of these causes, and `message` gives
the wording of each. Where a value of an unsuitable kind meets an operation, only the class of the
failure is told.
-/

namespace ElementWrap

/-- Why an analysis document was not loaded. -/
inductive LoadFault
  | notFound (path : String)
  | malformed (path : String) (fault : Json.Malformed)
  | unreadable (path : String) (refusal : Files.Refusal)
  | notObject
  deriving DecidableEq, Repr

/-- Why options were not accepted. -/
inductive OptionsFault
  | notFound (path : String)
  | notJson (path : String)
  | malformed (path : String) (fault : Json.Malformed)
  | unreadable (path : String) (refusal : Files.Refusal)
  | notObject (path : String)
  | invalid
  deriving DecidableEq, Repr

/-- What is wrong with a template. -/
inductive TemplateFault
  | missing (name : String)
  | noFile (name : String)
  | malformed
  | unknownFilter
  | reservedVariable
  | deepLevels
  | deepLoops
  | longExpression
  | evaluation
  deriving DecidableEq, Repr

/-- Why an operation failed. -/
inductive Fault
  | wrongType
  | noAttribute
  | missingKey (key : String)
  | emptyName
  | unsupportedKind (kind : Value)
  | unknownLevel (name : String)
  | nullByte
  | hugeInteger (digits : Nat)
  | deepDocument (container : Json.Container)
  | deepDirectories
  | undecodable (fault : Text.Utf8.Malformed)
  | unencodable (fault : Text.Utf8.Unencodable)
  | refused (refusal : Files.Refusal) (path : String)
  | emptySelection
  | notFound (name : Value)
  | ambiguous (name : Value)
  | badTemplate (fault : TemplateFault)
  | rendering (template : String) (fault : TemplateFault)
  | loading (fault : LoadFault)
  | options (fault : OptionsFault)
  | markup
  deriving Repr

/-- The wording of a refused file operation. -/
def refusalMessage (refusal : Files.Refusal) (path : String) : String :=
  "[Errno " ++ toString refusal.number ++ "] " ++ refusal.description ++ ": " ++ Text.quoted path

/-- The wording of a failed load. -/
def LoadFault.message : LoadFault → String
  | .notFound path => "File not found: " ++ path
  | .malformed path fault => "Invalid JSON in file " ++ path ++ ": " ++ fault.message
  | .unreadable path refusal => "Error reading file " ++ path ++ ": " ++ refusalMessage refusal path
  | .notObject => "Analysis document must be a JSON object"

/-- The wording of refused options. -/
def OptionsFault.message : OptionsFault → String
  | .notFound path => "Configuration file not found: " ++ path
  | .notJson path => "Configuration file must be JSON: " ++ path
  | .malformed path fault =>
    "Invalid JSON in configuration file " ++ path ++ ": " ++ fault.message
  | .unreadable path refusal =>
    "Failed to load configuration file " ++ path ++ ": " ++ refusalMessage refusal path
  | .notObject path => "Configuration file must contain a JSON object: " ++ path
  | .invalid => "Options did not pass validation."

/-- The wording of a fault of a template: a missing one is told by its name. -/
def TemplateFault.message : TemplateFault → String
  | .missing name => name
  | .noFile name => name ++ " not found in the template directory"
  | .malformed => "malformed template"
  | .unknownFilter => "unknown filter"
  | .reservedVariable => "the state of a loop can not be assigned"
  | .deepLevels => "too many levels of tags"
  | .deepLoops => "too many loops inside one another"
  | .longExpression => "too long an expression"
  | .evaluation => "evaluation failed"

/-- The wording of a failure. -/
def Fault.message : Fault → String
  | .wrongType => "<TypeError>"
  | .noAttribute => "<AttributeError>"
  | .missingKey key => Text.quoted key
  | .emptyName => "Component name must not be empty"
  | .unsupportedKind kind => "Unsupported feature kind: " ++ kind.display
  | .unknownLevel name => "Unknown level: " ++ Text.quoted name
  | .nullByte => "embedded null byte"
  | .hugeInteger digits => (Json.Fault.hugeInteger digits).message
  | .deepDocument container => (Json.Fault.tooDeep container).message
  | .deepDirectories => "maximum recursion depth exceeded while calling a Python object"
  | .undecodable fault => fault.message
  | .unencodable fault => fault.message
  | .refused refusal path => refusalMessage refusal path
  | .emptySelection => "Unknown list of components to reactify."
  | .notFound name => "Component " ++ name.display ++ " couldn't be found."
  | .ambiguous name => "More than one analysis returned for " ++ name.display
  | .badTemplate fault => fault.message
  | .rendering template fault =>
    "Failed to render template " ++ template ++ ": " ++ fault.message
  | .loading fault => fault.message
  | .options fault => fault.message
  | .markup => "unbalanced markup"

end ElementWrap
