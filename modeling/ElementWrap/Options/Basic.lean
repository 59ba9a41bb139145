import ElementWrap.Naming.Words
import ElementWrap.Work.Basic

/-! # Build options

Raw options are named settings whose names may be in camel case. They are checked as a whole: every
fault is noted, and only options without a fault are taken over. A logger that lacks a method is
dropped with a warning. A setting that is null counts as not given.
-/

namespace ElementWrap

/-- The value of a setting: a value of a document, or a logger of the caller. -/
inductive Setting
  | json (value : Value)
  | logger (logger : OwnLogger)
  deriving Repr

/-- The kinds of settings. -/
inductive SettingKind
  | string
  | array
  | boolean
  | number
  | object
  deriving DecidableEq, Repr

/-- The name of a kind. -/
def SettingKind.name : SettingKind → String
  | .string => "String"
  | .array => "Array"
  | .boolean => "Boolean"
  | .number => "Number"
  | .object => "Object"

namespace Setting

/-- The setting is not given. -/
def isNull : Setting → Bool
  | json .null => true
  | _ => false

/-- The setting counts as given. -/
def truthy : Setting → Bool
  | json value => value.truthy
  | logger own => own.truthy

/-- The kind of a setting; what is neither text, list, truth value nor number is an object. -/
def kind : Setting → SettingKind
  | json (.bool _) => .boolean
  | json (.text _) => .string
  | json (.list _) => .array
  | json (.int _) => .number
  | json (.real _) => .number
  | _ => .object

/-- A method can be called on the setting. -/
def canCall (setting : Setting) (method : String) : Bool :=
  match setting with
  | logger own => own.methods.contains method && !own.attributes.contains method
  | json _ => false

end Setting

/-- Named settings in the order in which they were given. -/
abbrev Settings := List (String × Setting)

namespace Settings

/-- The settings of an object. What does not count as given has none. -/
def ofValue (value : Value) : Except Fault Settings :=
  if value.truthy then
    match value with
    | .object fields => .ok (fields.map fun field => (field.1, .json field.2))
    | _ => .error .noAttribute
  else .ok []

/-- The settings with a logger of the caller among them. -/
def withLogger (settings : Settings) (logger : OwnLogger) : Settings :=
  Ordered.put "logger" (.logger logger) settings

/-- The settings with their names in snake case. Of settings that come to share a name the last one
counts, where the first one stood. -/
def translate (settings : Settings) : Settings :=
  Ordered.ofList (settings.map fun entry => (Naming.snake entry.1, entry.2))

/-- Writes all settings of the second list into the first. -/
def update (base : Settings) (entries : Settings) : Settings :=
  entries.foldl (fun result entry => Ordered.put entry.1 entry.2 result) base

/-- The setting of a name. -/
def get? (settings : Settings) (name : String) : Option Setting := Ordered.get? name settings

end Settings

/-- The options with the kinds of their settings. -/
def knownOptions : List (String × SettingKind) :=
  [("web_component", .string), ("react_components", .array), ("verbose", .boolean),
    ("logger", .object), ("dest", .string), ("bundle", .boolean), ("bundle_name", .string)]

/-- The methods that a logger needs. -/
def loggerMethods : List String := ["info", "warning", "error"]

/-- A fault of options. -/
inductive OptionError
  | unknown (names : List String)
  | mismatch (name : String) (expected actual : SettingKind)
  | componentRequired
  deriving DecidableEq, Repr

/-- The wording of a fault. -/
def OptionError.message : OptionError → String
  | .unknown names =>
    (if names.length = 1 then "Unknown option: " else "Unknown options: ") ++
      ", ".intercalate names
  | .mismatch name expected actual =>
    "Type mismatch. Property " ++ name ++ " expected to be a " ++ expected.name ++ " but " ++
      actual.name ++ " was given"
  | .componentRequired => "\"web_component\" property is required"

/-- The options of a build. Options with a fault carry nothing but a logger. -/
structure BuildOptions where
  webComponent : Option String := none
  reactComponents : Option (List Value) := none
  verbose : Option Bool := some false
  logger : Option OwnLogger := none
  dest : Option String := none
  bundle : Option Bool := some false
  bundleName : Option String := none
  errors : List OptionError := []
  warnings : List String := []
  deriving Repr

namespace BuildOptions

/-- The names among the settings that are no options. -/
def unknownNames (settings : Settings) : List String :=
  (settings.map Prod.fst).filter fun name => (Ordered.get? name knownOptions).isNone

/-- The mismatch of a setting, if it is an option, is given and has the wrong kind. -/
def mismatch? (entry : String × Setting) : Option OptionError :=
  match Ordered.get? entry.1 knownOptions with
  | none => none
  | some expected =>
    if entry.2.isNull || entry.2.kind = expected then none
    else some (.mismatch entry.1 expected entry.2.kind)

/-- The faults of settings: unknown names, wrong kinds in the order of the settings, and a missing
component file. -/
def errorsOf (settings : Settings) : List OptionError :=
  let unknown := unknownNames settings
  let given := ((settings.get? "web_component").elim false Setting.truthy)
  (if unknown.isEmpty then [] else [.unknown unknown]) ++ settings.filterMap mismatch? ++
    (if given then [] else [.componentRequired])

/-- The methods that a logger lacks. -/
def missingMethods (logger : Setting) : List String :=
  loggerMethods.filter fun method => !logger.canCall method

/-- The warnings about the logger among the settings. -/
def warningsOf (settings : Settings) : List String :=
  match settings.get? "logger" with
  | none => []
  | some logger =>
    let missing := missingMethods logger
    if logger.isNull || missing.isEmpty then []
    else ["Used logger is missing required functions: " ++ ", ".intercalate missing]

/-- The logger among the settings, if it can be used. -/
def loggerOf (settings : Settings) : Option OwnLogger :=
  match settings.get? "logger" with
  | some (.logger own) => if (missingMethods (.logger own)).isEmpty then some own else none
  | _ => none

/-- A text among the settings. -/
def textOf (settings : Settings) (name : String) : Option String :=
  match settings.get? name with
  | some (.json (.text s)) => some s
  | _ => none

/-- A truth value among the settings; one that is not there is false. -/
def boolOf (settings : Settings) (name : String) : Option Bool :=
  match settings.get? name with
  | none => some false
  | some (.json (.bool b)) => some b
  | _ => none

/-- A list among the settings. -/
def listOf (settings : Settings) (name : String) : Option (List Value) :=
  match settings.get? name with
  | some (.json (.list items)) => some items
  | _ => none

/-- The options that settings stand for. -/
def ofSettings (raw : Settings) : BuildOptions :=
  let settings := raw.translate
  let errors := errorsOf settings
  let warnings := warningsOf settings
  let logger := loggerOf settings
  if errors.isEmpty then
    { webComponent := textOf settings "web_component"
      reactComponents := listOf settings "react_components"
      verbose := boolOf settings "verbose"
      logger
      dest := textOf settings "dest"
      bundle := boolOf settings "bundle"
      bundleName := textOf settings "bundle_name"
      errors, warnings }
  else { logger, errors, warnings }

/-- The logger that a build reports to. One that counts as false is passed over. -/
def ownLogger (options : BuildOptions) : Option OwnLogger := options.logger.filter (·.truthy)

/-- The options have no fault. -/
def isValid (options : BuildOptions) : Bool := options.errors.isEmpty

/-- The options that are set, the logger aside, in a fixed order. -/
def toFields (options : BuildOptions) : List (String × Value) :=
  let field (name : String) (value : Option Value) : Option (String × Value) :=
    value.map fun value => (name, value)
  [field "web_component" (options.webComponent.map .text),
    field "react_components" (options.reactComponents.map .list),
    field "verbose" (options.verbose.map .bool),
    field "dest" (options.dest.map .text),
    field "bundle" (options.bundle.map .bool),
    field "bundle_name" (options.bundleName.map .text)].filterMap id

end BuildOptions

end ElementWrap
