import ElementWrap.Options.Basic
import ElementWrap.Work.Loading

/-! # Options from a configuration file

A configuration file holds an object of settings. Settings that are given beside it take precedence
unless they are null.
-/

namespace ElementWrap.BuildOptions

/-- The settings of a configuration file. -/
def settingsOfFile (disk : Files.Disk) (path : Files.Path) : Except Fault Settings := do
  let name := path.toString
  if !(← disk.contains path) then throw (.options (.notFound name))
  if !path.isJson then throw (.options (.notJson name))
  match valueOfFile disk path with
  | .ok (.object fields) => return fields.map fun field => (field.1, .json field.2)
  | .ok _ => throw (.options (.notObject name))
  | .error (.malformed fault) => throw (.options (.malformed name fault))
  | .error (.unreadable refusal) => throw (.options (.unreadable name refusal))
  | .error (.other fault) => throw fault

/-- The settings of a configuration file, under their snake-case names, with those that take
precedence written over them. -/
def mergedSettings (configured overrides : Settings) : Settings :=
  (Settings.update [] configured.translate).update
    (Settings.translate (overrides.filter fun entry => !entry.2.isNull))

/-- The options of a configuration file, if one is named, and of the settings that take precedence
over it. -/
def load (disk : Files.Disk) (file : Option String) (overrides : Settings) :
    Except Fault BuildOptions := do
  let configured ←
    match file with
    | none => pure []
    | some name => if name = "" then pure [] else settingsOfFile disk (.ofString name)
  return ofSettings (mergedSettings configured overrides)

end ElementWrap.BuildOptions
