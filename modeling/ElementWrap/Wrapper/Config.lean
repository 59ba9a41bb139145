import ElementWrap.Value.Basic

/-! # Settings of a wrapper build -/

namespace ElementWrap.Wrapper

/-- The stem of the bundle's file name where none was chosen. -/
def defaultBundleStem : String := "WebComponents"

/-- The stem of the file name of the helper module. -/
def helpersStem : String := "WebComponentsImports"

/-- The target component model. -/
def language : String := "react"

/-- The extension of the generated files. -/
def extension : String := ".js"

/-- What changes the generated files: whether all classes go into one module, that module's file
name, and the unit of indentation. The choice of the layout is kept as it was given. -/
structure Config where
  bundle : Value := .bool false
  bundleName : Option String := none
  indent : String := "\t"
  deriving Repr

namespace Config

/-- All classes go into one module. -/
def isBundle (config : Config) : Bool := config.bundle.truthy

/-- The file name of the bundle. -/
def bundleFile (config : Config) (extension : String) : String :=
  match config.bundleName with
  | some name => if name = "" then defaultBundleStem ++ extension else name
  | none => defaultBundleStem ++ extension

end Config

end ElementWrap.Wrapper
