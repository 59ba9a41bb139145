import ElementWrap.Files.Path

/-! # Generated files -/

namespace ElementWrap.Layout

/-- What a generated file is for. A file of another kind is written without a message. -/
inductive ArtifactKind
  | component
  | index
  | helpers
  | bundle
  | other (name : String)
  deriving DecidableEq, Repr

/-- The name of a kind. -/
def ArtifactKind.name : ArtifactKind → String
  | .component => "component"
  | .index => "index"
  | .helpers => "helpers"
  | .bundle => "bundle"
  | .other name => name

/-- The kind of a name. -/
def ArtifactKind.ofName (name : String) : ArtifactKind :=
  if name = "component" then .component
  else if name = "index" then .index
  else if name = "helpers" then .helpers
  else if name = "bundle" then .bundle
  else .other name

/-- A generated file, its path seen from the destination of the build. -/
structure Artifact where
  path : Files.Path
  content : String
  kind : ArtifactKind
  deriving DecidableEq, Repr

end ElementWrap.Layout
