import ElementWrap.Command.Run

/-! # The places that a run touches

The files that a command line reads can be told from the disk as far as it is known, and the places
that it writes are found by rehearsing the run. A disk that shows all of them is as good for the run
as the whole file system.
-/

namespace ElementWrap.Command

/-- The paths that a run reads: the configuration file and, as far as the disk shows that file, the
analysis document. -/
def readPaths (disk : Files.Disk) (line : List String) : List Files.Path :=
  match Arguments.parse line with
  | .error _ => []
  | .ok arguments =>
    let config := arguments.config.bind List.head?
    let document :=
      match BuildOptions.load disk config arguments.settings with
      | .ok options => options.webComponent
      | .error _ => none
    (config.toList ++ document.toList).map .ofString

/-- The paths that a run writes on a disk, and the debug file. -/
def writtenPaths (workspace : Workspace) (line : List String) : List Files.Path :=
  let after := ((run line).run.run workspace).2
  let places := (workspace.disk.edits after.disk).map Prod.fst
  Work.debugFile workspace.disk.home :: places.map (Files.Path.mk .root)

end ElementWrap.Command
