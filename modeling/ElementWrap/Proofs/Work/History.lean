import ElementWrap.Proofs.Work.Building
import Mathlib.Data.List.Induction

/-! # Builds one after the other

The builds of a process share its log and its disk. As long as no path that they write to passes the
debug file, the working directory stays in place and no directory comes to stand where the debug
file belongs (`ElementWrap.Work.inOrder_afterBuilds`).
-/

namespace ElementWrap.Work

open Files Log Layout

variable {home : Location} {before after : Disk} {workspace first : Workspace}
  {options : BuildOptions} {history : List BuildOptions}

/-- The workspace that builds leave one after the other. -/
def afterBuilds (first : Workspace) (history : List BuildOptions) : Workspace :=
  history.foldl (fun workspace options => ((build options).run.run workspace).2) first

/-- The workspace after one build. -/
theorem afterBuilds_singleton (first : Workspace) (options : BuildOptions) :
    afterBuilds first [options] = ((build options).run.run first).2 := rfl

/-- The workspace after one more build. -/
theorem afterBuilds_concat (first : Workspace) (earlier : List BuildOptions)
    (options : BuildOptions) :
    afterBuilds first (earlier ++ [options]) =
      ((build options).run.run (afterBuilds first earlier)).2 := by
  rw [afterBuilds, List.foldl_append]
  rfl

/-- No path that a build writes to passes the debug file: it is none of them, stands above none of
them, and none of them leads through it. -/
def Avoids (home : Location) (options : BuildOptions) (workspace : Workspace) : Prop :=
  ∀ path, IsTarget options workspace path → ¬ path.Passes home (debugPlace home)

/-- Each of several builds avoids the debug file. -/
def AllAvoid (home : Location) (first : Workspace) (history : List BuildOptions) : Prop :=
  ∀ earlier options later, history = earlier ++ options :: later →
    Avoids home options (afterBuilds first earlier)

/-- Builds that all avoid the debug file do so at first. -/
theorem AllAvoid.earlier {earlier later : List BuildOptions}
    (avoid : AllAvoid home first (earlier ++ later)) : AllAvoid home first earlier := by
  rintro before options between rfl
  exact avoid before options (between ++ later) (by simp)

/-- Builds avoid the debug file if each does so wherever it starts. -/
theorem AllAvoid.of_forall
    (each : ∀ options ∈ history, ∀ workspace, Avoids home options workspace) :
    AllAvoid home first history := by
  rintro earlier options later rfl
  exact each options (by simp) (afterBuilds first earlier)

/-! ## The place of the debug file -/

/-- The working directory is in place, and where its debug file belongs stands no directory. -/
structure InOrder (home : Location) (disk : Disk) : Prop where
  atHome : disk.home = home
  led : disk.follow (debugFile home) = .ok (debugPlace home)
  free : disk.node? (debugPlace home) ≠ some .directory

private theorem InOrder.kept (inOrder : InOrder home before) (keeps : before.KeepsDirectories after)
    (back : after.node? (debugPlace home) = some .directory →
      before.node? (debugPlace home) = some .directory) : InOrder home after where
  atHome := keeps.home.trans inOrder.atHome
  led := keeps.follow inOrder.led
  free := mt back inOrder.free

/-- A file that is put leaves a working directory in order. -/
theorem InOrder.put {place : Location} (inOrder : InOrder home before)
    (free : before.node? place ≠ some .directory) (content : List UInt8) :
    InOrder home (before.put place (.file content)) :=
  inOrder.kept (Disk.keepsDirectories_put free content)
    ((Disk.keepsDirectories_of_put free content).kept _)

/-- So does a change along a path that does not pass the debug file. -/
theorem InOrder.along {path : Path} (inOrder : InOrder home before)
    (apart : ¬ path.Passes home (debugPlace home)) (changed : Disk.Along path before after) :
    InOrder home after := by
  refine inOrder.kept changed.keeps fun standing => ?_
  rwa [changed.elsewhere _ (inOrder.atHome ▸ apart)] at standing

/-- What is in order stays so. -/
def Orderly (home : Location) (before after : Workspace) : Prop :=
  InOrder home before.disk → InOrder home after.disk

instance : IsPreorder Workspace (Orderly home) where
  refl _ := id
  trans _ _ _ first second := second ∘ first

private theorem byReports_orderly (home : Location) : ByReports (Orderly home) := by
  apply byReports_of_appends
  · exact fun _ _ => id
  · exact fun _ _ => id
  · intro workspace path _ content disk appended inOrder
    obtain ⟨place, written, _, free, rfl⟩ := Disk.appendFile_ok appended
    exact inOrder.put free written

private theorem orderly_clearDebugFile (home : Location) (reporter : Reporter) :
    Steps (Orderly home) (clearDebugFile reporter) := by
  apply steps_clearDebugFile
  · exact fun _ => id
  · intro workspace path disk removed inOrder
    rcases Disk.removeFile_ok removed with ⟨rfl, _⟩ | ⟨place, content, _, held, rfl⟩
    · exact inOrder
    · exact inOrder.kept (Disk.keepsDirectories_erase held)
        ((Disk.keepsDirectories_of_erase held).kept _)

/-- A build that avoids the debug file leaves the working directory in order. -/
theorem inOrder_build (inOrder : InOrder home workspace.disk)
    (avoids : Avoids home options workspace) :
    InOrder home ((build options).run.run workspace).2.disk := by
  have parentless : ".." ∉ workspace.disk.home := inOrder.atHome ▸ parentless_of_led inOrder.led
  have prepares : Orderly home workspace (prepared options workspace) := by
    intro inOrder
    rwa [prepared_disk]
  have along (path : Path) (written : IsTarget options workspace path) :
      KeptAlong (Orderly home) path :=
    fun _ _ changed inOrder => inOrder.along (avoids path written) changed
  exact (byReports_orderly home).build (fun _ => parentless) prepares
    (fun path written => (along path written).writing) (orderly_clearDebugFile home _) inOrder

/-- **Builds that avoid the debug file leave its place in order**, one after the other. -/
theorem inOrder_afterBuilds (inOrder : InOrder home first.disk)
    (avoid : AllAvoid home first history) : InOrder home (afterBuilds first history).disk := by
  induction history using List.reverseRecOn with
  | nil => exact inOrder
  | append_singleton earlier options ih =>
      rw [afterBuilds_concat]
      exact inOrder_build (ih avoid.earlier) (avoid earlier options [] rfl)

end ElementWrap.Work
