import ElementWrap.Proofs.Work.Building

/-! # The log is confined to the debug file

Whatever builds were run in a working directory, and whatever happened to the disk between them, the
log writes to no file but the debug file of that directory
(`ElementWrap.Work.Reachable.confined`).
-/

namespace ElementWrap.Work

open Files Log Layout

variable {home : Location} {workspace : Workspace}

/-- A confined log stays confined. -/
def Confining (home : Location) (before after : Workspace) : Prop :=
  Confined home before → Confined home after

instance : IsPreorder Workspace (Confining home) where
  refl _ := id
  trans _ _ _ first second := second ∘ first

/-! ## Steps that change the disk -/

private theorem home_appendFile {disk after : Disk} {path : Path} {content : List UInt8}
    (appended : disk.appendFile path content = .ok after) : after.home = disk.home := by
  obtain ⟨_, _, _, _, rfl⟩ := Disk.appendFile_ok appended
  rfl

/-- The working directory stays when a file is removed. -/
theorem home_removeFile {disk after : Disk} {path : Path}
    (removed : disk.removeFile path = .ok after) : after.home = disk.home := by
  rcases Disk.removeFile_ok removed with ⟨rfl, _⟩ | ⟨_, _, _, _, rfl⟩ <;> rfl

/-! ## Builds -/

private theorem byReports_confining (home : Location) : ByReports (Confining home) :=
  byReports_of_appends (fun _ _ confined => ⟨confined.atHome, confined.files⟩)
    (fun _ _ confined => ⟨confined.atHome, confined.files⟩)
    fun _ _ _ _ _ appended confined =>
      ⟨(home_appendFile appended).trans confined.atHome, confined.files⟩

/-- A log without its file handlers writes to no file. -/
theorem files_detach (journal : Journal) : journal.detach.files = [] := by
  refine List.filterMap_eq_nil_iff.mpr fun handler member => ?_
  exact Option.isNone_iff_eq_none.mp (List.mem_filter.mp member).2

private theorem confining_clearDebugFile (reporter : Reporter) :
    Steps (Confining home) (clearDebugFile reporter) := by
  apply steps_clearDebugFile
  · intro workspace confined
    refine ⟨confined.atHome, fun file member => absurd member ?_⟩
    rw [files_detach]
    exact List.not_mem_nil
  · intro workspace path disk removed confined
    exact ⟨(home_removeFile removed).trans confined.atHome, confined.files⟩

private theorem confining_build (parentless : ".." ∉ home) (options : BuildOptions) :
    Steps (Confining home) (build options) := by
  intro workspace confined
  have prepares : Confining home workspace (prepared options workspace) :=
    fun confined => confined_prepared confined.atHome (.inr confined.files)
  have along (path : Path) : KeptAlong (Confining home) path :=
    fun _ _ changed confined => ⟨changed.keeps.home.trans confined.atHome, confined.files⟩
  exact (byReports_confining home).build (fun _ => confined.atHome ▸ parentless) prepares
    (fun path _ => (along path).writing) (confining_clearDebugFile _) confined

/-- A path leads to a file of some content. -/
def Leads (disk : Disk) (path : Path) (content : List UInt8) : Prop :=
  ∃ place, disk.follow path = .ok place ∧ disk.node? place = some (.file content)

/-- The workspaces that a process can come to work on in a working directory: the log starts out
without a file, any builds are run, and between them anything may happen to all but the log and the
working directory. A debug file that the log writes to stays as it is, though: a handler opens it by
its path once and writes to what it has opened from then on. -/
inductive Reachable (home : Location) : Workspace → Prop
  | fresh {workspace : Workspace} (atHome : workspace.disk.home = home)
    (silent : workspace.journal.files = []) : Reachable home workspace
  | built {workspace : Workspace} (before : Reachable home workspace) (options : BuildOptions) :
    Reachable home ((build options).run.run workspace).2
  | meanwhile {before after : Workspace} (reachable : Reachable home before)
    (atHome : after.disk.home = home) (log : after.journal = before.journal)
    (stays : before.journal.files ≠ [] → ∀ content, Leads before.disk (debugFile home) content →
      Leads after.disk (debugFile home) content) :
    Reachable home after

/-- **The log writes to nothing but the debug file**, whatever was built before. -/
theorem Reachable.confined (reachable : Reachable home workspace) (parentless : ".." ∉ home) :
    Confined home workspace := by
  induction reachable with
  | fresh atHome silent =>
      exact ⟨atHome, fun file member => absurd (silent ▸ member) List.not_mem_nil⟩
  | built _ options ih => exact confining_build parentless options _ ih
  | meanwhile _ atHome log _ ih => exact ⟨atHome, log ▸ ih.files⟩

end ElementWrap.Work
