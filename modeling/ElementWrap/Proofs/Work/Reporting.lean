import ElementWrap.Proofs.Files.Disk
import ElementWrap.Proofs.Running
import ElementWrap.Work.Build

/-! # Reporting leaves the work alone

Progress is reported to the log or to the caller's logger. As long as the log writes to no file but
the debug file of the working directory, a report changes nothing on the disk but that file
(`ElementWrap.Work.Reported`), and it succeeds if the debug file is no directory
(`ElementWrap.Work.ReportsOnly`).
-/

namespace ElementWrap

/-- Every method that progress is reported through can be called on the logger of a caller. -/
def Reporter.Usable : Reporter → Prop
  | .package _ => True
  | .own logger => ∀ method ∈ loggerMethods,
      logger.methods.contains method = true ∧ logger.attributes.contains method = false

namespace Work

open Files Log

/-! ## Single steps -/

/-- A result that is lifted is the result, and leaves the workspace as it is. -/
theorem run_lift (result : Except Fault α) (workspace : Workspace) :
    (lift result).run.run workspace = (result, workspace) := rfl

/-- An operation on the disk replaces the disk, or it fails and leaves it as it is. -/
theorem run_onDisk (operation : Disk → Except Fault Disk) (workspace : Workspace) :
    (onDisk operation).run.run workspace =
      match operation workspace.disk with
      | .ok disk => (.ok (), { workspace with disk })
      | .error fault => (.error fault, workspace) := by
  have led : (onDisk operation).run.run workspace =
      (lift (operation workspace.disk) >>= fun disk =>
        set { workspace with disk } : Work Unit).run.run workspace := rfl
  rw [led, run_bind]
  cases operation workspace.disk <;> rfl

/-- An operation that leaves a disk replaces the disk either way. -/
theorem run_onDiskAlways (operation : Disk → Except Fault α × Disk) (workspace : Workspace) :
    (onDiskAlways operation).run.run workspace =
      ((operation workspace.disk).1, { workspace with disk := (operation workspace.disk).2 }) := rfl

/-- A file handler writes the entries of its level and above, and the other handlers follow. -/
theorem run_handle_file (stamp : String) (entry : Entry) (level : Level) (path : Path)
    (rest : List Handler) (workspace : Workspace) :
    (handle stamp entry (.file level path :: rest)).run.run workspace =
      if level.value ≤ entry.level.value then
        (onDisk (·.appendFile path (entry.bytes stamp)) >>= fun _ =>
          handle stamp entry rest).run.run workspace
      else (handle stamp entry rest).run.run workspace := by
  conv => lhs; unfold handle
  simp only
  split <;> rfl

/-- Handlers without a file do nothing on the disk. -/
theorem run_handle_silent (stamp : String) (entry : Entry) {handlers : List Handler}
    (silent : handlers.filterMap Handler.file? = []) (workspace : Workspace) :
    (handle stamp entry handlers).run.run workspace = (.ok (), workspace) := by
  induction handlers with
  | nil => rfl
  | cons handler rest ih =>
      cases handler with
      | quiet => exact ih silent
      | terminal level => exact ih silent
      | file level path => exact absurd silent (List.cons_ne_nil path _)

/-- An entry that is let through is noted and handed to the handlers. -/
theorem run_record (entry : Entry) (workspace : Workspace) :
    (record entry).run.run workspace =
      if workspace.journal.admits entry.level then
        (handle (workspace.clock workspace.journal.records.length) entry
            workspace.journal.handlers).run.run
          { workspace with
            journal := { workspace.journal with records := workspace.journal.records ++ [entry] } }
      else (.ok (), workspace) := by
  unfold record
  change (if workspace.journal.admits entry.level then _ else _ : Work Unit).run.run workspace = _
  split <;> rfl

/-- A method that can be called hears its message. -/
theorem run_call {logger : OwnLogger} {method : String}
    (offered : logger.methods.contains method = true)
    (callable : logger.attributes.contains method = false) (text : String)
    (workspace : Workspace) :
    (call logger method text).run.run workspace =
      (.ok (), { workspace with heard := workspace.heard ++ [(method, text)] }) := by
  unfold call
  rw [callable, offered]
  rfl

/-! ## What is put together from reports -/

/-- A relation that every single report keeps, whoever it is made to. -/
structure ByReports (related : Workspace → Workspace → Prop) : Prop where
  record : ∀ entry, Steps related (record entry)
  call : ∀ logger method text, Steps related (call logger method text)

namespace ByReports

variable {related : Workspace → Workspace → Prop}

/-- An entry of a level keeps what entries keep. -/
theorem log (reports : ByReports related) (level : Level) (source text : String) :
    Steps related (log level source text) := reports.record (.plain level source text)

/-- Progress keeps what reports keep, whoever is told. -/
theorem info (reports : ByReports related) (reporter : Reporter) (text : String) :
    Steps related (info reporter text) := by
  cases reporter with
  | package source => exact reports.log .info source text
  | own logger => exact reports.call logger "info" text

/-- So does a warning. -/
theorem warning (reports : ByReports related) (reporter : Reporter) (text : String) :
    Steps related (warning reporter text) := by
  cases reporter with
  | package source => exact reports.log .warning source text
  | own logger => exact reports.call logger "warning" text

/-- So does an error. -/
theorem error (reports : ByReports related) (reporter : Reporter) (text : String) :
    Steps related (error reporter text) := by
  cases reporter with
  | package source => exact reports.log .error source text
  | own logger => exact reports.call logger "error" text

/-- So do all entries of a computation. -/
theorem replay [IsPreorder Workspace related] (reports : ByReports related)
    (computation : Traced α) : Steps related (replay computation) :=
  (Steps.forM fun entry _ => reports.record entry).bind fun _ => .lift _

end ByReports

section Steps

variable {related : Workspace → Workspace → Prop} [IsPreorder Workspace related]

/-- An operation on the disk keeps what its changes keep. -/
theorem steps_onDisk {operation : Disk → Except Fault Disk}
    (changes : ∀ workspace disk, operation workspace.disk = .ok disk →
      related workspace { workspace with disk }) : Steps related (onDisk operation) := by
  intro workspace
  rw [run_onDisk]
  cases done : operation workspace.disk with
  | error fault => exact refl_of related workspace
  | ok disk => exact changes workspace disk done

/-- Reports note entries, speak to the logger of the caller and write behind the files of the log;
what all of this keeps, they keep. -/
theorem byReports_of_appends
    (notes : ∀ workspace records,
      related workspace { workspace with journal := { workspace.journal with records } })
    (hears : ∀ workspace heard, related workspace { workspace with heard })
    (appends : ∀ workspace, ∀ path ∈ workspace.journal.files, ∀ content disk,
      workspace.disk.appendFile path content = .ok disk →
        related workspace { workspace with disk }) : ByReports related where
  record entry := by
    -- The handlers see the log that they belong to while the disk changes under them.
    have handles (stamp : String) (handlers : List Handler) : ∀ workspace : Workspace,
        (∀ file ∈ handlers.filterMap Handler.file?, file ∈ workspace.journal.files) →
          related workspace ((handle stamp entry handlers).run.run workspace).2 := by
      induction handlers with
      | nil => exact fun workspace _ => refl_of related workspace
      | cons handler rest ih =>
          intro workspace listed
          cases handler with
          | quiet => exact ih workspace listed
          | terminal level => exact ih workspace listed
          | file level path =>
              obtain ⟨here, later⟩ := List.forall_mem_cons.mp listed
              rw [run_handle_file]
              split
              · rw [run_bind, run_onDisk]
                cases done : workspace.disk.appendFile path (entry.bytes stamp) with
                | error fault => exact refl_of related workspace
                | ok disk =>
                    exact trans_of related (appends workspace path here _ disk done)
                      (ih { workspace with disk } later)
              · exact ih workspace later
    intro workspace
    rw [run_record]
    split
    · have noted := notes workspace (workspace.journal.records ++ [entry])
      exact trans_of related noted (handles _ workspace.journal.handlers _ fun _ => id)
    · exact refl_of related workspace
  call logger method text := by
    unfold call
    split
    · exact .throw _
    · split
      · exact fun workspace => hears workspace _
      · exact .throw _

end Steps

/-! ## The debug file -/

/-- The place of the debug file of a working directory. -/
def debugPlace (home : Location) : Location := home ++ [debugFileName]

/-- Two disks are one but for the debug file, which is a directory on both or on none. -/
structure Scribbled (home : Location) (before after : Disk) : Prop where
  sameHome : after.home = before.home
  elsewhere : ∀ place, place ≠ debugPlace home → after.node? place = before.node? place
  debug : after.node? (debugPlace home) = some .directory ↔
    before.node? (debugPlace home) = some .directory

namespace Scribbled

variable {home : Location} {before between after disk : Disk}

/-- A disk is itself under nothing scribbled. -/
theorem refl (home : Location) (disk : Disk) : Scribbled home disk disk :=
  ⟨rfl, fun _ _ => rfl, Iff.rfl⟩

/-- What is scribbled twice is scribbled. -/
theorem trans (first : Scribbled home before between) (second : Scribbled home between after) :
    Scribbled home before after where
  sameHome := second.sameHome.trans first.sameHome
  elsewhere place other := (second.elsewhere place other).trans (first.elsewhere place other)
  debug := second.debug.trans first.debug

/-- What is scribbled can be taken away. -/
theorem symm (scribbled : Scribbled home before after) : Scribbled home after before where
  sameHome := scribbled.sameHome.symm
  elsewhere place other := (scribbled.elsewhere place other).symm
  debug := scribbled.debug.symm

/-- Directories stay under what is scribbled. -/
theorem keepsDirectories (scribbled : Scribbled home before after) :
    before.KeepsDirectories after := by
  refine ⟨scribbled.sameHome, fun place standing => ?_⟩
  by_cases same : place = debugPlace home
  · subst same
    exact scribbled.debug.mpr standing
  · rw [scribbled.elsewhere place same, standing]

private theorem put_file (noDirectory : disk.node? (debugPlace home) ≠ some .directory)
    (content : List UInt8) : Scribbled home disk (disk.put (debugPlace home) (.file content)) where
  sameHome := rfl
  elsewhere _ other := Disk.node?_put_of_ne other
  debug := by
    rw [Disk.node?_put_self (Disk.ne_root_of_node? noDirectory)]
    exact iff_of_false (by simp) noDirectory

end Scribbled

/-- What is written behind the debug file is a file, unless there is a directory. -/
theorem appendFile_debugFile {home : Location} {disk : Disk}
    (led : disk.follow (debugFile home) = .ok (debugPlace home)) (content : List UInt8) :
    (disk.node? (debugPlace home) = some .directory ∧
      ∃ fault, disk.appendFile (debugFile home) content = .error fault) ∨
    ∃ after, disk.appendFile (debugFile home) content = .ok after ∧ Scribbled home disk after := by
  unfold Disk.appendFile
  rw [led]
  simp only [bind, Except.bind]
  cases held : disk.node? (debugPlace home) with
  | none => exact .inr ⟨_, rfl, .put_file (by simp [held]) content⟩
  | some node =>
      cases node with
      | directory => exact .inl ⟨rfl, _, rfl⟩
      | file before => exact .inr ⟨_, rfl, .put_file (by simp [held]) _⟩

/-! ## Reports -/

/-- A workspace works in a directory, and its log writes to no file but the debug file there. -/
structure Confined (home : Location) (workspace : Workspace) : Prop where
  atHome : workspace.disk.home = home
  files : ∀ file ∈ workspace.journal.files, file = debugFile home

/-- The working directory is in place. -/
structure Tidy (home : Location) (workspace : Workspace) : Prop extends
    Confined home workspace where
  led : workspace.disk.follow (debugFile home) = .ok (debugPlace home)

/-- What the log writes can be written. -/
structure Ready (home : Location) (workspace : Workspace) : Prop extends Tidy home workspace where
  writable : workspace.journal.files = [] ∨
    workspace.disk.node? (debugPlace home) ≠ some .directory

/-- What reports leave: the disks are one but for the debug file, the log has its handlers, and one
that writes to no file has left the disk alone. -/
structure Reported (home : Location) (before after : Workspace) : Prop where
  disk : Scribbled home before.disk after.disk
  handlers : after.journal.handlers = before.journal.handlers
  silent : before.journal.files = [] → after.disk = before.disk

/-- A workspace in order is left with reports only. -/
def Reporting (home : Location) (before after : Workspace) : Prop :=
  Tidy home before → Reported home before after

section Reported

variable {home : Location} {before between after workspace : Workspace}

/-- The log writes to the files that it did before. -/
theorem Reported.files (reported : Reported home before after) :
    after.journal.files = before.journal.files := by
  rw [Journal.files, Journal.files, reported.handlers]

/-- No report leaves a workspace as it is. -/
theorem Reported.refl (home : Location) (workspace : Workspace) :
    Reported home workspace workspace :=
  ⟨.refl home workspace.disk, rfl, fun _ => rfl⟩

/-- Reports after reports are reports. -/
theorem Reported.trans (first : Reported home before between)
    (second : Reported home between after) : Reported home before after where
  disk := first.disk.trans second.disk
  handlers := second.handlers.trans first.handlers
  silent none := (second.silent (first.files.trans none)).trans (first.silent none)

/-- A working directory in place is so after reports. -/
theorem Tidy.reported (tidy : Tidy home before) (reported : Reported home before after) :
    Tidy home after where
  atHome := reported.disk.sameHome.trans tidy.atHome
  led := reported.disk.keepsDirectories.follow tidy.led
  files := reported.files ▸ tidy.files

/-- What the log writes can be written after reports. -/
theorem Ready.reported (ready : Ready home before) (reported : Reported home before after) :
    Ready home after where
  toTidy := ready.toTidy.reported reported
  writable := by
    rw [reported.files, Ne, reported.disk.debug]
    exact ready.writable

instance : IsPreorder Workspace (Reporting home) where
  refl workspace _ := .refl home workspace
  trans _ _ _ first second tidy :=
    (first tidy).trans (second (tidy.reported (first tidy)))

/-- A computation makes nothing but reports, and it succeeds where they can be written. -/
structure ReportsOnly (home : Location) (computation : Work Unit) : Prop where
  steps : Steps (Reporting home) computation
  succeeds : ∀ workspace, Ready home workspace → (computation.run.run workspace).1 = .ok ()

namespace ReportsOnly

variable {computation next : Work Unit}

/-- Reports succeed where they can be written, and leave a log that can be written. -/
theorem run (reports : ReportsOnly home computation) (ready : Ready home workspace) :
    ∃ after, computation.run.run workspace = (.ok (), after) ∧ Reported home workspace after ∧
      Ready home after := by
  have reported := reports.steps workspace ready.toTidy
  exact ⟨_, Prod.ext (reports.succeeds workspace ready) rfl, reported, ready.reported reported⟩

/-- Doing nothing makes only reports. -/
theorem pure : ReportsOnly home (Pure.pure ()) := ⟨.pure (), fun _ _ => rfl⟩

/-- Reports after reports are only reports. -/
theorem bind (first : ReportsOnly home computation) (second : ReportsOnly home next) :
    ReportsOnly home (computation >>= fun _ => next) := by
  refine ⟨first.steps.bind fun _ => second.steps, fun workspace ready => ?_⟩
  obtain ⟨between, ran, _, readyNext⟩ := first.run ready
  rw [run_bind_ok ran]
  exact second.succeeds between readyNext

/-- So are reports for each item of a list. -/
theorem forM {items : List α} {step : α → Work Unit}
    (each : ∀ item ∈ items, ReportsOnly home (step item)) :
    ReportsOnly home (items.forM step) := by
  induction items with
  | nil => exact pure
  | cons item rest ih =>
      exact (each item List.mem_cons_self).bind <|
        ih fun other member => each other (List.mem_cons_of_mem item member)

end ReportsOnly

end Reported

/-! ## Entries of the log -/

section Entries

variable {home : Location} {workspace after : Workspace}

/-- What handlers do with an entry: they write to the debug file at most, and they fail only if that
is a directory. -/
theorem run_handle (stamp : String) (entry : Entry) {handlers : List Handler}
    (led : workspace.disk.follow (debugFile home) = .ok (debugPlace home))
    (files : ∀ file ∈ handlers.filterMap Handler.file?, file = debugFile home) :
    ∃ disk, ((handle stamp entry handlers).run.run workspace).2 = { workspace with disk } ∧
      Scribbled home workspace.disk disk ∧
      (handlers.filterMap Handler.file? = [] → disk = workspace.disk) ∧
      (handlers.filterMap Handler.file? = [] ∨
          workspace.disk.node? (debugPlace home) ≠ some .directory →
        ((handle stamp entry handlers).run.run workspace).1 = .ok ()) := by
  induction handlers generalizing workspace with
  | nil => exact ⟨workspace.disk, rfl, .refl home _, fun _ => rfl, fun _ => rfl⟩
  | cons handler rest ih =>
      cases handler with
      | quiet => exact ih led files
      | terminal level => exact ih led files
      | file level path =>
          obtain rfl : path = debugFile home := files path List.mem_cons_self
          have filesRest : ∀ file ∈ rest.filterMap Handler.file?, file = debugFile home :=
            fun file member => files file (List.mem_cons_of_mem _ member)
          rw [run_handle_file]
          split
          · rw [run_bind, run_onDisk]
            rcases appendFile_debugFile led (entry.bytes stamp) with
              ⟨standing, fault, refused⟩ | ⟨written, appended, scribbled⟩
            · rw [refused]
              refine ⟨workspace.disk, rfl, .refl home _, fun _ => rfl, fun writable => ?_⟩
              exact absurd standing (writable.resolve_left (List.cons_ne_nil _ _))
            · rw [appended]
              have ledNext : ({ workspace with disk := written } : Workspace).disk.follow
                  (debugFile home) = .ok (debugPlace home) :=
                scribbled.keepsDirectories.follow led
              obtain ⟨disk, ran, more, _, succeeds⟩ := ih ledNext filesRest
              refine ⟨disk, ran, scribbled.trans more,
                fun none => absurd none (List.cons_ne_nil _ _), fun writable => ?_⟩
              have noDirectory := writable.resolve_left (List.cons_ne_nil _ _)
              exact succeeds (.inr (mt scribbled.debug.mp noDirectory))
          · obtain ⟨disk, ran, scribbled, _, succeeds⟩ := ih led filesRest
            refine ⟨disk, ran, scribbled, fun none => absurd none (List.cons_ne_nil _ _),
              fun writable => ?_⟩
            exact succeeds (.inr (writable.resolve_left (List.cons_ne_nil _ _)))

/-- An entry is only a report. -/
theorem reportsOnly_record (home : Location) (entry : Entry) :
    ReportsOnly home (record entry) := by
  have spec (workspace : Workspace) (tidy : Tidy home workspace) :
      Reported home workspace ((record entry).run.run workspace).2 ∧
        (workspace.journal.files = [] ∨
            workspace.disk.node? (debugPlace home) ≠ some .directory →
          ((record entry).run.run workspace).1 = .ok ()) := by
    rw [run_record]
    split
    · have ledRecorded : ({ workspace with journal :=
          { workspace.journal with records := workspace.journal.records ++ [entry] } } :
          Workspace).disk.follow (debugFile home) = .ok (debugPlace home) := tidy.led
      obtain ⟨disk, ran, scribbled, silent, succeeds⟩ :=
        run_handle _ entry ledRecorded tidy.files
      rw [ran]
      exact ⟨⟨scribbled, rfl, silent⟩, succeeds⟩
    · exact ⟨.refl home workspace, fun _ => rfl⟩
  exact ⟨fun workspace tidy => (spec workspace tidy).1,
    fun workspace ready => (spec workspace ready.toTidy).2 ready.writable⟩

/-- So is an entry of a level. -/
theorem reportsOnly_log (home : Location) (level : Level) (source text : String) :
    ReportsOnly home (log level source text) := reportsOnly_record home (.plain level source text)

private theorem steps_call (home : Location) (logger : OwnLogger) (method text : String) :
    Steps (Reporting home) (call logger method text) := by
  unfold call
  split
  · exact .throw _
  · split
    · exact fun workspace tidy => ⟨.refl home workspace.disk, rfl, fun _ => rfl⟩
    · exact .throw _

/-- Reports leave a workspace in order with reports only. -/
theorem byReports_reporting (home : Location) : ByReports (Reporting home) :=
  ⟨fun entry => (reportsOnly_record home entry).steps, steps_call home⟩

private theorem reportsOnly_call (home : Location) {logger : OwnLogger} {method : String}
    (offered : logger.methods.contains method = true)
    (callable : logger.attributes.contains method = false) (text : String) :
    ReportsOnly home (call logger method text) := by
  refine ⟨steps_call home logger method text, fun workspace _ => ?_⟩
  rw [run_call offered callable]

/-- So is a message about progress, whoever is told. -/
theorem reportsOnly_info (home : Location) {reporter : Reporter} (usable : reporter.Usable)
    (text : String) : ReportsOnly home (info reporter text) := by
  cases reporter with
  | package source => exact reportsOnly_log home .info source text
  | own logger =>
      obtain ⟨offered, callable⟩ := usable "info" (by decide)
      exact reportsOnly_call home offered callable text

/-- So is a warning. -/
theorem reportsOnly_warning (home : Location) {reporter : Reporter} (usable : reporter.Usable)
    (text : String) : ReportsOnly home (warning reporter text) := by
  cases reporter with
  | package source => exact reportsOnly_log home .warning source text
  | own logger =>
      obtain ⟨offered, callable⟩ := usable "warning" (by decide)
      exact reportsOnly_call home offered callable text

/-- So is an error. -/
theorem reportsOnly_error (home : Location) {reporter : Reporter} (usable : reporter.Usable)
    (text : String) : ReportsOnly home (error reporter text) := by
  cases reporter with
  | package source => exact reportsOnly_log home .error source text
  | own logger =>
      obtain ⟨offered, callable⟩ := usable "error" (by decide)
      exact reportsOnly_call home offered callable text

/-- What was replayed has the result of the computation. -/
theorem replay_ok {computation : Traced α} {result : α}
    (ran : (replay computation).run.run workspace = (.ok result, after)) :
    computation.outcome.1 = .ok result := by
  obtain ⟨_, _, _, taken⟩ := run_bind_eq_ok_iff.mp ran
  exact (Prod.mk.inj taken).1

/-- The entries of a computation are made, and then its result is taken. -/
theorem run_replay (computation : Traced α) (ready : Ready home workspace) :
    ∃ after, (replay computation).run.run workspace = (computation.outcome.1, after) ∧
      Reported home workspace after ∧ Ready home after := by
  have entries : ReportsOnly home (computation.outcome.2.forM record) :=
    .forM fun entry _ => reportsOnly_record home entry
  obtain ⟨after, ran, reported, readyAfter⟩ := entries.run ready
  refine ⟨after, ?_, reported, readyAfter⟩
  change (computation.outcome.2.forM record >>= fun _ =>
    lift computation.outcome.1).run.run workspace = _
  rw [run_bind_ok ran, run_lift]

end Entries

end Work
end ElementWrap
