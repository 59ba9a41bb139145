import ElementWrap.Proofs.Files.Places
import ElementWrap.Proofs.Work.Loading
import ElementWrap.Proofs.Work.Start
import ElementWrap.Proofs.Work.Writing

/-! # What builds keep

A build makes reports, sets up and clears its log, and changes the disk along the paths of its
files. A relation between workspaces that all of this keeps relates the workspace that a build
starts from to the one that it leaves, whatever its outcome is (`ElementWrap.Work.ByReports.build`).
-/

namespace ElementWrap.Work

open Files Log Layout

variable {options : BuildOptions} {workspace : Workspace}

/-! ## The files of a build -/

/-- A build that starts from a workspace and does not fail before writes a file to a path. -/
def IsTarget (options : BuildOptions) (workspace : Workspace) (path : Path) : Prop :=
  ∃ analysis loaded generated artifact,
    (load options).run.run workspace = (.ok analysis, loaded) ∧
    (generate (wrapperConfig options) analysis (requested options)).outcome.1 = .ok generated ∧
    artifact ∈ generated.artifacts ∧ path = target (destination options) artifact

/-- Options that are not valid stop a build before it writes. -/
theorem not_isTarget_of_invalid (faulty : options.isValid = false) (path : Path) :
    ¬ IsTarget options workspace path := by
  rintro ⟨_, _, _, _, loaded, _⟩
  obtain ⟨_, _, starts, _⟩ := run_bind_eq_ok_iff.mp loaded
  exact absurd (isValid_of_start starts) (by simp [faulty])

/-- A relation is kept by all that changes on a disk along a path. -/
def KeptAlong (related : Workspace → Workspace → Prop) (path : Path) : Prop :=
  ∀ workspace disk, Disk.Along path workspace.disk disk → related workspace { workspace with disk }

/-- A relation is kept by what writing a file to a path changes: directories are made along it, and
then the file is written. -/
structure KeptWriting (related : Workspace → Workspace → Prop) (path : Path) : Prop where
  makes : ∀ workspace disk, Disk.Along path workspace.disk disk → workspace.disk.Extends disk →
    related workspace { workspace with disk }
  writes : ∀ workspace content disk, workspace.disk.writeFile path content = .ok disk →
    related workspace { workspace with disk }

/-- What is kept along a path is kept by writing a file there. -/
theorem KeptAlong.writing {related : Workspace → Workspace → Prop} {path : Path}
    (along : KeptAlong related path) : KeptWriting related path where
  makes workspace disk changed _ := along workspace disk changed
  writes workspace _ disk written := along workspace disk (Disk.along_writeFile written)

/-- What is generated is told of before it is written. -/
def tell (reporter : Reporter) (generated : Outcome Artifact Fault) : Work Unit := do
  let count := (Ordered.get? "component_count" generated.metadata).getD .null
  info reporter ("Building React wrappers for " ++ count.display ++ " web components")
  generated.warnings.forM fun text => warning reporter text

/-- How wrappers are generated and written, with the messages before the writing taken together. -/
theorem generateAndWrite_eq (options : BuildOptions) (reporter : Reporter) (analysis : Analysis) :
    generateAndWrite options reporter analysis = (do
      let generated ← replay (generate (wrapperConfig options) analysis (requested options))
      tell reporter generated
      let written ← writeArtifacts generated.artifacts (destination options) reporter
      return { generated with
        warnings := options.warnings ++ generated.warnings
        metadata := generated.metadata ++ [("dest", .text (destination options).toString),
          ("written", .list (written.map fun path => .text path.toString))] }) := by
  simp only [generateAndWrite, tell, bind_assoc]
  rfl

/-! ## How a build ends -/

/-- A failure is never told of as a success. -/
theorem failBuild_ok {reporter : Reporter} {fault : Fault} {outcome : Outcome Artifact Fault}
    {after : Workspace}
    (ran : (failBuild reporter fault).run.run workspace = (.ok outcome, after)) :
    outcome.success = false := by
  obtain ⟨_, _, _, ran⟩ := run_bind_eq_ok_iff.mp ran
  obtain ⟨_, _, _, ran⟩ := run_bind_eq_ok_iff.mp ran
  cases ran
  rfl

/-- A build whose steps fail ends as its failure is told of. -/
theorem run_build_failed {reporter : Reporter} {fault : Fault} {started stopped : Workspace}
    (starts : (start options).run.run workspace = (.ok reporter, started))
    (attempted : (attempt options reporter).run.run started = (.error fault, stopped)) :
    (build options).run.run workspace = (failBuild reporter fault).run.run stopped := by
  have caught : (tryCatch (attempt options reporter) (failBuild reporter)).run.run started =
      (failBuild reporter fault).run.run stopped := by
    rw [run_tryCatch, attempted]
  rcases told : (failBuild reporter fault).run.run stopped with ⟨_ | outcome, after⟩
  · exact (run_bind_ok starts).trans (run_bind_error (caught.trans told))
  · have failed : ¬ outcome.success = true := by simp [failBuild_ok told]
    refine (run_bind_ok starts).trans ((run_bind_ok (caught.trans told)).trans ?_)
    rw [if_neg failed]
    rfl

/-- A build whose steps succeed ends by clearing its debug file. -/
theorem run_build_attempted {reporter : Reporter} {outcome : Outcome Artifact Fault}
    {started tried : Workspace}
    (starts : (start options).run.run workspace = (.ok reporter, started))
    (attempted : (attempt options reporter).run.run started = (.ok outcome, tried))
    (success : outcome.success = true) :
    (build options).run.run workspace =
      (clearDebugFile reporter >>= fun _ => (pure outcome : Work _)).run.run tried := by
  have caught : (tryCatch (attempt options reporter) (failBuild reporter)).run.run started =
      (.ok outcome, tried) := by
    rw [run_tryCatch, attempted]
  refine (run_bind_ok starts).trans ((run_bind_ok caught).trans ?_)
  rw [if_pos success]

/-! ## What single steps change -/

section Steps

variable {related : Workspace → Workspace → Prop} [IsPreorder Workspace related]

/-- Clearing the debug file keeps what detaching handlers and removing files keep. -/
theorem steps_clearDebugFile
    (detaches : ∀ workspace,
      related workspace { workspace with journal := workspace.journal.detach })
    (removes : ∀ workspace path disk, workspace.disk.removeFile path = .ok disk →
      related workspace { workspace with disk }) (reporter : Reporter) :
    Steps related (clearDebugFile reporter) := by
  cases reporter with
  | own logger => exact .pure ()
  | package source =>
      have first : Steps related detachFiles := detaches
      exact first.bind fun files => .forM fun file _ =>
        steps_onDisk fun workspace disk => removes workspace file disk

end Steps

/-! ## What is put together from reports and writing -/

namespace ByReports

variable {related : Workspace → Workspace → Prop} [IsPreorder Workspace related]

/-- Telling of what was generated keeps what reports keep. -/
theorem tell (reports : ByReports related) (reporter : Reporter)
    (generated : Outcome Artifact Fault) : Steps related (tell reporter generated) :=
  (reports.info reporter _).bind fun _ => .forM fun text _ => reports.warning reporter text

/-- So does telling of a failure. -/
theorem failBuild (reports : ByReports related) (reporter : Reporter) (fault : Fault) :
    Steps related (failBuild reporter fault) :=
  (reports.error reporter _).bind fun _ => (reports.record _).bind fun _ => .pure _

/-- Writing an artifact keeps what reports and the writing of its file keep. -/
theorem writeArtifact (reports : ByReports related) {destination : Path} {artifact : Artifact}
    (kept : KeptWriting related (target destination artifact)) (reporter : Reporter) :
    Steps related (writeArtifact destination reporter artifact) := by
  have makes : Steps related (makeDirectories (target destination artifact).parent) :=
    fun workspace => kept.makes workspace _ (Disk.along_ensureDirectories _ _ _).of_parent
      (Disk.extends_ensureDirectories _ _ _)
  have writes : Steps related
      (onDiskAlways (·.writeText (target destination artifact) artifact.content)) := by
    intro workspace
    rw [run_onDiskAlways]
    rcases Disk.writeText_cases workspace.disk (target destination artifact) artifact.content with
      same | written
    · rw [same]
      exact refl_of related workspace
    · exact kept.writes _ _ _ written
  rw [writeArtifact_eq]
  exact (reports.announce reporter artifact _).bind fun _ => makes.bind fun _ =>
    writes.bind fun _ => (reports.log _ _ _).bind fun _ => .pure _

private theorem writeArtifacts (reports : ByReports related) {destination : Path}
    {artifacts : List Artifact}
    (kept : ∀ artifact ∈ artifacts, KeptWriting related (target destination artifact))
    (reporter : Reporter) : Steps related (writeArtifacts artifacts destination reporter) :=
  .bind (.mapM fun artifact member => reports.writeArtifact (kept artifact member) reporter)
    fun _ => (reports.info reporter _).bind fun _ => .pure _

/-- So it is with all that is generated and written. -/
theorem generateAndWrite (reports : ByReports related) {analysis : Analysis}
    (kept : ∀ generated,
      (generate (wrapperConfig options) analysis (requested options)).outcome.1 = .ok generated →
        ∀ artifact ∈ generated.artifacts,
          KeptWriting related (target (destination options) artifact))
    (reporter : Reporter) : Steps related (generateAndWrite options reporter analysis) := by
  intro workspace
  rw [generateAndWrite_eq]
  refine Steps.bind_from (reports.replay _ workspace) fun generated between replayed => ?_
  refine Steps.bind (reports.tell reporter generated) (fun _ => ?_) between
  exact (reports.writeArtifacts (kept generated (replay_ok replayed)) reporter).bind fun _ =>
    .pure _

/-- The steps of a build that has started keep what reports and the writing of its files keep. -/
theorem attempt (reports : ByReports related) {reporter : Reporter} {started : Workspace}
    (starts : (start options).run.run workspace = (.ok reporter, started))
    (kept : ∀ path, IsTarget options workspace path → KeptWriting related path) :
    related started ((attempt options reporter).run.run started).2 := by
  refine Steps.bind_from (reports.analyze _ reporter started) fun analysis loaded analyzed => ?_
  refine reports.generateAndWrite ?_ reporter loaded
  intro generated made artifact member
  exact kept _ ⟨analysis, loaded, generated, artifact, (run_bind_ok starts).trans analyzed, made,
    member, rfl⟩

/-- **A build keeps what its parts keep.** -/
theorem build (reports : ByReports related)
    (parentless : options.ownLogger = none → ".." ∉ workspace.disk.home)
    (prepares : related workspace (prepared options workspace))
    (kept : ∀ path, IsTarget options workspace path → KeptWriting related path)
    (clears : Steps related (clearDebugFile (reporterOf options))) :
    related workspace ((build options).run.run workspace).2 := by
  have checks := trans_of related prepares (reports.check options (reporterOf options) _)
  rw [← run_start parentless] at checks
  refine Steps.bind_from checks fun reporter started starts => ?_
  obtain rfl : reporter = reporterOf options := by
    rw [run_start parentless] at starts
    exact (check_ok starts).1
  have catches := Steps.tryCatch_from (reports.attempt starts kept) fun fault after _ =>
    reports.failBuild (reporterOf options) fault after
  refine Steps.bind_from catches fun outcome after _ => ?_
  split
  · exact Steps.bind clears (fun _ => .pure _) after
  · exact Steps.pure _ after

end ByReports

end ElementWrap.Work
