import ElementWrap.Proofs.Layout.Generation
import ElementWrap.Proofs.Work.Confinement

/-! # Builds that succeed

A successful build has read its analysis, generated wrappers from it and written them, and it has
removed its debug file again (`ElementWrap.Work.build_ok`). Where every file has its place already,
a build succeeds (`ElementWrap.Work.run_build`).
-/

namespace ElementWrap.Work

open Files Log Layout

variable {home : Location} {options : BuildOptions} {workspace after : Workspace}
  {reporter : Reporter} {analysis : Analysis} {outcome generated : Outcome Artifact Fault}

/-! ## Generating and writing -/

/-- The outcome of a build from that of the generation. -/
def finish (options : BuildOptions) (generated : Outcome Artifact Fault) :
    Outcome Artifact Fault :=
  { generated with
    warnings := options.warnings ++ generated.warnings
    metadata := generated.metadata ++ [("dest", .text (destination options).toString),
      ("written", .list ((generated.artifacts.map (target (destination options))).map
        fun path => .text path.toString))] }

private theorem reportsOnly_tell (home : Location) (usable : reporter.Usable)
    (generated : Outcome Artifact Fault) : ReportsOnly home (tell reporter generated) :=
  (reportsOnly_info home usable _).bind <| .forM fun text _ => reportsOnly_warning home usable text

/-- What was generated and written is in the outcome and on the disk. -/
theorem generateAndWrite_ok (tidy : Tidy home workspace)
    (ran : (generateAndWrite options reporter analysis).run.run workspace = (.ok outcome, after)) :
    ∃ generated,
      (generate (wrapperConfig options) analysis (requested options)).outcome.1 = .ok generated ∧
      outcome = finish options generated ∧
      WroteAll home (destination options) generated.artifacts workspace after := by
  have reports := byReports_reporting home
  rw [generateAndWrite_eq] at ran
  obtain ⟨generated, first, replayed, ran⟩ := run_bind_eq_ok_iff.mp ran
  obtain ⟨_, second, told, ran⟩ := run_bind_eq_ok_iff.mp ran
  obtain ⟨written, third, wrote, ran⟩ := run_bind_eq_ok_iff.mp ran
  cases ran
  have reportedFirst := (reports.replay _).of_run replayed tidy
  have tidyFirst := tidy.reported reportedFirst
  have reportedSecond := (reports.tell reporter generated).of_run told tidyFirst
  obtain ⟨rfl, wroteAll⟩ := writeArtifacts_ok (tidyFirst.reported reportedSecond) wrote
  refine ⟨generated, ?_, rfl, wroteAll.among_reports (reportedFirst.trans reportedSecond)
    (.refl home after)⟩
  exact replay_ok replayed

/-- What can be generated is written where it has its place. -/
theorem run_generateAndWrite (usable : reporter.Usable) (ready : Ready home workspace)
    (made : (generate (wrapperConfig options) analysis (requested options)).outcome.1 =
      .ok generated)
    (settled : ∀ artifact ∈ generated.artifacts,
      IsSettled workspace.disk (destination options) artifact) :
    ∃ after, (generateAndWrite options reporter analysis).run.run workspace =
        (.ok (finish options generated), after) ∧
      Ready home after ∧ after.disk.KeepsDirectories workspace.disk := by
  obtain ⟨first, replayed, reportedFirst, readyFirst⟩ :=
    run_replay (generate (wrapperConfig options) analysis (requested options)) ready
  rw [made] at replayed
  obtain ⟨second, told, reportedSecond, readySecond⟩ :=
    (reportsOnly_tell home usable generated).run readyFirst
  have before := (reportedFirst.trans reportedSecond).disk
  obtain ⟨after, wrote, readyAfter, back⟩ := run_writeArtifacts usable readySecond
    fun artifact member => (settled artifact member).kept before.keepsDirectories
      before.symm.keepsDirectories
  refine ⟨after, ?_, readyAfter, back.trans before.symm.keepsDirectories⟩
  rw [generateAndWrite_eq, run_bind_ok replayed, run_bind_ok told, run_bind_ok wrote]
  rfl

/-! ## Removing the debug file -/

/-- The files that the log of a build writes to. -/
def logFiles (home : Location) (options : BuildOptions) : List Path :=
  if options.ownLogger = none then [debugFile home] else []

/-- The files of the log once a build has got ready to report. -/
theorem files_prepared (atHome : workspace.disk.home = home)
    (quiet : options.ownLogger = none ∨ workspace.journal.files = []) :
    (prepared options workspace).journal.files = logFiles home options := by
  unfold prepared logFiles
  cases found : options.ownLogger with
  | none => rw [atHome]; rfl
  | some logger => exact quiet.resolve_left (by simp [found])

/-- The debug file of a build is gone, and nothing else changed. -/
structure Cleared (home : Location) (options : BuildOptions) (before after : Workspace) :
    Prop where
  disk : Scribbled home before.disk after.disk
  files : after.journal.files = []
  swept : options.ownLogger = none → after.disk.node? (debugPlace home) = none
  kept : options.ownLogger ≠ none → after.disk = before.disk

/-- Detaching answers the files of the log, which has none then. -/
theorem run_detachFiles (workspace : Workspace) :
    detachFiles.run.run workspace =
      (.ok workspace.journal.files, { workspace with journal := workspace.journal.detach }) := rfl

/-- Without a logger of the caller, the debug file is what is removed. -/
theorem run_clearDebugFile_package {source : String}
    (files : workspace.journal.files = [debugFile home]) :
    (clearDebugFile (.package source)).run.run workspace =
      match workspace.disk.removeFile (debugFile home) with
      | .ok disk => (.ok (), { workspace with disk, journal := workspace.journal.detach })
      | .error fault => (.error fault, { workspace with journal := workspace.journal.detach }) := by
  apply (run_bind_ok (run_detachFiles workspace)).trans
  rw [files]
  change (onDisk (·.removeFile (debugFile home)) >>= fun _ => pure ()).run.run _ = _
  rw [bind_pure_unit]
  exact run_onDisk _ _

/-- A debug file that was cleared is gone. -/
theorem clearDebugFile_ok (tidy : Tidy home workspace)
    (files : workspace.journal.files = logFiles home options)
    (ran : (clearDebugFile (reporterOf options)).run.run workspace = (.ok (), after)) :
    Cleared home options workspace after := by
  unfold reporterOf at ran
  unfold logFiles at files
  cases found : options.ownLogger with
  | some logger =>
      rw [found, if_neg (Option.some_ne_none logger)] at files
      rw [found] at ran
      cases ran
      exact ⟨.refl home _, files, fun none => by simp [found] at none, fun _ => rfl⟩
  | none =>
      rw [found, if_pos rfl] at files
      rw [found, run_clearDebugFile_package files] at ran
      split at ran
      · next disk removed =>
          cases ran
          have kept (missing : options.ownLogger ≠ none) : disk = workspace.disk :=
            absurd found missing
          rcases Disk.removeFile_ok removed with ⟨rfl, free⟩ | ⟨place, content, led, held, rfl⟩
          · exact ⟨.refl home _, files_detach _, fun _ => free _ tidy.led, kept⟩
          · obtain rfl := Except.ok.inj (led.symm.trans tidy.led)
            have used : debugPlace home ≠ [] := List.append_ne_nil_of_right_ne_nil home (by simp)
            have swept : (workspace.disk.erase (debugPlace home)).node? (debugPlace home) = none :=
              Disk.node?_erase_self used
            refine ⟨⟨rfl, fun other away => Disk.node?_erase_of_ne away, ?_⟩, files_detach _,
              fun _ => swept, kept⟩
            rw [swept, held]
            simp
      · exact nomatch ran

private theorem run_clearDebugFile (ready : Ready home workspace)
    (files : workspace.journal.files = logFiles home options) :
    ∃ after, (clearDebugFile (reporterOf options)).run.run workspace = (.ok (), after) := by
  unfold reporterOf
  unfold logFiles at files
  cases found : options.ownLogger with
  | some logger => exact ⟨workspace, rfl⟩
  | none =>
      rw [found, if_pos rfl] at files
      have free := ready.writable.resolve_left (by simp [files])
      obtain ⟨disk, removed⟩ := Disk.exists_removeFile ready.led free
      exact ⟨_, by rw [run_clearDebugFile_package files, removed]⟩

/-! ## Whole builds -/

/-- The analysis of a build is there, apart from the debug file. -/
def HoldsAnalysis (home : Location) (options : BuildOptions) (disk : Disk)
    (analysis : Analysis) : Prop :=
  ∃ place value, place ≠ debugPlace home ∧ HoldsValue disk (analysisPath options) place value ∧
    Analysis.ofValue value = .ok analysis

/-- What a build has written, and the debug file is gone. A caller with a logger of their own keeps
what was in the place of the debug file. -/
structure Built (home : Location) (options : BuildOptions) (artifacts : List Artifact)
    (before after : Workspace) : Prop where
  encodable : ∀ artifact ∈ artifacts, IsEncodable artifact
  keeps : before.disk.KeepsDirectories after.disk
  places : ∀ artifact ∈ artifacts, HasPlace after.disk (destination options) artifact
  held : ∀ place, place ≠ debugPlace home ∨ options.ownLogger ≠ none →
    after.disk.file? place =
      (lastWritten after.disk (destination options) place artifacts).or (before.disk.file? place)
  files : after.journal.files = []
  swept : options.ownLogger = none → after.disk.node? (debugPlace home) = none

/-- Where the log of a build writes to no file, nothing is told on the disk. -/
theorem untold_of_logFiles (files : workspace.journal.files = logFiles home options)
    (apart : place ≠ debugPlace home ∨ options.ownLogger ≠ none) :
    Untold home workspace place :=
  apart.imp_right fun own => files.trans (if_neg own)

/-- A working directory in place is so once a build has got ready to report. -/
theorem tidy_prepared (atHome : workspace.disk.home = home)
    (led : workspace.disk.follow (debugFile home) = .ok (debugPlace home))
    (quiet : options.ownLogger = none ∨ workspace.journal.files = []) :
    Tidy home (prepared options workspace) where
  toConfined := confined_prepared atHome <| quiet.imp_right fun none file member => by
    simp [none] at member
  led := by rw [prepared_disk, led]

private theorem built_of_wroteAll {artifacts : List Artifact} {tried : Workspace}
    (tidy : Tidy home (prepared options workspace))
    (files : (prepared options workspace).journal.files = logFiles home options)
    (wrote : WroteAll home (destination options) artifacts (prepared options workspace) tried)
    (ran : (clearDebugFile (reporterOf options)).run.run tried = (.ok (), after)) :
    Built home options artifacts workspace after := by
  have cleared := clearDebugFile_ok (tidy.wroteAll wrote) (wrote.files.trans files) ran
  refine ⟨wrote.encodable, ?_, fun artifact member => (wrote.places artifact member).kept
    cleared.disk.keepsDirectories, fun place apart => ?_, cleared.files, cleared.swept⟩
  · exact (prepared_disk ▸ wrote.keeps).trans cleared.disk.keepsDirectories
  · have same : after.disk.file? place = tried.disk.file? place := by
      rcases apart with away | own
      · rw [Disk.file?, Disk.file?, cleared.disk.elsewhere place away]
      · rw [cleared.kept own]
    rw [same, wrote.held place (untold_of_logFiles files apart), prepared_disk,
      lastWritten_congr cleared.disk.keepsDirectories cleared.disk.symm.keepsDirectories]

/-- **What a successful build leaves.** -/
theorem build_ok (atHome : workspace.disk.home = home)
    (led : workspace.disk.follow (debugFile home) = .ok (debugPlace home))
    (quiet : options.ownLogger = none ∨ workspace.journal.files = [])
    (away : workspace.disk.follow (analysisPath options) ≠ .ok (debugPlace home))
    (ran : (build options).run.run workspace = (.ok outcome, after))
    (success : outcome.success = true) :
    ∃ analysis generated, HoldsAnalysis home options workspace.disk analysis ∧
      (generate (wrapperConfig options) analysis (requested options)).outcome.1 = .ok generated ∧
      outcome = finish options generated ∧
      Built home options generated.artifacts workspace after := by
  have reports := byReports_reporting home
  have tidy := tidy_prepared atHome led quiet
  obtain ⟨reporter, started, starts, ran⟩ := run_bind_eq_ok_iff.mp ran
  rw [run_start fun _ => atHome ▸ parentless_of_led led] at starts
  obtain ⟨rfl, _⟩ := check_ok starts
  have reportedStart := (reports.check options (reporterOf options)).of_run starts tidy
  have tidyStart := tidy.reported reportedStart
  obtain ⟨reached, tried, caught, ran⟩ := run_bind_eq_ok_iff.mp ran
  rw [run_tryCatch] at caught
  split at caught
  · next attempted =>
      cases caught
      split at ran
      · obtain ⟨_, _, cleared, ran⟩ := run_bind_eq_ok_iff.mp ran
        cases ran
        obtain ⟨analysis, loaded, analyzed, wrote⟩ := run_bind_eq_ok_iff.mp attempted
        have scribbled := prepared_disk ▸ reportedStart.disk
        have awayStart : started.disk.follow (analysisPath options) ≠ .ok (debugPlace home) :=
          fun follows => away (scribbled.symm.keepsDirectories.follow follows)
        obtain ⟨place, value, apart, holds, made⟩ := analyze_ok tidyStart awayStart analyzed
        have reportedLoad := (reports.analyze _ _).of_run analyzed tidyStart
        obtain ⟨generated, generates, rfl, wroteAll⟩ :=
          generateAndWrite_ok (tidyStart.reported reportedLoad) wrote
        have wrote := wroteAll.among_reports (reportedStart.trans reportedLoad) (.refl home tried)
        exact ⟨analysis, generated,
          ⟨place, value, apart, holds.scribbled apart scribbled.symm, made⟩, generates, rfl,
          built_of_wroteAll tidy (files_prepared atHome quiet) wrote cleared⟩
      · next failed =>
          cases ran
          exact absurd success failed
  · have failed := failBuild_ok caught
    rw [if_neg (by simp [failed])] at ran
    cases ran
    exact absurd success (by simp [failed])

/-- The steps of a build succeed where the analysis is there and every file has its place. -/
theorem run_attempt (usable : reporter.Usable) (ready : Ready home workspace)
    (holds : HoldsAnalysis home options workspace.disk analysis)
    (made : (generate (wrapperConfig options) analysis (requested options)).outcome.1 =
      .ok generated)
    (settled : ∀ artifact ∈ generated.artifacts,
      IsSettled workspace.disk (destination options) artifact) :
    ∃ after, (attempt options reporter).run.run workspace =
        (.ok (finish options generated), after) ∧
      Ready home after ∧ after.journal.files = workspace.journal.files ∧
      after.disk.KeepsDirectories workspace.disk := by
  obtain ⟨place, value, away, holds, read⟩ := holds
  obtain ⟨loaded, analyzed, reported, readyNext⟩ := run_analyze usable ready away holds read
  obtain ⟨after, wrote, readyAfter, back⟩ := run_generateAndWrite usable readyNext made
    fun artifact member => (settled artifact member).kept reported.disk.keepsDirectories
      reported.disk.symm.keepsDirectories
  obtain ⟨_, _, _, wroteAll⟩ := generateAndWrite_ok readyNext.toTidy wrote
  exact ⟨after, (run_bind_ok analyzed).trans wrote, readyAfter,
    wroteAll.files.trans reported.files, back.trans reported.disk.symm.keepsDirectories⟩

/-- **A build succeeds where everything has its place**, and it makes no directory. -/
theorem run_build (valid : options.Valid) (atHome : workspace.disk.home = home)
    (led : workspace.disk.follow (debugFile home) = .ok (debugPlace home))
    (quiet : options.ownLogger = none ∨ workspace.journal.files = [])
    (writable : options.ownLogger = none →
      workspace.disk.node? (debugPlace home) ≠ some .directory)
    (holds : HoldsAnalysis home options workspace.disk analysis)
    (made : (generate (wrapperConfig options) analysis (requested options)).outcome.1 =
      .ok generated)
    (settled : ∀ artifact ∈ generated.artifacts,
      IsSettled workspace.disk (destination options) artifact) :
    ∃ after, (build options).run.run workspace = (.ok (finish options generated), after) ∧
      after.disk.KeepsDirectories workspace.disk := by
  have files := files_prepared atHome quiet
  have ready : Ready home (prepared options workspace) :=
    { toTidy := tidy_prepared atHome led quiet
      writable := by
        rw [prepared_disk, files, logFiles]
        by_cases own : options.ownLogger = none
        · exact .inr (writable own)
        · exact .inl (if_neg own) }
  obtain ⟨started, starts, reported, readyStart⟩ := run_start_ok valid ready
  have scribbled := prepared_disk ▸ reported.disk
  obtain ⟨place, value, away, holds, read⟩ := holds
  obtain ⟨tried, attempted, readyTried, filesTried, back⟩ := run_attempt
    (usable_reporterOf valid) readyStart ⟨place, value, away, holds.scribbled away scribbled, read⟩
    made fun artifact member => (settled artifact member).kept scribbled.keepsDirectories
      scribbled.symm.keepsDirectories
  have filesLogged := filesTried.trans (reported.files.trans files)
  obtain ⟨after, cleared⟩ := run_clearDebugFile readyTried filesLogged
  have sameTried := (clearDebugFile_ok readyTried.toTidy filesLogged cleared).disk
  have success : generated.success = true := success_of_generate made
  refine ⟨after, (run_build_attempted starts attempted success).trans ?_,
    sameTried.symm.keepsDirectories.trans (back.trans scribbled.symm.keepsDirectories)⟩
  rw [run_bind_ok cleared]
  rfl

end ElementWrap.Work
