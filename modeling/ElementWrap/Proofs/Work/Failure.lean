import ElementWrap.Proofs.Layout.Generation
import ElementWrap.Proofs.Work.Confinement

/-! # Builds that fail before they write

A build that can not load its analysis, select its names, convert one of them or render writes
nothing: whatever was built before, the failure is the outcome of the build, and nothing on the disk
but the debug file is touched (`ElementWrap.Work.build_fails`).
-/

namespace ElementWrap.Work

open Files Log Layout

variable {home : Location} {options : BuildOptions} {workspace after : Workspace} {fault : Fault}

/-- A build fails with a fault before it writes: while its analysis is loaded, or while wrappers are
generated from the analysis. -/
inductive FailsBeforeWriting (options : BuildOptions) (workspace : Workspace) (fault : Fault) : Prop
  | loading {after : Workspace}
    (failed : (load options).run.run workspace = (.error fault, after))
  | generating {analysis : Analysis} {after : Workspace}
    (loaded : (load options).run.run workspace = (.ok analysis, after))
    (failed : GenerationFails (wrapperConfig options) analysis (requested options) fault)

/-- A failure is told of, and becomes the outcome. -/
theorem run_failBuild {reporter : Reporter} (usable : reporter.Usable)
    (ready : Ready home workspace) (fault : Fault) :
    ∃ after, (failBuild reporter fault).run.run workspace =
        (.ok (.failure (some ("Build failed: " ++ fault.message)) (some fault)), after) ∧
      Reported home workspace after := by
  obtain ⟨between, told, reported, readyNext⟩ :=
    (reportsOnly_error home usable ("Build failed: " ++ fault.message)).run ready
  obtain ⟨after, logged, reportedAfter, _⟩ :=
    (reportsOnly_record home (failureDetails fault)).run readyNext
  refine ⟨after, ?_, reported.trans reportedAfter⟩
  exact (run_bind_ok told).trans (run_bind_ok logged)

/-- A build that starts and then fails before it writes has made reports only. -/
theorem attempt_fails {reporter : Reporter} (ready : Ready home workspace)
    (failed : (∃ between, (analyze (analysisPath options) reporter).run.run workspace =
        (.error fault, between)) ∨
      ∃ analysis between, (analyze (analysisPath options) reporter).run.run workspace =
          (.ok analysis, between) ∧
        GenerationFails (wrapperConfig options) analysis (requested options) fault) :
    ∃ after, (attempt options reporter).run.run workspace = (.error fault, after) ∧
      Reported home workspace after ∧ Ready home after := by
  have analyzes := (byReports_reporting home).analyze (analysisPath options) reporter
  rcases failed with ⟨between, failed⟩ | ⟨analysis, between, loaded, failed⟩
  · have reported := analyzes.of_run failed ready.toTidy
    exact ⟨between, run_bind_error failed, reported, ready.reported reported⟩
  · have reported := analyzes.of_run loaded ready.toTidy
    obtain ⟨after, replayed, reportedAfter, readyAfter⟩ :=
      run_replay (generate (wrapperConfig options) analysis (requested options))
        (ready.reported reported)
    rw [generate_error_iff.mpr failed] at replayed
    exact ⟨after, (run_bind_ok loaded).trans (run_bind_error replayed),
      reported.trans reportedAfter, readyAfter⟩

/-- **What fails before it writes, writes nothing.** Whatever was built before, let the working
directory be in place, and no directory in it where the debug file belongs. A build with valid
options that can not load, select, convert or render then answers its failure: it has no files, it
names the cause, and what was on the disk is as it was, the debug file aside. -/
theorem build_fails (reachable : Reachable home workspace) (valid : options.Valid)
    (led : workspace.disk.follow (debugFile home) = .ok (debugPlace home))
    (noDirectory : workspace.disk.node? (debugPlace home) ≠ some .directory)
    (failed : FailsBeforeWriting options workspace fault) :
    ∃ outcome after, (build options).run.run workspace = (.ok outcome, after) ∧
      outcome.success = false ∧ outcome.artifacts = [] ∧ outcome.cause = some fault ∧
      outcome.errorMessage = some ("Build failed: " ++ fault.message) ∧
      ∀ place, place ≠ debugPlace home →
        after.disk.node? place = workspace.disk.node? place := by
  have confined := reachable.confined (parentless_of_led led)
  have ready : Ready home (prepared options workspace) :=
    { toConfined := confined_prepared confined.atHome (.inr confined.files)
      led := by rw [prepared_disk, led]
      writable := .inr (by rwa [prepared_disk]) }
  obtain ⟨started, starts, reportedStart, readyStart⟩ := run_start_ok valid ready
  have loads : (load options).run.run workspace =
      (analyze (analysisPath options) (reporterOf options)).run.run started :=
    run_bind_ok starts
  obtain ⟨stopped, attempted, reportedStop, readyStop⟩ := attempt_fails readyStart <|
    match failed with
    | .loading failed => .inl ⟨_, loads.symm.trans failed⟩
    | .generating loaded failed => .inr ⟨_, _, loads.symm.trans loaded, failed⟩
  obtain ⟨after, told, reportedEnd⟩ := run_failBuild (usable_reporterOf valid) readyStop fault
  have caught : (tryCatch (attempt options (reporterOf options))
      (failBuild (reporterOf options))).run.run started =
        (.ok (.failure (some ("Build failed: " ++ fault.message)) (some fault)), after) := by
    rw [run_tryCatch, attempted]
    exact told
  refine ⟨_, after, (run_bind_ok starts).trans (run_bind_ok caught), rfl, rfl, rfl, rfl,
    fun place away => ?_⟩
  have reported := (reportedStart.trans reportedStop).trans reportedEnd
  rw [reported.disk.elsewhere place away, prepared_disk]

/-- An element that is not in the analysis fails the build, though one before it is there. -/
theorem build_fails_unknown :
    ∃ outcome after,
      (build (bundleOptions [.text "x-a", .text "x-b"])).run.run { disk := sampleDisk } =
        (.ok outcome, after) ∧
      outcome.success = false ∧ outcome.artifacts = [] ∧
      outcome.cause = some (.notFound (.text "x-b")) ∧
      ∀ place, place ≠ debugPlace ["w"] → after.disk.node? place = sampleDisk.node? place := by
  have valid := valid_bundleOptions [.text "x-a", .text "x-b"]
  have ready : Ready ["w"] (prepared (bundleOptions [.text "x-a", .text "x-b"])
      { disk := sampleDisk }) :=
    { toConfined := confined_prepared rfl (.inl rfl)
      led := follow_debugFile_sampleDisk
      writable := .inr (by decide) }
  obtain ⟨started, starts, reported, readyStart⟩ := run_start_ok valid ready
  have made : Analysis.ofValue sampleAnalysis.document = .ok sampleAnalysis := rfl
  obtain ⟨loaded, analyzed, _, _⟩ := run_analyze (usable_reporterOf valid) readyStart
    (by decide) (holdsValue_sampleDisk.scribbled (by decide) reported.disk) made
  have found : sampleAnalysis.component (.text "x-a") = .ok { name := .text "x-a" } :=
    component_sampleAnalysis "x-a"
  have missing : sampleAnalysis.component (.text "x-b") = .error (.notFound (.text "x-b")) :=
    component_sampleAnalysis "x-b"
  have selected : (sampleAnalysis.selectNames
      (requested (bundleOptions [.text "x-a", .text "x-b"]))).outcome.1 =
        .ok ([.text "x-a"] ++ .text "x-b" :: []) := rfl
  have loads : (load (bundleOptions [.text "x-a", .text "x-b"])).run.run { disk := sampleDisk } =
      (.ok sampleAnalysis, loaded) := (run_bind_ok starts).trans analyzed
  obtain ⟨outcome, after, ran, unsuccessful, none, cause, _, kept⟩ :=
    build_fails (.fresh rfl rfl) valid follow_debugFile_sampleDisk (by decide) <|
      .generating loads <| .converting selected (List.forall_mem_singleton.mpr ⟨_, found⟩) missing
  exact ⟨outcome, after, ran, unsuccessful, none, cause, kept⟩

end ElementWrap.Work
