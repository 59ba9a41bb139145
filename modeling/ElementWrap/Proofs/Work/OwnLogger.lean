import ElementWrap.Proofs.Work.DebugFile

/-! # Builds with a logger of the caller

A build that is given a logger reports to it, if that counts as true, while the parts of the program
go on to report to the log. The debug file is left alone as long as the log writes to no file and
the build writes to no path that passes the debug file (`ElementWrap.Work.build_own_spares`). The
log writes to no file from the start, and again whenever a build without a logger has succeeded.
-/

namespace ElementWrap.Work

open Files Log Layout

variable {home : Location} {places : Set Location} {options other : BuildOptions}
  {workspace before after first : Workspace} {outcome : Outcome Artifact Fault}
  {history : List BuildOptions}

/-! ## A quiet log -/

/-- A workspace works in a directory, and its log writes to no file. -/
structure Quiet (home : Location) (workspace : Workspace) : Prop where
  atHome : workspace.disk.home = home
  files : workspace.journal.files = []

/-- The log is quiet, and what is at some places is as it was. -/
structure Spared (home : Location) (places : Set Location) (before after : Workspace) : Prop where
  quiet : Quiet home after
  same : ∀ place ∈ places, after.disk.node? place = before.disk.node? place

/-- Where the log is quiet, places are spared. -/
def Sparing (home : Location) (places : Set Location) (before after : Workspace) : Prop :=
  Quiet home before → Spared home places before after

instance : IsPreorder Workspace (Sparing home places) where
  refl _ quiet := ⟨quiet, fun _ _ => rfl⟩
  trans _ _ _ first second quiet := by
    have earlier := first quiet
    have later := second earlier.quiet
    exact ⟨later.quiet, fun place member =>
      (later.same place member).trans (earlier.same place member)⟩

/-- Reports spare all places of a log that writes to no file. -/
theorem byReports_sparing (home : Location) (places : Set Location) :
    ByReports (Sparing home places) := by
  apply byReports_of_appends
  · exact fun _ _ quiet => ⟨⟨quiet.atHome, quiet.files⟩, fun _ _ => rfl⟩
  · exact fun _ _ quiet => ⟨⟨quiet.atHome, quiet.files⟩, fun _ _ => rfl⟩
  · intro workspace path listed content disk appended quiet
    rw [quiet.files] at listed
    exact absurd listed List.not_mem_nil

/-- What changes along a path spares the places that it does not pass. -/
theorem keptAlong_sparing {path : Path} (apart : ∀ place ∈ places, ¬ path.Passes home place) :
    KeptAlong (Sparing home places) path := by
  intro workspace disk changed quiet
  refine ⟨⟨changed.keeps.home.trans quiet.atHome, quiet.files⟩, fun place member => ?_⟩
  exact changed.elsewhere place (quiet.atHome ▸ apart place member)

private theorem prepared_own (own : options.ownLogger ≠ none) (workspace : Workspace) :
    prepared options workspace = workspace := by
  obtain ⟨logger, found⟩ := Option.ne_none_iff_exists'.mp own
  rw [prepared, found]

/-- With a logger of the caller, options without faults and warnings start a build silently. -/
theorem run_start_own {logger : OwnLogger} (found : options.ownLogger = some logger)
    (faultless : options.errors = []) (unwarned : options.warnings = []) (workspace : Workspace) :
    (start options).run.run workspace = (.ok (.own logger), workspace) := by
  have own : options.ownLogger ≠ none := by simp [found]
  rw [run_start (fun package => absurd package own), prepared_own own, reporterOf, found]
  unfold check BuildOptions.isValid
  rw [faultless, unwarned]
  rfl

/-- A logger of the caller in valid options can be told. -/
theorem usable_own {logger : OwnLogger} (found : options.ownLogger = some logger)
    (valid : options.Valid) : (Reporter.own logger).Usable := by
  have usable := usable_reporterOf valid
  rwa [reporterOf, found] at usable

/-- With a logger of the caller, no debug file is removed. -/
private theorem clearDebugFile_own (own : options.ownLogger ≠ none) :
    clearDebugFile (reporterOf options) = pure () := by
  obtain ⟨logger, found⟩ := Option.ne_none_iff_exists'.mp own
  rw [reporterOf, found]
  rfl

/-- A build with a logger of the caller keeps what reports and the writing of its files keep. -/
theorem ByReports.build_own {related : Workspace → Workspace → Prop}
    [IsPreorder Workspace related] (reports : ByReports related) (own : options.ownLogger ≠ none)
    (kept : ∀ path, IsTarget options workspace path → KeptWriting related path) :
    related workspace ((Work.build options).run.run workspace).2 := by
  apply reports.build (fun package => absurd package own)
  · rw [prepared_own own]
    exact refl_of related workspace
  · exact kept
  · rw [clearDebugFile_own own]
    exact .pure ()

/-- With a logger of the caller, a build whose steps succeed has their outcome. -/
theorem run_build_attempted_own {logger : OwnLogger} {started tried : Workspace}
    (starts : (start options).run.run workspace = (.ok (.own logger), started))
    (attempted : (attempt options (.own logger)).run.run started = (.ok outcome, tried))
    (success : outcome.success = true) :
    (build options).run.run workspace = (.ok outcome, tried) :=
  run_build_attempted starts attempted success

/-- A build with a logger of the caller spares every place that it does not write past. -/
theorem build_own_spared (own : options.ownLogger ≠ none) (quiet : Quiet home workspace)
    (apart : ∀ path, IsTarget options workspace path → ∀ place ∈ places,
      ¬ path.Passes home place) :
    Spared home places workspace ((build options).run.run workspace).2 :=
  (byReports_sparing home places).build_own own
    (fun path written => (keptAlong_sparing (apart path written)).writing) quiet

private theorem quiet_build_own (own : options.ownLogger ≠ none) (quiet : Quiet home workspace) :
    Quiet home ((build options).run.run workspace).2 := by
  have spared : Spared home ∅ workspace ((build options).run.run workspace).2 :=
    build_own_spared own quiet fun _ _ _ none => none.elim
  exact spared.quiet

/-! ## The log after a series of builds -/

/-- A quiet log stays so while files are removed. -/
theorem steps_removeFiles (files : List Path) :
    Steps (Sparing home ∅) (files.forM fun file => onDisk (·.removeFile file)) := by
  apply Steps.forM
  intro file _
  apply steps_onDisk
  intro workspace disk removed quiet
  exact ⟨⟨(home_removeFile removed).trans quiet.atHome, quiet.files⟩, fun _ none => none.elim⟩

/-- Without a logger of the caller, the one to be told is the log. -/
theorem reporter_of_prepareReporter {reporter : Reporter} (package : options.ownLogger = none)
    (ran : (prepareReporter options).run.run workspace = (.ok reporter, after)) :
    reporter = .package rootSource := by
  unfold prepareReporter at ran
  rw [package] at ran
  obtain ⟨_, _, _, prepares⟩ := run_bind_eq_ok_iff.mp ran
  obtain ⟨_, _, _, chosen⟩ := run_bind_eq_ok_iff.mp prepares
  cases chosen
  rfl

/-- A build that was given no logger reports to the log. -/
theorem reporter_of_start {reporter : Reporter} (package : options.ownLogger = none)
    (ran : (start options).run.run workspace = (.ok reporter, after)) :
    reporter = .package rootSource := by
  obtain ⟨chosen, _, prepares, checked⟩ := run_bind_eq_ok_iff.mp ran
  obtain ⟨rfl, _⟩ := check_ok checked
  exact reporter_of_prepareReporter package prepares

/-- A build that was given no logger and succeeds leaves a log that writes to no file. -/
theorem files_of_success (package : options.ownLogger = none)
    (ran : (build options).run.run workspace = (.ok outcome, after))
    (success : outcome.success = true) : after.journal.files = [] := by
  obtain ⟨reporter, started, starts, ran⟩ := run_bind_eq_ok_iff.mp ran
  obtain rfl := reporter_of_start package starts
  obtain ⟨reached, tried, _, ran⟩ := run_bind_eq_ok_iff.mp ran
  split at ran
  · obtain ⟨_, cleared, clears, ran⟩ := run_bind_eq_ok_iff.mp ran
    cases ran
    obtain ⟨files, detached, detaches, removes⟩ := run_bind_eq_ok_iff.mp clears
    rw [run_detachFiles] at detaches
    cases detaches
    have quiet : Quiet tried.disk.home { tried with journal := tried.journal.detach } :=
      ⟨rfl, files_detach _⟩
    exact ((steps_removeFiles _).of_run removes quiet).quiet.files
  · next failed =>
      cases ran
      exact absurd success failed

/-- The last build of a series that reported to the log, if there is one, has succeeded. -/
def Swept (first : Workspace) (history : List BuildOptions) : Prop :=
  ∀ earlier last later, history = earlier ++ last :: later → last.ownLogger = none →
    (∀ other ∈ later, other.ownLogger ≠ none) →
      ∃ outcome after, (build last).run.run (afterBuilds first earlier) = (.ok outcome, after) ∧
        outcome.success = true

private theorem Swept.singleton (ran : (build options).run.run first = (.ok outcome, after))
    (success : outcome.success = true) : Swept first [options] := by
  intro earlier last later divided _ _
  cases earlier with
  | nil =>
      cases divided
      exact ⟨outcome, after, ran, success⟩
  | cons => simp at divided

/-- The log of a process is quiet after builds of which the last one that reported to it has
succeeded. -/
theorem files_afterBuilds (fresh : first.journal.files = []) (swept : Swept first history) :
    (afterBuilds first history).journal.files = [] := by
  induction history using List.reverseRecOn with
  | nil => exact fresh
  | append_singleton earlier options ih =>
      rw [afterBuilds_concat]
      by_cases package : options.ownLogger = none
      · obtain ⟨outcome, after, ran, success⟩ := swept earlier options [] rfl package (by simp)
        rw [ran]
        exact files_of_success package ran success
      · have sweptEarlier : Swept first earlier := by
          intro before last later divided reported own
          refine swept before last (later ++ [options]) (by rw [divided]; simp) reported ?_
          exact List.forall_mem_append.mpr ⟨own, List.forall_mem_singleton.mpr package⟩
        have quiet : Quiet (afterBuilds first earlier).disk.home (afterBuilds first earlier) :=
          ⟨rfl, ih sweptEarlier⟩
        exact (quiet_build_own package quiet).files

/-- **A build with a logger of the caller leaves the debug file alone.** Let builds be run one after
the other from a log that writes to no file, and let the last of them that reported to the log, if
there is one, have succeeded. A build that is then given a logger that counts as true, and that
avoids the debug file, leaves what is in the place of the debug file as it was, whatever its own
outcome is. -/
theorem build_own_spares (fresh : first.journal.files = []) (swept : Swept first history)
    (own : options.ownLogger ≠ none) (atHome : (afterBuilds first history).disk.home = home)
    (avoids : Avoids home options (afterBuilds first history)) :
    ((build options).run.run (afterBuilds first history)).2.disk.node? (debugPlace home) =
      (afterBuilds first history).disk.node? (debugPlace home) := by
  have quiet : Quiet home (afterBuilds first history) := ⟨atHome, files_afterBuilds fresh swept⟩
  have apart : ∀ path, IsTarget options (afterBuilds first history) path →
      ∀ place ∈ ({debugPlace home} : Set Location), ¬ path.Passes home place := by
    rintro path written place rfl
    exact avoids path written
  exact (build_own_spared own quiet apart).same _ rfl

/-- A logger that can be used. -/
def sampleLogger : OwnLogger := { methods := loggerMethods }

/-- Options of the sample with a logger. -/
def loggedOptions : BuildOptions :=
  { bundleOptions [.text "x-a"] with logger := some sampleLogger }

private theorem target_loggedOptions :
    target (destination loggedOptions) (sampleArtifact (wrapperConfig loggedOptions)) =
      bundlePath := target_sampleArtifact [.text "x-a"]

/-- After a build of the sample that succeeded, one with a logger leaves the debug file alone. -/
theorem build_own_spares_sample :
    ∃ outcome after,
      (build (bundleOptions [.text "x-a"])).run.run { disk := sampleDisk } = (.ok outcome, after) ∧
      outcome.success = true ∧
      ((build loggedOptions).run.run after).2.disk.node? (debugPlace ["w"]) =
        after.disk.node? (debugPlace ["w"]) := by
  obtain ⟨after, ran, back⟩ := run_build_sample buildsSample_bundleOptions
  have reached : afterBuilds { disk := sampleDisk } [bundleOptions [.text "x-a"]] = after := by
    rw [afterBuilds_singleton, ran]
  have atHome : after.disk.home = ["w"] := back.home.symm
  rw [← reached] at atHome
  have own : loggedOptions.ownLogger ≠ none := Option.some_ne_none sampleLogger
  have avoids (workspace : Workspace) : Avoids ["w"] loggedOptions workspace :=
    avoids_of_bundlePath rfl target_loggedOptions workspace
  have spared := build_own_spares rfl (Swept.singleton ran rfl) own atHome (avoids _)
  rw [reached] at spared
  exact ⟨_, after, ran, rfl, spared⟩

/-! ## A log that an earlier build has left at work -/

/-- A build that is refused leaves its log at work, and all but the debug file as it was. -/
theorem run_build_refused (package : options.ownLogger = none) (faulty : options.isValid = false)
    (inOrder : InOrder home workspace.disk) :
    ∃ refused, (build options).run.run workspace = (.error (.options .invalid), refused) ∧
      Logging home options refused ∧ Scribbled home workspace.disk refused.disk := by
  have parentless : ".." ∉ workspace.disk.home := inOrder.atHome ▸ parentless_of_led inOrder.led
  have logging := logging_prepared package inOrder
  obtain ⟨_, refused, checked, notes, _⟩ := run_check_logging logging
  have reported := ((byReports_reporting home).check options _).of_run checked logging.tidy
  rw [faulty] at checked
  have starts : (start options).run.run workspace = (.error (.options .invalid), refused) := by
    rw [run_start fun _ => parentless, reporterOf, package]
    exact checked
  exact ⟨refused, run_bind_error starts, notes.logging, prepared_disk ▸ reported.disk⟩

/-- An analysis that is not there is told of in a log at work, of which nothing less than an error
is heard. -/
theorem run_loadValue_missing (logging : Logging home other workspace)
    (terse : other.verbose ≠ some true) {path : Path}
    (missing : workspace.disk.contains path = .ok false) :
    ∃ after, (loadValue path).run.run workspace =
        (.error (.loading (.notFound path.toString)), after) ∧
      Notes home other
        [.plain .error loadingSource (LoadFault.notFound path.toString).message]
        workspace after := by
  have unheard : ¬ IsHeard other
      (.plain .debug loadingSource ("Attempting to load JSON from file: " ++ path.toString)) := by
    change ¬ (buildLevel other).value ≤ Level.debug.value
    rw [buildLevel, if_neg terse]
    decide
  have silent : (log .debug loadingSource
      ("Attempting to load JSON from file: " ++ path.toString)).run.run workspace =
        (.ok (), workspace) := by
    rw [log, run_record, if_neg (mt (admits_iff logging _).mp unheard)]
  obtain ⟨after, told, notes⟩ := run_record_logging logging
    (.plain .error loadingSource (LoadFault.notFound path.toString).message)
  have kept : [Entry.plain .error loadingSource (LoadFault.notFound path.toString).message].filter
      (IsHeard other) =
        [.plain .error loadingSource (LoadFault.notFound path.toString).message] := by
    simp [isHeard_error]
  rw [kept] at notes
  refine ⟨after, ?_, notes⟩
  rw [loadValue_eq, run_bind_ok silent]
  change (lift (workspace.disk.contains path) >>= fun present => _ : Work Value).run.run
    workspace = _
  rw [missing, run_bind_ok (run_lift _ workspace)]
  exact run_bind_ok told

/-- **A log that a failed build has left at work hears of later builds.** Whatever logger a build is
given, that its analysis is not there is noted in the debug file, if the log still writes there. -/
theorem build_own_overheard {logger : OwnLogger} (found : options.ownLogger = some logger)
    (usable : (Reporter.own logger).Usable) (faultless : options.errors = [])
    (unwarned : options.warnings = []) (logging : Logging home other workspace)
    (terse : other.verbose ≠ some true)
    (missing : workspace.disk.contains (analysisPath options) = .ok false) :
    ∃ entries, Notes home other entries workspace ((build options).run.run workspace).2 ∧
      .plain .error loadingSource (LoadFault.notFound (analysisPath options).toString).message ∈
        entries := by
  have starts := run_start_own found faultless unwarned workspace
  obtain ⟨offered, callable⟩ := usable "info" (by decide)
  have informed := run_call offered callable "Analyzing Polymer components" workspace
  have loggingInformed : Logging home other { workspace with
      heard := workspace.heard ++ [("info", "Analyzing Polymer components")] } :=
    ⟨logging.inOrder, logging.level, logging.handlers⟩
  obtain ⟨lost, loads, notesLost⟩ := run_loadValue_missing loggingInformed terse missing
  have tried : (attempt options (.own logger)).run.run workspace =
      (.error (.loading (.notFound (analysisPath options).toString)), lost) :=
    run_bind_error ((run_bind_ok informed).trans (run_bind_error loads))
  have fails := (byReports_noting home other).failBuild (.own logger)
    (.loading (.notFound (analysisPath options).toString)) lost
  obtain ⟨entries, notes⟩ := fails notesLost.logging
  rw [run_build_failed starts tried]
  have first : Notes home other [.plain .error loadingSource
      (LoadFault.notFound (analysisPath options).toString).message] workspace lost :=
    ⟨notesLost.logging, notesLost.records, notesLost.heard, notesLost.clock, notesLost.file⟩
  exact ⟨_, first.trans notes, List.mem_cons_self⟩

/-! ## A build that writes over the debug file -/

/-- Settings that ask for a module in the place of the debug file. -/
def coveringSettings : Settings :=
  [("web_component", .json (.text "a.json")), ("react_components", .json (.list [.text "x-a"])),
    ("dest", .json (.text ".")), ("bundle", .json (.bool true)),
    ("bundle_name", .json (.text "wc-reactor.log")), ("logger", .logger sampleLogger)]

/-- The options that these settings stand for. -/
def coveringOptions : BuildOptions :=
  { webComponent := some "a.json", reactComponents := some [.text "x-a"]
    logger := some sampleLogger, dest := some ".", bundle := some true
    bundleName := some "wc-reactor.log" }

/-- These options are read from their settings, and have no fault. -/
theorem valid_coveringOptions : coveringOptions.Valid where
  read := by
    have translated : coveringSettings.translate = coveringSettings :=
      translate_of_known (by decide) rfl
    refine ⟨coveringSettings, ?_⟩
    unfold BuildOptions.ofSettings
    rw [translated]
    rfl
  faultless := rfl

/-- Where the module of these options is written to. -/
def coveringPath : Path := ⟨.relative, ["wc-reactor.log"]⟩

private theorem follow_coveringPath : sampleDisk.follow coveringPath = .ok (debugPlace ["w"]) :=
  Disk.follow_of_fits (by decide +kernel) rfl

private theorem follow_parent_coveringPath : sampleDisk.follow coveringPath.parent = .ok ["w"] :=
  Disk.follow_of_fits (by decide +kernel) rfl

private theorem buildsSample_coveringOptions :
    BuildsSample coveringOptions coveringPath ["w"] (debugPlace ["w"]) where
  valid := valid_coveringOptions
  read := rfl
  asked := rfl
  bundle := rfl
  spelled := by
    change Path.join (.ofString ".") (.ofString "wc-reactor.log") = coveringPath
    decide +kernel
  led := follow_coveringPath
  free := by decide
  above := follow_parent_coveringPath
  standing := by decide

/-! ## Builds that the log hears of -/

/-- Options with a logger for an analysis that is not there. -/
def lostOptions (logger : OwnLogger) : BuildOptions :=
  { webComponent := some "b.json", logger := some logger }

/-- The debug file is not always left alone by a build with a logger. One whose module is asked for
in its place writes there; one whose analysis is missing is noted there by the log of a build that
was refused before, and also where its logger does not count as true. -/
theorem build_own_touches :
    (∃ outcome after,
      (build coveringOptions).run.run { disk := sampleDisk } = (.ok outcome, after) ∧
      outcome.success = true ∧
      after.disk.node? (debugPlace ["w"]) ≠ sampleDisk.node? (debugPlace ["w"])) ∧
    (∃ refused,
      (build (BuildOptions.ofSettings [])).run.run { disk := sampleDisk } =
        (.error (.options .invalid), refused) ∧
      ((build (lostOptions sampleLogger)).run.run refused).2.disk.node? (debugPlace ["w"]) ≠
        refused.disk.node? (debugPlace ["w"])) ∧
    ((build (lostOptions { sampleLogger with truthy := false })).run.run
      { disk := sampleDisk }).2.disk.node? (debugPlace ["w"]) ≠
        sampleDisk.node? (debugPlace ["w"]) := by
  refine ⟨?_, ?_, by decide +kernel⟩
  · obtain ⟨outcome, after, ran, success, _, _, held⟩ :=
      file_of_run_build_sample buildsSample_coveringOptions
        (.inr (Option.some_ne_none sampleLogger))
    have absent : sampleDisk.node? (debugPlace ["w"]) = none := by decide
    refine ⟨outcome, after, ran, success, ?_⟩
    rw [Disk.file?_eq_some_iff.mp held, absent]
    exact Option.some_ne_none _
  · have inOrder : InOrder ["w"] ({ disk := sampleDisk } : Workspace).disk :=
      ⟨rfl, follow_debugFile_sampleDisk, by decide⟩
    have package : (BuildOptions.ofSettings []).ownLogger = none := rfl
    obtain ⟨refused, ran, _⟩ := run_build_refused package rfl inOrder
    obtain rfl : ((build (BuildOptions.ofSettings [])).run.run { disk := sampleDisk }).2 =
      refused := congrArg Prod.snd ran
    exact ⟨_, ran, by decide +kernel⟩

end ElementWrap.Work
