import ElementWrap.Proofs.Work.Failure
import ElementWrap.Proofs.Work.OwnLogger

/-! # Builds that answer

A build with valid options answers with an outcome, be it a success or a failure, unless it needs
the debug file and in the end a directory stands in the place of that file
(`ElementWrap.Work.build_answers_iff`). Without a logger of the caller every build needs the file,
to note a failure or to remove it after a success. With one, a build needs it only where an earlier
build has left a log that notes details.
-/

namespace ElementWrap.Work

open Files Log Layout

variable {home place : Location} {options : BuildOptions} {workspace before after : Workspace}
  {level : Level} {entry : Entry} {outcome : Outcome Artifact Fault}

/-! ## What lasts -/

/-- Directories stay directories and files stay files, and the log has its level and handlers. -/
structure Lasting (before after : Workspace) : Prop where
  directories : before.disk.KeepsDirectories after.disk
  files : ∀ place, before.disk.file? place ≠ none → after.disk.file? place ≠ none
  level : after.journal.level = before.journal.level
  handlers : after.journal.handlers = before.journal.handlers

instance : IsPreorder Workspace Lasting where
  refl workspace := ⟨.refl workspace.disk, fun _ => id, rfl, rfl⟩
  trans _ _ _ first second :=
    { directories := first.directories.trans second.directories
      files := fun place held => second.files place (first.files place held)
      level := second.level.trans first.level
      handlers := second.handlers.trans first.handlers }

private theorem lasting_put (free : workspace.disk.node? place ≠ some .directory)
    (content : List UInt8) :
    Lasting workspace
      { workspace with disk := workspace.disk.put place (.file content) } where
  directories := Disk.keepsDirectories_put free content
  files other held := by
    rw [Disk.file?_put free]
    split
    · exact Option.some_ne_none content
    · exact held
  level := rfl
  handlers := rfl

private theorem byReports_lasting : ByReports Lasting := by
  apply byReports_of_appends
  · exact fun workspace _ => ⟨.refl workspace.disk, fun _ => id, rfl, rfl⟩
  · exact fun workspace _ => ⟨.refl workspace.disk, fun _ => id, rfl, rfl⟩
  · intro workspace path _ content disk appended
    obtain ⟨place, written, _, free, rfl⟩ := Disk.appendFile_ok appended
    exact lasting_put free written

private theorem keptWriting_lasting (path : Path) : KeptWriting Lasting path where
  makes workspace disk _ extended :=
    ⟨extended.keepsDirectories, fun place held => by rwa [extended.file?], rfl, rfl⟩
  writes workspace content disk written := by
    obtain ⟨place, _, free, rfl⟩ := Disk.writeFile_eq_ok_iff.mp written
    exact lasting_put free content

private theorem Tidy.lasting (tidy : Tidy home before) (lasting : Lasting before after) :
    Tidy home after where
  atHome := lasting.directories.home.trans tidy.atHome
  files := by
    rw [Journal.files, lasting.handlers]
    exact tidy.files
  led := lasting.directories.follow tidy.led

/-- Where a file is held, there is no directory. -/
theorem noDirectory_of_file {disk : Disk} (held : disk.file? place ≠ none) :
    disk.node? place ≠ some .directory := by
  intro standing
  rw [Disk.file?, standing] at held
  exact held rfl

/-! ## Entries that are written down -/

/-- The log writes the entries of a level to a file. -/
def WritesDown (workspace : Workspace) (level : Level) : Prop :=
  workspace.journal.admits level = true ∧
    ∃ least path, Handler.file least path ∈ workspace.journal.handlers ∧ least.value ≤ level.value

private theorem Lasting.writesDown_iff (lasting : Lasting before after) :
    WritesDown after level ↔ WritesDown before level := by
  unfold WritesDown Journal.admits Journal.effectiveLevel
  rw [lasting.level, lasting.handlers]

/-- Handlers that have written an entry down, or had a debug file to begin with, leave one. -/
theorem file_of_handle {stamp : String} {handlers : List Handler}
    (led : workspace.disk.follow (debugFile home) = .ok (debugPlace home))
    (files : ∀ file ∈ handlers.filterMap Handler.file?, file = debugFile home)
    (written : workspace.disk.file? (debugPlace home) ≠ none ∨
      ∃ least path, Handler.file least path ∈ handlers ∧ least.value ≤ entry.level.value)
    (ran : (handle stamp entry handlers).run.run workspace = (.ok (), after)) :
    after.disk.file? (debugPlace home) ≠ none := by
  induction handlers generalizing workspace with
  | nil =>
      cases ran
      refine written.resolve_right ?_
      rintro ⟨_, _, member, _⟩
      exact absurd member List.not_mem_nil
  | cons handler rest ih =>
      cases handler with
      | quiet => exact ih led files (by simpa using written) ran
      | terminal _ => exact ih led files (by simpa using written) ran
      | file least path =>
          obtain rfl : path = debugFile home := files path List.mem_cons_self
          have filesRest : ∀ file ∈ rest.filterMap Handler.file?, file = debugFile home :=
            fun file member => files file (List.mem_cons_of_mem _ member)
          rw [run_handle_file] at ran
          split at ran
          · obtain ⟨_, between, appends, ran⟩ := run_bind_eq_ok_iff.mp ran
            rw [run_onDisk] at appends
            split at appends
            · next disk appended =>
                cases appends
                obtain ⟨place, content, leads, free, rfl⟩ := Disk.appendFile_ok appended
                obtain rfl := Except.ok.inj (leads.symm.trans led)
                refine ih ((Disk.keepsDirectories_put free content).follow led) filesRest
                  (.inl ?_) ran
                rw [Disk.file?_put free, if_pos rfl]
                exact Option.some_ne_none content
            · exact nomatch appends
          · next high =>
              refine ih led filesRest (written.imp_right ?_) ran
              rintro ⟨low, other, member, takes⟩
              rcases List.mem_cons.mp member with same | member
              · cases same
                exact absurd takes high
              · exact ⟨low, other, member, takes⟩

private theorem file_of_record (tidy : Tidy home workspace)
    (written : WritesDown workspace entry.level)
    (ran : (record entry).run.run workspace = (.ok (), after)) :
    after.disk.file? (debugPlace home) ≠ none := by
  rw [run_record, if_pos written.1] at ran
  have led : ({ workspace with journal :=
      { workspace.journal with records := workspace.journal.records ++ [entry] } } :
      Workspace).disk.follow (debugFile home) = .ok (debugPlace home) := tidy.led
  exact file_of_handle led tidy.files (.inr written.2) ran

private theorem run_handle_unwritten {stamp : String} {handlers : List Handler}
    (high : ∀ least path, Handler.file least path ∈ handlers → ¬ least.value ≤ entry.level.value)
    (workspace : Workspace) :
    (handle stamp entry handlers).run.run workspace = (.ok (), workspace) := by
  induction handlers with
  | nil => rfl
  | cons handler rest ih =>
      have highRest := fun least path member =>
        high least path (List.mem_cons_of_mem handler member)
      cases handler with
      | quiet => exact ih highRest
      | terminal _ => exact ih highRest
      | file least path =>
          rw [run_handle_file, if_neg (high least path List.mem_cons_self)]
          exact ih highRest

/-- **When an entry can be made**: always, unless it is to be written down where a directory
stands. -/
theorem record_ok_iff (tidy : Tidy home workspace) (entry : Entry) :
    ((record entry).run.run workspace).1 = .ok () ↔
      ¬ (WritesDown workspace entry.level ∧
        workspace.disk.node? (debugPlace home) = some .directory) := by
  constructor
  · rintro ran ⟨written, standing⟩
    have held := file_of_record tidy written (Prod.ext ran rfl)
    have reported := (reportsOnly_record home entry).steps workspace tidy
    exact noDirectory_of_file held (reported.disk.debug.mpr standing)
  · intro free
    by_cases written : WritesDown workspace entry.level
    · exact (reportsOnly_record home entry).succeeds workspace
        ⟨tidy, .inr fun standing => free ⟨written, standing⟩⟩
    · rw [run_record]
      split
      · next admitted =>
          rw [run_handle_unwritten fun least path member low =>
            written ⟨admitted, least, path, member, low⟩]
      · rfl

/-! ## What failures and successes need -/

/-- Without a logger of the caller, a failure is told of where no directory stands in the place of
the debug file. -/
theorem failBuild_package_ok_iff (tidy : Tidy home workspace)
    (written : WritesDown workspace .error) (source : String) (fault : Fault) :
    (∃ outcome, ((failBuild (.package source) fault).run.run workspace).1 = .ok outcome) ↔
      workspace.disk.node? (debugPlace home) ≠ some .directory := by
  constructor
  · rintro ⟨outcome, ran⟩ standing
    obtain ⟨_, told, tells, _⟩ := run_bind_eq_ok_iff.mp (Prod.ext ran rfl)
    exact (record_ok_iff tidy (.plain .error source _)).mp (congrArg Prod.fst tells)
      ⟨written, standing⟩
  · intro free
    have usable : (Reporter.package source).Usable := trivial
    obtain ⟨_, ran, _⟩ := run_failBuild usable ⟨tidy, .inr free⟩ fault
    exact ⟨_, congrArg Prod.fst ran⟩

/-- A logger of the caller is told of a failure, and the details are noted if the log notes any. -/
theorem failBuild_own_ok_iff {logger : OwnLogger} (usable : (Reporter.own logger).Usable)
    (tidy : Tidy home workspace) (fault : Fault) :
    (∃ outcome, ((failBuild (.own logger) fault).run.run workspace).1 = .ok outcome) ↔
      ¬ (WritesDown workspace .debug ∧
        workspace.disk.node? (debugPlace home) = some .directory) := by
  obtain ⟨offered, callable⟩ := usable "error" (by decide)
  have tells := run_call offered callable ("Build failed: " ++ fault.message) workspace
  have tidyTold : Tidy home { workspace with
      heard := workspace.heard ++ [("error", "Build failed: " ++ fault.message)] } :=
    ⟨⟨tidy.atHome, tidy.files⟩, tidy.led⟩
  have fails : (failBuild (.own logger) fault).run.run workspace =
      (record (failureDetails fault) >>= fun _ =>
        (pure (.failure (some ("Build failed: " ++ fault.message)) (some fault)) : Work _)).run.run
          { workspace with
            heard := workspace.heard ++ [("error", "Build failed: " ++ fault.message)] } :=
    run_bind_ok tells
  have noted := record_ok_iff tidyTold (failureDetails fault)
  change _ ↔ ¬ (WritesDown workspace .debug ∧
    workspace.disk.node? (debugPlace home) = some .directory) at noted
  rw [fails, ← noted]
  constructor
  · rintro ⟨outcome, ran⟩
    obtain ⟨_, after, notes, _⟩ := run_bind_eq_ok_iff.mp (Prod.ext ran rfl)
    exact congrArg Prod.fst notes
  · intro notes
    exact ⟨_, congrArg Prod.fst (run_bind_ok (Prod.ext notes rfl))⟩

/-- The debug file is removed, unless a directory stands in its place. -/
theorem clearDebugFile_package_ok_iff (tidy : Tidy home workspace)
    (files : workspace.journal.files = [debugFile home]) (source : String)
    (outcome : Outcome Artifact Fault) :
    (∃ answer, ((clearDebugFile (.package source) >>= fun _ =>
        (pure outcome : Work _)).run.run workspace).1 = .ok answer) ↔
      ((clearDebugFile (.package source) >>= fun _ =>
        (pure outcome : Work _)).run.run workspace).2.disk.node? (debugPlace home) ≠
          some .directory := by
  have clears : (clearDebugFile (.package source)).run.run workspace = _ :=
    run_clearDebugFile_package files
  cases removed : workspace.disk.removeFile (debugFile home) with
  | error fault =>
      rw [removed] at clears
      rw [run_bind_error clears]
      refine iff_of_false (fun ⟨_, same⟩ => nomatch same) fun free => ?_
      obtain ⟨_, done⟩ := Disk.exists_removeFile tidy.led free
      exact nomatch removed.symm.trans done
  | ok disk =>
      rw [removed] at clears
      rw [run_bind_ok clears]
      refine iff_of_true ⟨outcome, rfl⟩ ?_
      change disk.node? (debugPlace home) ≠ some .directory
      rcases Disk.removeFile_ok removed with ⟨rfl, free⟩ | ⟨place, content, leads, held, rfl⟩
      · rw [free _ tidy.led]
        exact nofun
      · obtain rfl := Except.ok.inj (leads.symm.trans tidy.led)
        exact fun standing => nomatch held.symm.trans
          ((Disk.keepsDirectories_of_erase held).kept _ standing)

/-- A log that notes details has noted some in the debug file before anything is written. -/
theorem file_of_attempt {reporter : Reporter} (tidy : Tidy home workspace)
    (written : WritesDown workspace .debug)
    (ran : (attempt options reporter).run.run workspace = (.ok outcome, after)) :
    after.disk.file? (debugPlace home) ≠ none := by
  obtain ⟨analysis, loaded, analyzes, writes⟩ := run_bind_eq_ok_iff.mp ran
  obtain ⟨_, informed, informs, loads⟩ := run_bind_eq_ok_iff.mp analyzes
  obtain ⟨value, read, reads, makes⟩ := run_bind_eq_ok_iff.mp loads
  rw [loadValue_eq] at reads
  obtain ⟨_, noted, notes, finds⟩ := run_bind_eq_ok_iff.mp reads
  have lasting := (byReports_lasting.info reporter _).of_run informs
  have held := file_of_record (tidy.lasting lasting) (lasting.writesDown_iff.mpr written) notes
  have found := (byReports_lasting.findValue _).of_run finds
  have makesOnly : Steps Lasting (lift (Analysis.ofValue value)) := .lift _
  have made := makesOnly.of_run makes
  have wrote := (byReports_lasting.generateAndWrite (fun _ _ _ _ => keptWriting_lasting _)
    reporter).of_run writes
  exact wrote.files _ (made.files _ (found.files _ held))

/-! ## Whole builds -/

/-- A build that was given no logger writes failures down. -/
theorem writesDown_prepared (package : options.ownLogger = none) (workspace : Workspace) :
    WritesDown (prepared options workspace) .error := by
  have low : (buildLevel options).value ≤ Level.error.value := isHeard_error options "" ""
  have chosen : buildLevel options ≠ .unset := by
    unfold buildLevel
    split <;> decide
  unfold prepared WritesDown Journal.admits Journal.effectiveLevel
  rw [package]
  refine ⟨?_, buildLevel options, debugFile workspace.disk.home, by simp [Journal.setUp], low⟩
  simpa [Journal.setUp, chosen] using low

/-- Without a logger of the caller, a build answers unless a directory stands in the place of the
debug file in the end. -/
theorem build_package_ok_iff (package : options.ownLogger = none) (valid : options.Valid)
    (tidy : Tidy home (prepared options workspace)) :
    (∃ outcome, ((build options).run.run workspace).1 = .ok outcome) ↔
      ((build options).run.run workspace).2.disk.node? (debugPlace home) ≠ some .directory := by
  have atHome : workspace.disk.home = home := prepared_disk ▸ tidy.atHome
  have parentless : ".." ∉ workspace.disk.home := atHome ▸ parentless_of_led tidy.led
  have reporter : reporterOf options = .package rootSource := by rw [reporterOf, package]
  have lasting := byReports_lasting.check options (reporterOf options) (prepared options workspace)
  rw [← run_start fun _ => parentless] at lasting
  rcases starts : (start options).run.run workspace with ⟨fault | answered, started⟩ <;>
    rw [starts] at lasting
  · -- Valid options are told to stop only where the log can not be written.
    have standing : (prepared options workspace).disk.node? (debugPlace home) =
        some .directory := by
      by_contra free
      obtain ⟨_, ran, _⟩ := run_start_ok valid ⟨tidy, .inr free⟩
      cases starts.symm.trans ran
    have stops : (build options).run.run workspace = (.error fault, started) :=
      run_bind_error starts
    rw [stops]
    refine iff_of_false ?_ fun free => free (lasting.directories.kept _ standing)
    rintro ⟨_, same⟩
    cases same
  · obtain rfl : answered = .package rootSource := by
      rw [run_start fun _ => parentless, reporter] at starts
      exact (check_ok starts).1
    have tidyStart := tidy.lasting lasting
    have later := trans_of Lasting lasting (byReports_lasting.attempt starts
      fun path _ => keptWriting_lasting path)
    rcases tried : (attempt options (.package rootSource)).run.run started with
      ⟨fault | outcome, stopped⟩ <;> rw [tried] at later
    · have written := later.writesDown_iff.mpr (writesDown_prepared package workspace)
      have reported := (byReports_reporting home).failBuild (.package rootSource) fault stopped
        (tidy.lasting later)
      rw [run_build_failed starts tried, Ne, reported.disk.debug]
      exact failBuild_package_ok_iff (tidy.lasting later) written rootSource fault
    · have files : stopped.journal.files = [debugFile home] := by
        rw [Journal.files, later.handlers, ← Journal.files, files_prepared atHome (.inl package),
          logFiles, if_pos package]
      rw [run_build_attempted starts tried (success_of_attempt tidyStart tried)]
      exact clearDebugFile_package_ok_iff (tidy.lasting later) files rootSource outcome

/-- With a logger of the caller, a build answers unless the log notes details and a directory stands
in the place of the debug file in the end. -/
theorem build_own_ok_iff {logger : OwnLogger} (found : options.ownLogger = some logger)
    (valid : options.Valid) (tidy : Tidy home workspace) :
    (∃ outcome, ((build options).run.run workspace).1 = .ok outcome) ↔
      ¬ (WritesDown workspace .debug ∧
        ((build options).run.run workspace).2.disk.node? (debugPlace home) =
          some .directory) := by
  have starts := run_start_own found (List.isEmpty_iff.mp valid.faultless)
    (warnings_of_logger valid found) workspace
  have lasting := byReports_lasting.attempt starts fun path _ => keptWriting_lasting path
  rcases tried : (attempt options (.own logger)).run.run workspace with
    ⟨fault | outcome, stopped⟩ <;> rw [tried] at lasting
  · have reported := (byReports_reporting home).failBuild (.own logger) fault stopped
      (tidy.lasting lasting)
    rw [run_build_failed starts tried, reported.disk.debug, ← lasting.writesDown_iff]
    exact failBuild_own_ok_iff (usable_own found valid) (tidy.lasting lasting) fault
  · rw [run_build_attempted_own starts tried (success_of_attempt tidy tried)]
    refine iff_of_true ⟨outcome, rfl⟩ ?_
    rintro ⟨written, standing⟩
    exact noDirectory_of_file (file_of_attempt tidy written tried) standing

/-- A build needs the debug file: it has no logger of the caller, or the log notes details. -/
def NeedsDebugFile (options : BuildOptions) (workspace : Workspace) : Prop :=
  options.ownLogger = none ∨ WritesDown workspace .debug

/-- **When a build answers.** Whatever was built before and whatever is on the disk, let the working
directory be in place. A build with valid options answers with an outcome unless it needs the debug
file and in the end a directory stands in its place. It does answer if none stood there before and
the build writes to no path that passes it. -/
theorem build_answers_iff (reachable : Reachable home workspace) (valid : options.Valid)
    (led : workspace.disk.follow (debugFile home) = .ok (debugPlace home)) :
    ((∃ outcome, ((build options).run.run workspace).1 = .ok outcome) ↔
      ¬ (NeedsDebugFile options workspace ∧
        ((build options).run.run workspace).2.disk.node? (debugPlace home) =
          some .directory)) ∧
    (workspace.disk.node? (debugPlace home) ≠ some .directory → Avoids home options workspace →
      ∃ outcome, ((build options).run.run workspace).1 = .ok outcome) := by
  have confined := reachable.confined (parentless_of_led led)
  have answers : (∃ outcome, ((build options).run.run workspace).1 = .ok outcome) ↔
      ¬ (NeedsDebugFile options workspace ∧
        ((build options).run.run workspace).2.disk.node? (debugPlace home) =
          some .directory) := by
    cases found : options.ownLogger with
    | none =>
        have tidy : Tidy home (prepared options workspace) :=
          tidy_prepared confined.atHome led (.inl found)
        have needs : NeedsDebugFile options workspace := .inl found
        rw [build_package_ok_iff found valid tidy, and_iff_right needs]
    | some logger =>
        have needs : NeedsDebugFile options workspace ↔ WritesDown workspace .debug :=
          or_iff_right (by simp [found])
        rw [build_own_ok_iff found valid ⟨confined, led⟩, needs]
  refine ⟨answers, fun free avoids => answers.mpr ?_⟩
  rintro ⟨_, standing⟩
  exact (inOrder_build ⟨confined.atHome, led, free⟩ avoids).free standing

/-- A build of the sample answers. -/
theorem build_answers_sample :
    ∃ outcome, ((build (bundleOptions [.text "x-a"])).run.run { disk := sampleDisk }).1 =
      .ok outcome :=
  (build_answers_iff (.fresh rfl rfl) (valid_bundleOptions _) follow_debugFile_sampleDisk).2
    (by decide) (avoids_of_bundlePath rfl (target_sampleArtifact _) _)

/-! ## A directory in the place of the debug file -/

/-- No directory is lost. -/
def KeepingDirectories (before after : Workspace) : Prop :=
  before.disk.KeepsDirectories after.disk

instance : IsPreorder Workspace KeepingDirectories where
  refl workspace := .refl workspace.disk
  trans _ _ _ := .trans

/-- No build removes a directory. -/
theorem keepsDirectories_build (parentless : ".." ∉ workspace.disk.home) (options : BuildOptions) :
    workspace.disk.KeepsDirectories ((build options).run.run workspace).2.disk := by
  have reports : ByReports KeepingDirectories :=
    ⟨fun entry workspace => (byReports_lasting.record entry workspace).directories,
      fun logger method text workspace =>
        (byReports_lasting.call logger method text workspace).directories⟩
  have prepares : KeepingDirectories workspace (prepared options workspace) := by
    rw [KeepingDirectories, prepared_disk]
    exact .refl workspace.disk
  have kept (path : Path) : KeptWriting KeepingDirectories path :=
    ⟨fun workspace disk along extended =>
        ((keptWriting_lasting path).makes workspace disk along extended).directories,
      fun workspace content disk written =>
        ((keptWriting_lasting path).writes workspace content disk written).directories⟩
  refine reports.build (fun _ => parentless) prepares (fun path _ => kept path) ?_
  apply steps_clearDebugFile
  · exact fun workspace => .refl workspace.disk
  · intro workspace path disk removed
    rcases Disk.removeFile_ok removed with ⟨rfl, _⟩ | ⟨place, content, _, held, rfl⟩
    · exact .refl workspace.disk
    · exact Disk.keepsDirectories_erase held

/-- A working directory with the analysis of the sample and a directory in the place of the debug
file. -/
def blockedDisk : Disk := sampleDisk.put (debugPlace ["w"]) .directory

/-- A build that could do all of its work does not answer, since its debug file can not be removed.
-/
theorem not_answers_blocked :
    (bundleOptions [.text "x-a"]).Valid ∧ Reachable ["w"] { disk := blockedDisk } ∧
      ∃ fault after, (build (bundleOptions [.text "x-a"])).run.run { disk := blockedDisk } =
        (.error fault, after) := by
  have led : blockedDisk.follow (debugFile ["w"]) = .ok (debugPlace ["w"]) := by
    have free : sampleDisk.node? (debugPlace ["w"]) = none := by decide
    exact (Disk.Extends.put_directory free).keepsDirectories.follow follow_debugFile_sampleDisk
  have valid := valid_bundleOptions [.text "x-a"]
  refine ⟨valid, .fresh rfl rfl, ?_⟩
  have standing : ((build (bundleOptions [.text "x-a"])).run.run
      { disk := blockedDisk }).2.disk.node? (debugPlace ["w"]) = some .directory :=
    (keepsDirectories_build (by decide) _).kept _ (by decide)
  have tidy : Tidy ["w"] (prepared (bundleOptions [.text "x-a"]) { disk := blockedDisk }) :=
    tidy_prepared rfl led (.inl rfl)
  rcases ran : (build (bundleOptions [.text "x-a"])).run.run { disk := blockedDisk } with
    ⟨fault | outcome, after⟩
  · exact ⟨fault, after, rfl⟩
  · exact absurd standing ((build_package_ok_iff rfl valid tidy).mp ⟨outcome, by rw [ran]⟩)

end ElementWrap.Work
