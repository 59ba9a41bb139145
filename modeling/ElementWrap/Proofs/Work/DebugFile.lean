import ElementWrap.Proofs.Work.History
import ElementWrap.Proofs.Work.Rebuild

/-! # The life of the debug file

A build that was given no logger notes its entries in the debug file, one line each, behind what the
file held; an entry without an encoding leaves nothing there. If the build succeeds, the file is
gone and the log writes to no file any more; if it fails or its options are not valid, the file
stays, with what went wrong among its entries. This holds of every build in a series of builds
(`ElementWrap.Work.debugFile_afterBuilds`).
-/

namespace ElementWrap.Work

open Files Log Layout

variable {home : Location} {options : BuildOptions} {workspace before between after : Workspace}

/-! ## Entries in the file -/

/-- What entries leave in a file, the first of them with the `first` stamp of a clock. -/
def linesFrom (clock : Nat → String) (first : Nat) (entries : List Entry) : List UInt8 :=
  (entries.zipIdx first).flatMap fun (entry, index) => entry.bytes (clock index)

private theorem linesFrom_append (clock : Nat → String) (first : Nat) (earlier later : List Entry) :
    linesFrom clock first (earlier ++ later) =
      linesFrom clock first earlier ++ linesFrom clock (first + earlier.length) later := by
  unfold linesFrom
  rw [List.zipIdx_append, List.flatMap_append]

/-- What a file holds after entries were written behind what it held: the first of them makes the
file, if it is not there, whatever it leaves in it. -/
def noted (clock : Nat → String) (first : Nat) (held : Option (List UInt8))
    (entries : List Entry) : Option (List UInt8) :=
  if entries.isEmpty then held else some (held.getD [] ++ linesFrom clock first entries)

private theorem noted_append (clock : Nat → String) (first : Nat) (held : Option (List UInt8))
    (earlier later : List Entry) :
    noted clock first held (earlier ++ later) =
      noted clock (first + earlier.length) (noted clock first held earlier) later := by
  cases earlier with
  | nil => rfl
  | cons entry earlier =>
      cases later with
      | nil => simp [noted]
      | cons other later =>
          unfold noted
          rw [linesFrom_append]
          simp

/-- An entry is let through by the log of a build. -/
def IsHeard (options : BuildOptions) (entry : Entry) : Prop :=
  (buildLevel options).value ≤ entry.level.value

instance (options : BuildOptions) : DecidablePred (IsHeard options) :=
  fun entry => inferInstanceAs (Decidable ((buildLevel options).value ≤ entry.level.value))

/-- The log is that of a build: it has the level of the build, and it writes to the debug file. -/
structure Logging (home : Location) (options : BuildOptions) (workspace : Workspace) : Prop where
  inOrder : InOrder home workspace.disk
  level : workspace.journal.level = buildLevel options
  handlers : workspace.journal.handlers =
    [.terminal (buildLevel options), .file (buildLevel options) (debugFile home)]

/-- Entries were made, each of which the log lets through, and noted in the debug file. -/
structure Notes (home : Location) (options : BuildOptions) (entries : List Entry)
    (before after : Workspace) : Prop where
  logging : Logging home options after
  records : after.journal.records = before.journal.records ++ entries
  heard : ∀ entry ∈ entries, IsHeard options entry
  clock : after.clock = before.clock
  file : after.disk.file? (debugPlace home) =
    noted before.clock before.journal.records.length (before.disk.file? (debugPlace home)) entries

/-- What leaves the log and the debug file alone notes nothing. -/
theorem Notes.nothing (logging : Logging home options after)
    (records : after.journal.records = before.journal.records) (clock : after.clock = before.clock)
    (file : after.disk.file? (debugPlace home) = before.disk.file? (debugPlace home)) :
    Notes home options [] before after where
  logging := logging
  records := by rw [records, List.append_nil]
  heard _ member := absurd member List.not_mem_nil
  clock := clock
  file := file

/-- Notes are taken one after the other. -/
theorem Notes.trans {first second : List Entry} (earlier : Notes home options first before between)
    (later : Notes home options second between after) :
    Notes home options (first ++ second) before after where
  logging := later.logging
  records := by rw [later.records, earlier.records, List.append_assoc]
  heard entry member := (List.mem_append.mp member).elim (earlier.heard entry) (later.heard entry)
  clock := later.clock.trans earlier.clock
  file := by
    rw [later.file, earlier.file, earlier.clock, earlier.records, List.length_append, noted_append]

/-- A log at work has noted entries. -/
def Noting (home : Location) (options : BuildOptions) (before after : Workspace) : Prop :=
  Logging home options before → ∃ entries, Notes home options entries before after

instance : IsPreorder Workspace (Noting home options) where
  refl _ logging := ⟨[], .nothing logging rfl rfl rfl⟩
  trans _ _ _ first second logging := by
    obtain ⟨earlier, notesFirst⟩ := first logging
    obtain ⟨later, notesSecond⟩ := second notesFirst.logging
    exact ⟨earlier ++ later, notesFirst.trans notesSecond⟩

/-! ## Reports -/

/-- A log of a build admits what is heard at the build's level. -/
theorem admits_iff (logging : Logging home options workspace) (entry : Entry) :
    workspace.journal.admits entry.level = true ↔ IsHeard options entry := by
  have chosen : buildLevel options ≠ .unset := by
    unfold buildLevel
    split <;> decide
  rw [Journal.admits, Journal.effectiveLevel, logging.level, if_neg chosen, decide_eq_true_iff]
  rfl

/-- The handlers of a build write an entry that is let through behind the file. -/
theorem run_handle_logging (workspace : Workspace) (inOrder : InOrder home workspace.disk)
    (stamp : String) {entry : Entry} (heard : IsHeard options entry) :
    (handle stamp entry [.terminal (buildLevel options),
        .file (buildLevel options) (debugFile home)]).run.run workspace =
      (.ok (), { workspace with
        disk := workspace.disk.put (debugPlace home) (.file
          ((workspace.disk.file? (debugPlace home)).getD [] ++ entry.bytes stamp)) }) := by
  have high : (buildLevel options).value ≤ entry.level.value := heard
  change (handle stamp entry [.file (buildLevel options) (debugFile home)]).run.run workspace = _
  rw [run_handle_file, if_pos high, run_bind, run_onDisk,
    Disk.appendFile_of_free inOrder.led inOrder.free]
  rfl

/-- An entry that is let through is the next one in the debug file. -/
theorem run_record_logging (logging : Logging home options workspace) (entry : Entry) :
    ∃ after, (record entry).run.run workspace = (.ok (), after) ∧
      Notes home options ([entry].filter (IsHeard options)) workspace after := by
  rw [run_record]
  by_cases heard : IsHeard options entry
  · have kept : [entry].filter (IsHeard options) = [entry] := by simp [heard]
    rw [if_pos ((admits_iff logging entry).mpr heard), logging.handlers, kept]
    refine ⟨_, run_handle_logging _ ?_ _ heard, ?_⟩
    · exact logging.inOrder
    exact {
      logging := ⟨logging.inOrder.put logging.inOrder.free _, logging.level, logging.handlers⟩
      records := rfl
      heard := List.forall_mem_singleton.mpr heard
      clock := rfl
      file := by
        rw [Disk.file?_put logging.inOrder.free, if_pos rfl]
        simp [noted, linesFrom] }
  · have dropped : [entry].filter (IsHeard options) = [] := by simp [heard]
    rw [if_neg (mt (admits_iff logging entry).mp heard), dropped]
    exact ⟨workspace, rfl, .nothing logging rfl rfl rfl⟩

/-- Reports take notes. -/
theorem byReports_noting (home : Location) (options : BuildOptions) :
    ByReports (Noting home options) where
  record entry := by
    intro workspace logging
    obtain ⟨after, ran, notes⟩ := run_record_logging logging entry
    rw [ran]
    exact ⟨_, notes⟩
  call logger method text := by
    unfold call
    split
    · exact .throw _
    · split
      · intro workspace logging
        exact ⟨[], .nothing ⟨logging.inOrder, logging.level, logging.handlers⟩ rfl rfl rfl⟩
      · exact .throw _

/-- Entries that are made one after the other are noted one after the other. -/
theorem run_forM_record (logging : Logging home options workspace) (items : List α)
    (entry : α → Entry) :
    ∃ after, (items.forM fun item => record (entry item)).run.run workspace = (.ok (), after) ∧
      Notes home options ((items.map entry).filter (IsHeard options)) workspace after := by
  induction items generalizing workspace with
  | nil => exact ⟨workspace, rfl, .nothing logging rfl rfl rfl⟩
  | cons item rest ih =>
      obtain ⟨between, first, notesFirst⟩ := run_record_logging logging (entry item)
      obtain ⟨after, later, notesLater⟩ := ih notesFirst.logging
      refine ⟨after, (run_bind_ok first).trans later, ?_⟩
      rw [List.map_cons, ← List.singleton_append, List.filter_append]
      exact notesFirst.trans notesLater

/-- An error is heard in every build. -/
theorem isHeard_error (options : BuildOptions) (source text : String) :
    IsHeard options (.plain .error source text) := by
  change (buildLevel options).value ≤ Level.error.value
  unfold buildLevel
  split <;> decide

private theorem mem_filter_isHeard_error {entries : List Entry} {source text : String}
    (member : .plain .error source text ∈ entries) :
    .plain .error source text ∈ entries.filter (IsHeard options) :=
  List.mem_filter.mpr ⟨member, decide_eq_true (isHeard_error options source text)⟩

/-! ## The parts of a build -/

/-- A build that was given no logger sets up its log. -/
theorem logging_prepared (package : options.ownLogger = none)
    (inOrder : InOrder home workspace.disk) :
    Logging home options (prepared options workspace) := by
  unfold prepared
  rw [package]
  exact ⟨inOrder, rfl, by rw [inOrder.atHome]; rfl⟩

/-- Faults of the options are noted, and they stop the build. -/
theorem run_check_logging (logging : Logging home options workspace) :
    ∃ entries after, (check options (.package rootSource)).run.run workspace =
        (if options.isValid then .ok (.package rootSource) else .error (.options .invalid), after) ∧
      Notes home options entries workspace after ∧
      ∀ fault ∈ options.errors, .plain .error rootSource fault.message ∈ entries := by
  obtain ⟨between, toldErrors, notesErrors⟩ := run_forM_record logging options.errors
    fun fault => .plain .error rootSource fault.message
  obtain ⟨after, toldWarnings, notesWarnings⟩ := run_forM_record notesErrors.logging
    options.warnings fun text => .plain .warning rootSource text
  refine ⟨_, after, ?_, notesErrors.trans notesWarnings, fun fault member => ?_⟩
  · refine (run_bind_ok toldErrors).trans ((run_bind_ok toldWarnings).trans ?_)
    cases options.isValid <;> rfl
  · exact List.mem_append_left _
      (mem_filter_isHeard_error (List.mem_map.mpr ⟨fault, member, rfl⟩))

/-- A failure is noted and becomes the outcome. -/
theorem run_failBuild_logging (logging : Logging home options workspace) (fault : Fault) :
    ∃ entries after, (failBuild (.package rootSource) fault).run.run workspace =
        (.ok (.failure (some ("Build failed: " ++ fault.message)) (some fault)), after) ∧
      Notes home options entries workspace after ∧
      .plain .error rootSource ("Build failed: " ++ fault.message) ∈ entries := by
  obtain ⟨between, told, notesTold⟩ := run_record_logging logging
    (.plain .error rootSource ("Build failed: " ++ fault.message))
  obtain ⟨after, logged, notesLogged⟩ := run_record_logging notesTold.logging
    (failureDetails fault)
  refine ⟨_, after, (run_bind_ok told).trans (run_bind_ok logged), notesTold.trans notesLogged, ?_⟩
  exact List.mem_append_left _ (mem_filter_isHeard_error (List.mem_singleton_self _))

private theorem keptAlong_noting {path : Path} (apart : ¬ path.Passes home (debugPlace home)) :
    KeptAlong (Noting home options) path := by
  intro workspace disk changed logging
  have inOrder := logging.inOrder.along apart changed
  have same : disk.node? (debugPlace home) = workspace.disk.node? (debugPlace home) :=
    changed.elsewhere _ (by rwa [logging.inOrder.atHome])
  refine ⟨[], .nothing ⟨inOrder, logging.level, logging.handlers⟩ rfl rfl ?_⟩
  rw [Disk.file?, Disk.file?, same]

/-- What was generated and written is a success. -/
theorem success_of_attempt {reporter : Reporter} {outcome : Outcome Artifact Fault}
    (tidy : Tidy home workspace)
    (ran : (attempt options reporter).run.run workspace = (.ok outcome, after)) :
    outcome.success = true := by
  obtain ⟨analysis, between, analyzed, wrote⟩ := run_bind_eq_ok_iff.mp ran
  have reported := ((byReports_reporting home).analyze _ reporter).of_run analyzed tidy
  obtain ⟨generated, made, rfl, _⟩ := generateAndWrite_ok (tidy.reported reported) wrote
  change generated.success = true
  exact success_of_generate made

private theorem Logging.files (logging : Logging home options workspace) :
    workspace.journal.files = [debugFile home] := by
  rw [Journal.files, logging.handlers]
  rfl

/-- A log of a build writes to the debug file alone. -/
theorem Logging.tidy (logging : Logging home options workspace) : Tidy home workspace where
  atHome := logging.inOrder.atHome
  files := by simp [logging.files]
  led := logging.inOrder.led

/-- A log at work is taken off the debug file, which is removed. -/
theorem run_clearDebugFile_logging (logging : Logging home options workspace)
    (package : options.ownLogger = none) :
    ∃ after, (clearDebugFile (.package rootSource)).run.run workspace = (.ok (), after) ∧
      after.journal.records = workspace.journal.records ∧
      after.disk.node? (debugPlace home) = none ∧ after.journal.files = [] := by
  obtain ⟨disk, removed⟩ := Disk.exists_removeFile logging.inOrder.led logging.inOrder.free
  have ran : (clearDebugFile (.package rootSource)).run.run workspace =
      (.ok (), { workspace with disk, journal := workspace.journal.detach }) := by
    rw [run_clearDebugFile_package logging.files, removed]
  have files : workspace.journal.files = logFiles home options := by
    rw [logging.files, logFiles, if_pos package]
  have reporter : reporterOf options = .package rootSource := by rw [reporterOf, package]
  have cleared := clearDebugFile_ok logging.tidy files (reporter ▸ ran)
  exact ⟨_, ran, rfl, cleared.swept package, cleared.files⟩

/-! ## Whole builds -/

/-- How a build that was given no logger goes wrong, and the errors that it has made entries of:
every fault of options that are not valid, or the failure that becomes the outcome. -/
inductive GoesWrong (options : BuildOptions) (entries : List Entry) :
    Except Fault (Outcome Artifact Fault) → Prop
  | invalid (faulty : options.isValid = false)
    (told : ∀ fault ∈ options.errors, .plain .error rootSource fault.message ∈ entries) :
    GoesWrong options entries (.error (.options .invalid))
  | failed (fault : Fault)
    (told : .plain .error rootSource ("Build failed: " ++ fault.message) ∈ entries) :
    GoesWrong options entries
      (.ok (.failure (some ("Build failed: " ++ fault.message)) (some fault)))

private theorem GoesWrong.ne_nil {entries : List Entry}
    {result : Except Fault (Outcome Artifact Fault)}
    (wrong : GoesWrong options entries result) : entries ≠ [] := by
  cases wrong with
  | invalid faulty told =>
      obtain ⟨fault, rest, errors⟩ : ∃ fault rest, options.errors = fault :: rest := by
        apply List.exists_cons_of_ne_nil
        rintro none
        simp [BuildOptions.isValid, none] at faulty
      exact List.ne_nil_of_mem (told fault (by simp [errors]))
  | failed fault told => exact List.ne_nil_of_mem told

/-- What a build that was given no logger leaves: the debug file is gone, and the log writes to no
file; or something went wrong, and the debug file holds its entries behind what it held. -/
inductive Leaves (home : Location) (options : BuildOptions) (entries : List Entry)
    (before after : Workspace) : Except Fault (Outcome Artifact Fault) → Prop
  | cleared (outcome : Outcome Artifact Fault) (success : outcome.success = true)
    (swept : after.disk.node? (debugPlace home) = none) (files : after.journal.files = []) :
    Leaves home options entries before after (.ok outcome)
  | kept {result : Except Fault (Outcome Artifact Fault)} (wrong : GoesWrong options entries result)
    (file : after.disk.file? (debugPlace home) =
      some ((before.disk.file? (debugPlace home)).getD [] ++
        linesFrom before.clock before.journal.records.length entries)) :
    Leaves home options entries before after result

private theorem Notes.leaves {entries : List Entry} {result : Except Fault (Outcome Artifact Fault)}
    (notes : Notes home options entries before after) (wrong : GoesWrong options entries result) :
    Leaves home options entries before after result := by
  refine .kept wrong ?_
  rw [notes.file, noted, if_neg (by simpa using wrong.ne_nil)]

/-- Setting up the log makes no entry. -/
theorem Notes.of_prepared {entries : List Entry} (package : options.ownLogger = none)
    (notes : Notes home options entries (prepared options workspace) after) :
    Notes home options entries workspace after := by
  unfold prepared at notes
  rw [package] at notes
  exact ⟨notes.logging, notes.records, notes.heard, notes.clock, notes.file⟩

/-- A build that was given no logger and avoids the debug file leaves it behind if it goes wrong,
and only then. -/
theorem run_build_package (package : options.ownLogger = none)
    (inOrder : InOrder home workspace.disk) (avoids : Avoids home options workspace) :
    ∃ result after entries, (build options).run.run workspace = (result, after) ∧
      after.journal.records = workspace.journal.records ++ entries ∧
      (∀ entry ∈ entries, IsHeard options entry) ∧
      Leaves home options entries workspace after result := by
  have parentless : ".." ∉ workspace.disk.home := inOrder.atHome ▸ parentless_of_led inOrder.led
  have reporter : reporterOf options = .package rootSource := by rw [reporterOf, package]
  obtain ⟨first, started, starts, notesFirst, told⟩ :=
    run_check_logging (logging_prepared package inOrder)
  rw [← reporter, ← run_start fun _ => parentless, reporter] at starts
  have notesStart := notesFirst.of_prepared package
  cases valid : options.isValid with
  | false =>
      rw [valid] at starts
      exact ⟨_, started, first, run_bind_error starts, notesStart.records, notesStart.heard,
        notesStart.leaves (.invalid valid told)⟩
  | true =>
      rw [valid] at starts
      obtain ⟨second, notesSecond⟩ := (byReports_noting home options).attempt starts
        (fun path written => (keptAlong_noting (avoids path written)).writing) notesStart.logging
      have notesTried := notesStart.trans notesSecond
      rcases tried : (attempt options (.package rootSource)).run.run started with
        ⟨fault | outcome, stopped⟩ <;> rw [tried] at notesTried
      · obtain ⟨third, after, failed, notesThird, toldFailure⟩ :=
          run_failBuild_logging notesTried.logging fault
        have notes := notesTried.trans notesThird
        exact ⟨_, after, _, (run_build_failed starts tried).trans failed, notes.records,
          notes.heard, notes.leaves (.failed fault (List.mem_append_right _ toldFailure))⟩
      · have success := success_of_attempt notesStart.logging.tidy tried
        obtain ⟨after, clears, records, swept, files⟩ :=
          run_clearDebugFile_logging notesTried.logging package
        refine ⟨.ok outcome, after, _, (run_build_attempted starts tried success).trans ?_,
          records.trans notesTried.records, notesTried.heard, .cleared outcome success swept files⟩
        rw [run_bind_ok clears]
        rfl

/-- The path of the sample's module does not pass the debug file. -/
theorem avoids_of_bundlePath (bundle : (wrapperConfig options).isBundle = true)
    (spelled : target (destination options) (sampleArtifact (wrapperConfig options)) = bundlePath)
    (workspace : Workspace) : Avoids ["w"] options workspace := by
  rintro path ⟨_, _, _, artifact, _, made, member, rfl⟩ ⟨steps, begins, passed⟩
  obtain ⟨_, _, _, _, _, _, _, rendered, rfl⟩ := generate_ok_iff.mp made
  obtain ⟨_, rfl, _, path⟩ := eq_singleton_of_isBundle bundle rendered
  have same : target (destination options) artifact = bundlePath := by
    rw [← spelled, target, target, List.mem_singleton.mp member, path, sampleArtifact]
  rw [same] at begins passed
  have inits : steps ∈ bundlePath.steps.inits := (List.mem_inits _ _).mpr begins
  have apart : ∀ steps ∈ bundlePath.steps.inits,
      ({ bundlePath with steps } : Path).placeFrom ["w"] ≠ debugPlace ["w"] := by decide
  exact apart steps inits passed

/-- The path of an analysis that is not there, with a surrogate that stands alone. -/
def strayName : String :=
  String.ofList ['a', Text.character 0xD800, '.', 'j', 's', 'o', 'n']

end ElementWrap.Work
