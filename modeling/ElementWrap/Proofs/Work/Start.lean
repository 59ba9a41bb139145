import ElementWrap.Proofs.Files.Directories
import ElementWrap.Proofs.Work.Reporting

/-! # How a build starts

Valid options have no fault, and a logger among them can be used. A build with such options starts
with its reporter, after the log was set up if the caller brought no logger, and what was on the
disk is still there.
-/

namespace ElementWrap

/-- Options that were read from settings and have no fault. -/
structure BuildOptions.Valid (options : BuildOptions) : Prop where
  read : ∃ settings, BuildOptions.ofSettings settings = options
  faultless : options.isValid = true

namespace Work

open Files Log

variable {home : Location} {options : BuildOptions} {workspace after : Workspace}

/-! ## The debug file of a working directory -/

/-- A path without double dots leads to a place with a name for every step of it, and every double
dot takes at least one of these names away. -/
theorem length_walk {disk : Disk} {start place : Location} {steps : List String}
    (led : disk.walk start steps = .ok place) :
    place.length ≤ start.length + steps.length ∧
      (".." ∈ steps → place.length < start.length + steps.length) := by
  induction steps generalizing start with
  | nil =>
      obtain rfl := Except.ok.inj led
      exact ⟨Nat.le_refl _, fun member => absurd member List.not_mem_nil⟩
  | cons step rest ih =>
      unfold Disk.walk at led
      split at led
      · exact nomatch led
      · exact nomatch led
      · split at led
        · obtain ⟨bound, _⟩ := ih led
          rw [List.length_dropLast] at bound
          rw [List.length_cons]
          exact ⟨by omega, fun _ => by omega⟩
        · next inwards =>
            split at led
            · exact nomatch led
            · obtain ⟨bound, strict⟩ := ih led
              rw [List.length_append, List.length_singleton] at bound strict
              rw [List.length_cons]
              refine ⟨by omega, fun member => ?_⟩
              have := strict ((List.mem_cons.mp member).resolve_left (Ne.symm inwards))
              omega

/-- A working directory that is in place is named without double dots. -/
theorem parentless_of_led {disk : Disk}
    (led : disk.follow (debugFile home) = .ok (debugPlace home)) : ".." ∉ home := by
  intro member
  have walked := (Disk.resolve_eq_ok_iff.mp (Disk.follow_eq_ok_iff.mp led).2).2
  have shorter := (length_walk walked).2 (List.mem_append_left _ member)
  simp [debugFile, debugPlace] at shorter

private theorem foldl_steps {steps : List String} (parentless : ".." ∉ steps)
    (before : List String) :
    steps.foldl (fun steps step => if step = ".." then steps.dropLast else steps ++ [step])
      before = before ++ steps := by
  induction steps generalizing before with
  | nil => rw [List.append_nil, List.foldl_nil]
  | cons step rest ih =>
      rw [List.mem_cons, not_or] at parentless
      rw [List.foldl_cons, if_neg (Ne.symm parentless.1), ih parentless.2, List.append_assoc,
        List.singleton_append]

private theorem absolute_debugFile (parentless : ".." ∉ home) (disk : Disk) :
    disk.absolute (debugFile home) = debugFile home := by
  have steps : ".." ∉ home ++ [debugFileName] := by
    simpa [debugFileName] using parentless
  simp only [Disk.absolute, debugFile, Path.join, foldl_steps steps, List.nil_append]

/-! ## The reporter -/

/-- The analysis document of a build. -/
def analysisPath (options : BuildOptions) : Path := .ofString (options.webComponent.getD "")

/-- The names that a build is asked for. -/
def requested (options : BuildOptions) : Value := options.reactComponents.elim Value.null .list

/-- The one who is told about a build. -/
def reporterOf (options : BuildOptions) : Reporter :=
  match options.ownLogger with
  | some logger => .own logger
  | none => .package rootSource

/-- A workspace in which a build is about to report. -/
def prepared (options : BuildOptions) (workspace : Workspace) : Workspace :=
  match options.ownLogger with
  | some _ => workspace
  | none =>
    { workspace with
      journal := workspace.journal.setUp (buildLevel options) true
        (some (debugFile workspace.disk.home)) }

private theorem run_prepareReporter
    (parentless : options.ownLogger = none → ".." ∉ workspace.disk.home) :
    (prepareReporter options).run.run workspace =
      (.ok (reporterOf options), prepared options workspace) := by
  unfold prepareReporter reporterOf prepared
  cases found : options.ownLogger with
  | some logger => rfl
  | none =>
      have setUp : (setUpLog (buildLevel options) true
          (some (debugFile workspace.disk.home))).run.run workspace = (.ok (),
            { workspace with
              journal := workspace.journal.setUp (buildLevel options) true
                (some (debugFile workspace.disk.home)) }) := by
        conv_rhs => rw [← absolute_debugFile (parentless found) workspace.disk]
        rfl
      change (setUpLog _ true _ >>= fun _ => pure (.package rootSource) : Work Reporter).run.run
        workspace = _
      rw [run_bind_ok setUp]
      rfl

/-- The disk is left alone while a build gets ready to report. -/
@[simp]
theorem prepared_disk : (prepared options workspace).disk = workspace.disk := by
  unfold prepared
  split <;> rfl

/-- A build reports to the logger of its options, if that counts as true. -/
theorem ownLogger_eq_some_iff {logger : OwnLogger} :
    options.ownLogger = some logger ↔ options.logger = some logger ∧ logger.truthy = true :=
  Option.filter_eq_some_iff

/-- A logger that counts as false is passed over. -/
theorem ownLogger_of_falsy {logger : OwnLogger} (given : options.logger = some logger)
    (falsy : logger.truthy = false) : options.ownLogger = none := by
  rw [BuildOptions.ownLogger, given, Option.filter_some, if_neg (by simp [falsy])]

/-- The logger of options is the one among the translated settings that can be used. -/
theorem logger_ofSettings (settings : Settings) :
    (BuildOptions.ofSettings settings).logger = BuildOptions.loggerOf settings.translate := by
  unfold BuildOptions.ofSettings
  simp only
  split <;> rfl

private theorem warnings_ofSettings (settings : Settings) :
    (BuildOptions.ofSettings settings).warnings = BuildOptions.warningsOf settings.translate := by
  unfold BuildOptions.ofSettings
  simp only
  split <;> rfl

/-- A logger among options that were read from settings can be used. -/
theorem usable_logger {settings : Settings} {logger : OwnLogger}
    (found : (BuildOptions.ofSettings settings).logger = some logger) :
    (Reporter.own logger).Usable := by
  rw [logger_ofSettings, BuildOptions.loggerOf] at found
  split at found
  · split at found
    · next complete =>
        cases found
        intro method member
        have callable : (Setting.logger logger).canCall method = true := by
          have complete := List.isEmpty_iff.mp complete
          simpa using List.filter_eq_nil_iff.mp complete method member
        simpa [Setting.canCall] using callable
    · exact nomatch found
  · exact nomatch found

/-- Valid options with a logger have nothing to warn of. -/
theorem warnings_of_logger {logger : OwnLogger} (valid : options.Valid)
    (found : options.ownLogger = some logger) : options.warnings = [] := by
  obtain ⟨settings, rfl⟩ := valid.read
  replace found := (ownLogger_eq_some_iff.mp found).1
  rw [logger_ofSettings, BuildOptions.loggerOf] at found
  rw [warnings_ofSettings, BuildOptions.warningsOf]
  split at found
  · next own offered =>
      split at found
      · next complete => simp [offered, complete]
      · exact nomatch found
  · exact nomatch found

/-- The reporter of valid options can be told. -/
theorem usable_reporterOf (valid : options.Valid) : (reporterOf options).Usable := by
  obtain ⟨settings, rfl⟩ := valid.read
  unfold reporterOf
  split
  · next found => exact usable_logger (ownLogger_eq_some_iff.mp found).1
  · trivial

/-! ## The start -/

/-- The log of a workspace that is about to report writes to the debug file alone. -/
theorem confined_prepared (atHome : workspace.disk.home = home)
    (files : options.ownLogger = none ∨ ∀ file ∈ workspace.journal.files, file = debugFile home) :
    Confined home (prepared options workspace) where
  atHome := by rw [prepared_disk, atHome]
  files := by
    unfold prepared
    split
    · next found => exact files.resolve_left (by simp [found])
    · rw [atHome]
      intro file member
      simpa [Journal.files, Journal.setUp, Handler.file?, eq_comm] using member

/-- What follows once a reporter is there: faults and warnings are reported, and faults stop the
build. -/
def check (options : BuildOptions) (reporter : Reporter) : Work Reporter := do
  options.errors.forM fun fault => error reporter fault.message
  options.warnings.forM fun text => warning reporter text
  if !options.isValid then throw (.options .invalid)
  return reporter

/-- Checking the options keeps what reports keep. -/
theorem ByReports.check {related : Workspace → Workspace → Prop} [IsPreorder Workspace related]
    (reports : ByReports related) (options : BuildOptions) (reporter : Reporter) :
    Steps related (check options reporter) := by
  refine .bind (.forM fun fault _ => reports.error reporter _) fun _ =>
    .bind (.forM fun text _ => reports.warning reporter text) fun _ => ?_
  split
  · exact .bind (.throw _) fun _ => .pure _
  · exact .pure _

/-- How a build starts: its reporter is made ready, then the options are checked. -/
theorem run_start (parentless : options.ownLogger = none → ".." ∉ workspace.disk.home) :
    (start options).run.run workspace =
      (check options (reporterOf options)).run.run (prepared options workspace) :=
  run_bind_ok (run_prepareReporter parentless)

private theorem run_check (valid : options.Valid) (ready : Ready home workspace) :
    ∃ after, (check options (reporterOf options)).run.run workspace =
        (.ok (reporterOf options), after) ∧
      Reported home workspace after ∧ Ready home after := by
  have usable := usable_reporterOf valid
  have errors : ReportsOnly home (options.errors.forM fun fault =>
      error (reporterOf options) fault.message) :=
    .forM fun fault _ => reportsOnly_error home usable _
  have warnings : ReportsOnly home (options.warnings.forM fun text =>
      warning (reporterOf options) text) :=
    .forM fun text _ => reportsOnly_warning home usable _
  obtain ⟨first, toldErrors, reportedFirst, readyFirst⟩ := errors.run ready
  obtain ⟨after, toldWarnings, reportedAfter, readyAfter⟩ := warnings.run readyFirst
  refine ⟨after, ?_, reportedFirst.trans reportedAfter, readyAfter⟩
  unfold check
  rw [run_bind_ok toldErrors, run_bind_ok toldWarnings, valid.faultless]
  rfl

/-- A build with valid options starts, if the debug file can be written. -/
theorem run_start_ok (valid : options.Valid) (ready : Ready home (prepared options workspace)) :
    ∃ started, (start options).run.run workspace = (.ok (reporterOf options), started) ∧
      Reported home (prepared options workspace) started ∧ Ready home started := by
  obtain ⟨started, checked, reported, readyStart⟩ := run_check valid ready
  have atHome : workspace.disk.home = home := prepared_disk ▸ ready.atHome
  have parentless : ".." ∉ workspace.disk.home := atHome ▸ parentless_of_led ready.led
  exact ⟨started, (run_start fun _ => parentless).trans checked, reported, readyStart⟩

/-- What is checked without a failure is valid, and the reporter stays the same. -/
theorem check_ok {reporter answered : Reporter}
    (ran : (check options reporter).run.run workspace = (.ok answered, after)) :
    answered = reporter ∧ options.isValid = true := by
  obtain ⟨_, _, _, ran⟩ := run_bind_eq_ok_iff.mp ran
  obtain ⟨_, _, _, ran⟩ := run_bind_eq_ok_iff.mp ran
  split at ran
  · exact nomatch ran
  · next valid =>
      cases ran
      exact ⟨rfl, by simpa using valid⟩

/-- Only valid options start a build. -/
theorem isValid_of_start {reporter : Reporter}
    (ran : (start options).run.run workspace = (.ok reporter, after)) : options.isValid = true := by
  obtain ⟨_, _, _, checked⟩ := run_bind_eq_ok_iff.mp ran
  exact (check_ok checked).2

/-- A build up to its analysis. -/
def load (options : BuildOptions) : Work Analysis := do
  analyze (analysisPath options) (← start options)

/-- Settings that ask for the wrappers of some elements in one module. -/
def bundleSettings (names : List Value) : Settings :=
  [("web_component", .json (.text "a.json")), ("react_components", .json (.list names)),
    ("bundle", .json (.bool true))]

/-- The options that these settings stand for. -/
def bundleOptions (names : List Value) : BuildOptions :=
  { webComponent := some "a.json", reactComponents := some names, bundle := some true }

/-- The names of the options are in snake case. -/
theorem snake_of_known : ∀ name ∈ knownOptions.map Prod.fst, Naming.snake name = name := by
  simp only [knownOptions, List.map_cons, List.map_nil, List.forall_mem_cons]
  refine ⟨?_, ?_, ?_, ?_, ?_, ?_, ?_, fun _ member => absurd member List.not_mem_nil⟩ <;>
    rw [Naming.snake, String.toList_ofList] <;> rfl

/-- Settings of options, each under its name and given once, are taken as they are. -/
theorem translate_of_known {settings : Settings}
    (known : ∀ entry ∈ settings, entry.1 ∈ knownOptions.map Prod.fst)
    (single : Ordered.ofList settings = settings) : settings.translate = settings := by
  have same : settings.map (fun entry => (Naming.snake entry.1, entry.2)) = settings.map id :=
    List.map_congr_left fun entry member =>
      Prod.ext (snake_of_known entry.1 (known entry member)) rfl
  rw [Settings.translate, same, List.map_id, single]

/-- The settings of the sample stand for the options of the sample. -/
theorem ofSettings_bundleSettings (names : List Value) :
    BuildOptions.ofSettings (bundleSettings names) = bundleOptions names := by
  have translated : (bundleSettings names).translate = bundleSettings names :=
    translate_of_known (by simp [bundleSettings, knownOptions]) rfl
  unfold BuildOptions.ofSettings
  rw [translated]
  rfl

/-- The options of the sample are valid. -/
theorem valid_bundleOptions (names : List Value) : (bundleOptions names).Valid where
  read := ⟨bundleSettings names, ofSettings_bundleSettings names⟩
  faultless := rfl

end Work
end ElementWrap
