import ElementWrap.Command.Run
import ElementWrap.Proofs.Options.Precedence
import ElementWrap.Proofs.Work.Faults
import ElementWrap.Proofs.Work.OwnLogger
import ElementWrap.Proofs.Work.Rebuild

/-! # How a run ends

A run of the command line reports what it does on the terminal, and apart from that it leaves no
trace but the one of its build. Options that are refused end it before the build, with a code of
their own, and the build decides between the other two codes (`ElementWrap.Command.run_exit`).
-/

namespace ElementWrap

open Files Log

/-! ## Settings without a logger -/

namespace Settings

/-- None of the settings is a logger. -/
def Plain (raw : Settings) : Prop := ∀ entry ∈ raw, ∃ value, entry.2 = .json value

variable {raw configured overrides : Settings} {name : String} {setting : Setting}

private theorem plain_nil : Plain [] := fun _ member => absurd member List.not_mem_nil

private theorem Plain.given (plain : raw.Plain) : raw.given.Plain :=
  fun entry member => plain entry (List.mem_filter.mp member).1

private theorem Plain.last? (plain : raw.Plain) (found : raw.last? name = some setting) :
    ∃ value, setting = .json value := by
  obtain ⟨entry, first, rfl⟩ := Option.map_eq_some_iff.mp found
  exact plain entry (List.mem_reverse.mp (List.mem_of_find?_eq_some first))

/-- Settings that are merged have a logger only if one of the two has. -/
theorem logger_mergedSettings (plain : configured.Plain) (plainOverrides : overrides.Plain) :
    (BuildOptions.ofSettings (BuildOptions.mergedSettings configured overrides)).logger = none := by
  apply Option.eq_none_iff_forall_not_mem.mpr
  intro own kept
  have found := (BuildOptions.logger_eq_some_iff.mp kept).1
  rw [last?_mergedSettings] at found
  rcases Option.or_eq_some_iff.mp found with given | ⟨_, listed⟩
  · obtain ⟨_, json⟩ := plainOverrides.given.last? given
    exact nomatch json
  · obtain ⟨_, json⟩ := plain.last? listed
    exact nomatch json

end Settings

namespace Command

open Layout Terminal Work Settings

variable {α β : Type} {line : List String} {arguments : Arguments} {disk : Disk}
  {workspace built : Workspace} {options : BuildOptions} {configured : Settings}
  {outcome : Outcome Artifact Fault}

/-! ## The options of a run -/

/-- The settings in the configuration file of a command line, if it names one. -/
def Arguments.fileSettings (arguments : Arguments) (disk : Disk) : Except Fault Settings :=
  match arguments.config.bind List.head? with
  | none => .ok []
  | some name =>
    if name = "" then .ok [] else BuildOptions.settingsOfFile disk (.ofString name)

/-- The options of a command line. -/
def Arguments.load (arguments : Arguments) (disk : Disk) : Except Fault BuildOptions :=
  BuildOptions.load disk (arguments.config.bind List.head?) arguments.settings

/-- A fault over options. -/
inductive IsOptionsFault : Fault → Prop
  | intro (reason : OptionsFault) : IsOptionsFault (.options reason)

/-- The options of a command line are refused: they can not be loaded, or they have a fault. -/
inductive Arguments.Refused (arguments : Arguments) (disk : Disk) : Prop
  | unloaded (reason : OptionsFault) (failed : arguments.load disk = .error (.options reason))
  | faulty (options : BuildOptions) (loaded : arguments.load disk = .ok options)
    (invalid : options.isValid = false)

private theorem load_eq_ok_iff :
    arguments.load disk = .ok options ↔ ∃ configured,
      arguments.fileSettings disk = .ok configured ∧
      BuildOptions.ofSettings (BuildOptions.mergedSettings configured arguments.settings) =
        options := by
  have loads : arguments.load disk = arguments.fileSettings disk >>= fun configured =>
      .ok (BuildOptions.ofSettings
        (BuildOptions.mergedSettings configured arguments.settings)) := by
    unfold Arguments.load BuildOptions.load Arguments.fileSettings
    cases arguments.config.bind List.head? with
    | none => rfl
    | some name =>
        simp only
        split <;> rfl
  rw [loads, bind_eq_ok_iff]
  simp only [Except.ok.injEq]

private theorem plain_fileSettings (found : arguments.fileSettings disk = .ok configured) :
    configured.Plain := by
  unfold Arguments.fileSettings at found
  split at found
  · exact Except.ok.inj found ▸ plain_nil
  · split at found
    · exact Except.ok.inj found ▸ plain_nil
    · obtain ⟨_, _, fields, _, rfl⟩ := settingsOfFile_ok_iff.mp found
      intro entry member
      obtain ⟨field, _, rfl⟩ := List.mem_map.mp member
      exact ⟨field.2, rfl⟩

private theorem plain_settings (arguments : Arguments) : arguments.settings.Plain := by
  simp [Plain, Arguments.settings]

private theorem ownLogger_load (loaded : arguments.load disk = .ok options) :
    options.ownLogger = none := by
  obtain ⟨configured, found, rfl⟩ := load_eq_ok_iff.mp loaded
  rw [BuildOptions.ownLogger,
    logger_mergedSettings (plain_fileSettings found) (plain_settings arguments)]
  rfl

/-- A command line gives each setting at most once, and under the name of the option. -/
theorem translate_given (arguments : Arguments) :
    arguments.settings.given.translate = arguments.settings.given := by
  have listed : arguments.settings.given.Sublist arguments.settings := List.filter_sublist
  have names : arguments.settings.map Prod.fst =
      ["web_component", "react_components", "dest", "bundle", "bundle_name", "verbose"] := rfl
  apply translate_of_known
  · intro entry member
    have named := List.mem_map_of_mem (f := Prod.fst) (listed.subset member)
    rw [names] at named
    have known : ∀ name ∈ ["web_component", "react_components", "dest", "bundle", "bundle_name",
        "verbose"], name ∈ knownOptions.map Prod.fst := by decide
    exact known _ named
  · apply Ordered.ofList_of_nodup
    have distinct : (arguments.settings.map Prod.fst).Nodup := by
      rw [names]
      decide
    exact distinct.sublist (listed.map _)

/-- **What the command line gives takes precedence.** Under each name, valid options hold what the
command line gives, or else what the configuration file gives last, or else the default. -/
theorem held_load (found : arguments.fileSettings disk = .ok configured)
    (loaded : arguments.load disk = .ok options) (valid : options.isValid = true) :
    options.held.map (fun entry => (entry.1, Setting.json entry.2)) =
      ({} : BuildOptions).held.map fun entry =>
        (entry.1, ((arguments.settings.given.get? entry.1).or (configured.last? entry.1)).getD
          (.json entry.2)) := by
  obtain ⟨_, same, rfl⟩ := load_eq_ok_iff.mp loaded
  obtain rfl := Except.ok.inj (found.symm.trans same)
  have looked (name : String) : arguments.settings.given.get? name =
      arguments.settings.given.last? name := by
    rw [← get?_translate, translate_given]
  rw [BuildOptions.held_of_isValid valid]
  simp only [last?_mergedSettings, looked]

/-! ## Printing -/

/-- All that has changed is what was printed. -/
def Printing (before after : Workspace) : Prop := ∃ printed, after = { before with printed }

instance : IsPreorder Workspace Printing where
  refl workspace := ⟨workspace.printed, rfl⟩
  trans _ _ _ first second := by
    obtain ⟨_, rfl⟩ := first
    obtain ⟨printed, rfl⟩ := second
    exact ⟨printed, rfl⟩

/-- A computation does nothing but print, and only the markup of what it prints makes it fail. -/
structure Prints (computation : Work α) : Prop where
  steps : Steps Printing computation
  raises : Raises (· = .markup) computation

namespace Prints

private theorem bind {computation : Work α} {next : α → Work β} (first : Prints computation)
    (second : ∀ a, Prints (next a)) : Prints (computation >>= next) :=
  ⟨first.steps.bind fun a => (second a).steps, first.raises.bind fun a => (second a).raises⟩

private theorem forM {items : List α} {step : α → Work Unit} (each : ∀ item, Prints (step item)) :
    Prints (items.forM step) :=
  ⟨.forM fun item _ => (each item).steps, .forM fun item _ => (each item).raises⟩

/-- What prints before it answers has answered, unless it was stopped by markup. -/
theorem run {computation : Work Unit} (prints : Prints computation) (exit : Exit)
    (shown : ∀ after, (computation >>= fun _ => Pure.pure exit : Work Exit).run.run workspace ≠
      (.error .markup, after)) :
    ∃ printed, (computation >>= fun _ => Pure.pure exit : Work Exit).run.run workspace =
      (.ok exit, { workspace with printed }) := by
  rcases ran : computation.run.run workspace with ⟨fault | _, after⟩
  · obtain rfl := prints.raises.of_run ran
    exact absurd (run_bind_error ran) (shown after)
  · obtain ⟨printed, rfl⟩ := prints.steps.of_run ran
    exact ⟨printed, run_bind_ok ran⟩

end Prints

private theorem failsAmong_shownFrom (openTags : List Markup.OpenTag) (pieces : List Markup.Piece) :
    FailsAmong (· = .markup) (Markup.shownFrom openTags pieces) := by
  induction pieces generalizing openTags with
  | nil => exact .ok []
  | cons piece rest ih =>
      cases piece with
      | shown cs => exact (ih openTags).bind fun _ => .ok _
      | tag inside =>
          unfold Markup.shownFrom
          split
          · split
            · exact ih _
            · exact .error rfl
          · exact ih _

private theorem failsAmong_render (text : String) : FailsAmong (· = .markup) (Markup.render text) :=
  (failsAmong_shownFrom [] _).bind fun _ => .ok _

/-- The cells of the table of files, as they show. -/
def tableRows (files : List (String × String)) : Except Fault (List (List Char × List Char)) :=
  (("File", "Kind") :: files).mapM fun (path, kind) => do
    return (← Markup.render path, ← Markup.render kind)

section Raises

variable {among : Fault → Prop}

private theorem raises_print {markup : String} (fails : FailsAmong among (Markup.render markup)) :
    Raises among (print markup) := (Raises.lift fails).bind fun _ => .modify _

private theorem raises_printTable {files : List (String × String)}
    (fails : FailsAmong among (tableRows files)) : Raises among (printTable files) :=
  (Raises.lift fails).bind fun _ => .modify _

end Raises

private theorem prints_print (markup : String) : Prints (print markup) where
  steps := .bind (.lift _) fun shown workspace =>
    ⟨workspace.printed ++ printedLines shown, rfl⟩
  raises := raises_print (failsAmong_render markup)

private theorem prints_printTable (files : List (String × String)) : Prints (printTable files) where
  steps := .bind (.lift _) fun rows workspace =>
    ⟨workspace.printed ++ Table.lines "Generated files" rows, rfl⟩
  raises := raises_printTable <| .mapM fun file =>
    (failsAmong_render file.1).bind fun _ => (failsAmong_render file.2).bind fun _ => .ok _

private theorem prints_printOutcome (outcome : Outcome Artifact Fault) :
    Prints (printOutcome outcome) :=
  (prints_printTable _).bind fun _ => (Prints.forM fun _ => prints_print _).bind fun _ =>
    prints_print _

/-! ## Runs -/

private theorem run_arguments (parsed : Arguments.parse line = .ok arguments) :
    run line = runArguments arguments := by
  unfold run
  rw [parsed]

/-- What a run does with its options. -/
theorem run_runArguments (arguments : Arguments) (workspace : Workspace) :
    (runArguments arguments).run.run workspace =
      (match arguments.load workspace.disk with
        | .error (.options fault) => do
          print ("[red]✗ Error:[/red] " ++ Markup.escape fault.message)
          return ⟨2, none⟩
        | .error fault => throw fault
        | .ok options => do
          if !options.isValid then
            options.errors.forM fun fault => print ("[red]✗[/red] " ++ Markup.escape fault.message)
            return ⟨2, none⟩
          runBuild options : Work Exit).run.run workspace :=
  rfl

/-- Options that are refused end a run with a message. -/
theorem run_refused (refused : arguments.Refused workspace.disk)
    (shown : ∀ after, (runArguments arguments).run.run workspace ≠ (.error .markup, after)) :
    ∃ printed, (runArguments arguments).run.run workspace =
      (.ok ⟨2, none⟩, { workspace with printed }) := by
  rw [run_runArguments] at shown ⊢
  cases refused with
  | unloaded reason failed =>
      rw [failed] at shown ⊢
      exact (prints_print _).run ⟨2, none⟩ shown
  | faulty options loaded invalid =>
      rw [loaded] at shown ⊢
      simp only [invalid, Bool.not_false, if_true] at shown ⊢
      exact (Prints.forM fun _ => prints_print _).run ⟨2, none⟩ shown

/-- Options that are not refused are valid. -/
theorem exists_valid (loads : FailsAmong IsOptionsFault (arguments.load disk))
    (accepted : ¬ arguments.Refused disk) :
    ∃ options, arguments.load disk = .ok options ∧ options.isValid = true := by
  cases loaded : arguments.load disk with
  | error fault =>
      obtain ⟨reason⟩ := loads fault loaded
      exact absurd (.unloaded reason loaded) accepted
  | ok options =>
      cases valid : options.isValid with
      | true => exact ⟨options, rfl, valid⟩
      | false => exact absurd (.faulty options loaded valid) accepted

/-- A build with valid options that fails over nothing but options does not fail. -/
theorem exists_outcome (valid : options.isValid = true)
    (builds : FailsAmong IsOptionsFault ((build options).run.run workspace).1) :
    ∃ outcome built, (build options).run.run workspace = (.ok outcome, built) := by
  rcases ran : (build options).run.run workspace with ⟨fault | outcome, built⟩
  · rw [ran] at builds
    obtain ⟨reason⟩ := builds fault rfl
    exact nomatch (raises_build valid).of_run ran
  · exact ⟨outcome, built, rfl⟩

private theorem run_accepted (loaded : arguments.load workspace.disk = .ok options)
    (valid : options.isValid = true) :
    (runArguments arguments).run.run workspace = (runBuild options).run.run workspace := by
  rw [run_runArguments, loaded]
  simp only [valid, Bool.not_true, Bool.false_eq_true, if_false]

/-- A build that has succeeded is told of in a log that writes to no file. -/
theorem run_runBuild_succeeded (unlogged : options.ownLogger = none)
    (ran : (build options).run.run workspace = (.ok outcome, built))
    (success : outcome.success = true) :
    ∃ journal, (runBuild options).run.run workspace =
      (printOutcome outcome >>= fun _ => (pure ⟨0, none⟩ : Work Exit)).run.run
        { built with journal } := by
  -- The build has taken its debug file off the log, so that the entry about it is not written.
  have silent := files_of_success unlogged ran success
  have logs (text : String) :
      ∃ journal, (log .debug source text).run.run built = (.ok (), { built with journal }) := by
    unfold log
    rw [run_record]
    split
    · exact ⟨_, run_handle_silent _ _ silent _⟩
    · exact ⟨built.journal, rfl⟩
  obtain ⟨journal, logged⟩ := logs ("Build metadata: " ++ (Value.object outcome.metadata).literal)
  refine ⟨journal, ?_⟩
  unfold runBuild
  rw [run_bind_ok ran]
  simp only [success, Bool.not_true, Bool.false_eq_true, if_false]
  exact run_bind_ok logged

private theorem run_runBuild_failed
    (ran : (build options).run.run workspace = (.ok outcome, built))
    (failed : outcome.success = false) :
    (runBuild options).run.run workspace =
      (print ("[red]✗ " ++ Markup.escape (outcome.errorMessage.getD "") ++ "[/red]") >>=
        fun _ => (pure ⟨1, none⟩ : Work Exit)).run.run built := by
  unfold runBuild
  rw [run_bind_ok ran]
  simp only [failed, Bool.not_false, if_true]

/-- Beyond its build, a run has no effect on the disk, and the outcome of the build decides about
its code. -/
theorem run_runBuild (unlogged : options.ownLogger = none)
    (ran : (build options).run.run workspace = (.ok outcome, built))
    (shown : ∀ after, (runBuild options).run.run workspace ≠ (.error .markup, after)) :
    ∃ code after, (runBuild options).run.run workspace = (.ok ⟨code, none⟩, after) ∧
      code ≠ 2 ∧ (code = 1 ↔ outcome.success = false) ∧ (code = 0 ↔ outcome.success = true) ∧
      after.disk = built.disk := by
  cases success : outcome.success with
  | false =>
      rw [run_runBuild_failed ran success] at shown ⊢
      obtain ⟨printed, ends⟩ := (prints_print _).run ⟨1, none⟩ shown
      exact ⟨1, _, ends, by decide, by decide, by decide, rfl⟩
  | true =>
      obtain ⟨journal, told⟩ := run_runBuild_succeeded unlogged ran success
      rw [told] at shown ⊢
      obtain ⟨printed, ends⟩ := (prints_printOutcome outcome).run ⟨0, none⟩ shown
      exact ⟨0, _, ends, by decide, by decide, by decide, rfl⟩

/-- **The end of a run.** Let a command line be read, let loading its options and building with them
fail over nothing but options, and let the terminal show what is printed. Then the run ends with a
code. It is 2 exactly if the options are refused, and in that case nothing on the disk has changed.
Otherwise it is 1 if the build fails and 0 if it succeeds, the disk is left as the build leaves it,
and the options of the build are, under each name, what the command line gives, or else what the
configuration file gives last, or else the default. -/
theorem run_exit (parsed : Arguments.parse line = .ok arguments)
    (loads : FailsAmong IsOptionsFault (arguments.load workspace.disk))
    (builds : ∀ options, arguments.load workspace.disk = .ok options → options.isValid = true →
      FailsAmong IsOptionsFault ((build options).run.run workspace).1)
    (shown : ∀ after, (run line).run.run workspace ≠ (.error .markup, after)) :
    ∃ code after, (run line).run.run workspace = (.ok ⟨code, none⟩, after) ∧
      (code = 2 ↔ arguments.Refused workspace.disk) ∧
      (code = 2 → after.disk = workspace.disk) ∧
      (code ≠ 2 → ∃ options outcome built,
        arguments.load workspace.disk = .ok options ∧
        (build options).run.run workspace = (.ok outcome, built) ∧
        (code = 1 ↔ outcome.success = false) ∧ (code = 0 ↔ outcome.success = true) ∧
        after.disk = built.disk ∧
        ∃ configured, arguments.fileSettings workspace.disk = .ok configured ∧
          options.held.map (fun entry => (entry.1, Setting.json entry.2)) =
            ({} : BuildOptions).held.map fun entry =>
              (entry.1, ((arguments.settings.given.get? entry.1).or
                (configured.last? entry.1)).getD (.json entry.2))) := by
  rw [run_arguments parsed] at shown ⊢
  -- Loading decides about the code 2, and only then does the build decide between the other two.
  by_cases refused : arguments.Refused workspace.disk
  · obtain ⟨printed, ends⟩ := run_refused refused shown
    exact ⟨2, _, ends, iff_of_true rfl refused, fun _ => rfl, fun other => absurd rfl other⟩
  · obtain ⟨options, loaded, valid⟩ := exists_valid loads refused
    obtain ⟨outcome, built, ran⟩ := exists_outcome valid (builds options loaded valid)
    obtain ⟨configured, found, _⟩ := load_eq_ok_iff.mp loaded
    rw [run_accepted loaded valid] at shown ⊢
    obtain ⟨code, after, ends, other, fails, succeeds, disk⟩ :=
      run_runBuild (ownLogger_load loaded) ran shown
    exact ⟨code, after, ends, iff_of_false other refused, fun same => absurd same other, fun _ =>
      ⟨options, outcome, built, loaded, ran, fails, succeeds, disk, configured, found,
        held_load found loaded valid⟩⟩

/-! ## A run -/

/-- A command line that asks for one element of the sample in one module. -/
def sampleLine : List String := ["a.json", "-c", "x-a", "--bundle"]

/-- Its arguments. -/
def sampleArguments : Arguments :=
  { webComponent := some "a.json", components := some ["x-a"], bundle := true }

private theorem parse_sampleLine : Arguments.parse sampleLine = .ok sampleArguments := by
  decide +kernel

private theorem load_sampleArguments (disk : Disk) :
    sampleArguments.load disk = .ok (bundleOptions [.text "x-a"]) := by
  refine load_eq_ok_iff.mpr ⟨[], rfl, ?_⟩
  rw [nil_mergedSettings, translate_given]
  exact ofSettings_bundleSettings [.text "x-a"]

/-- The outcome of a build with these options, which writes one file. -/
def sampleBuilt : Outcome Artifact Fault :=
  finish (bundleOptions [.text "x-a"])
    (sampleOutcome (wrapperConfig (bundleOptions [.text "x-a"]))
      [sampleArtifact (wrapperConfig (bundleOptions [.text "x-a"]))])

/-- What is printed about such a build can be shown. -/
theorem raises_printOutcome_sampleBuilt :
    Raises (fun _ => False) (printOutcome sampleBuilt) := by
  have count : Ordered.get? "component_count" sampleBuilt.metadata = some (.int 1) := by
    simp [sampleBuilt, finish, sampleOutcome, generationFacts, Ordered.get?]
  have dest : Ordered.get? "dest" sampleBuilt.metadata =
      some (.text (destination (bundleOptions [.text "x-a"])).toString) := by
    simp [sampleBuilt, finish, sampleOutcome, generationFacts, Ordered.get?]
  have written : Ordered.get? "written" sampleBuilt.metadata =
      some (.list [.text bundlePath.toString]) := by
    simp [sampleBuilt, finish, sampleOutcome, generationFacts, Ordered.get?,
      target_sampleArtifact [.text "x-a"]]
  have files : writtenFiles sampleBuilt = [(bundlePath.toString, "bundle")] := by
    unfold writtenFiles
    rw [written]
    rfl
  unfold printOutcome
  simp only [files, count, dest]
  refine (raises_printTable (.of_isOk (by decide +kernel))).bind fun _ => ?_
  refine (Raises.forM fun text member => raises_print (.of_isOk ?_)).bind fun _ => ?_
  · obtain rfl := List.mem_singleton.mp member
    decide +kernel
  · exact raises_print (.of_isOk (by decide +kernel))

/-- The sample is built, and the run ends with the code for that. -/
theorem run_exit_sample :
    ∃ outcome built after,
      (build (bundleOptions [.text "x-a"])).run.run { disk := sampleDisk } = (.ok outcome, built) ∧
      (run sampleLine).run.run { disk := sampleDisk } = (.ok ⟨0, none⟩, after) ∧
      after.disk = built.disk := by
  obtain ⟨built, ran, _⟩ := run_build_sample buildsSample_bundleOptions
  have loaded := load_sampleArguments sampleDisk
  have loads : FailsAmong IsOptionsFault (sampleArguments.load sampleDisk) := by
    rw [loaded]
    exact .ok _
  have builds : ∀ options, sampleArguments.load sampleDisk = .ok options →
      options.isValid = true →
        FailsAmong IsOptionsFault ((build options).run.run { disk := sampleDisk }).1 := by
    intro options same _
    obtain rfl := Except.ok.inj (loaded.symm.trans same)
    rw [ran]
    exact .ok _
  have shown (after : Workspace) :
      (run sampleLine).run.run { disk := sampleDisk } ≠ (.error .markup, after) := by
    intro failed
    obtain ⟨journal, told⟩ := run_runBuild_succeeded rfl ran rfl
    rw [run_arguments parse_sampleLine, run_accepted loaded rfl, told] at failed
    exact (raises_printOutcome_sampleBuilt.bind fun _ => .pure _).of_run failed
  have accepted : ¬ sampleArguments.Refused sampleDisk := by
    rintro (⟨_, failed⟩ | ⟨options, same, invalid⟩)
    · exact nomatch loaded.symm.trans failed
    · obtain rfl := Except.ok.inj (loaded.symm.trans same)
      exact nomatch invalid
  obtain ⟨code, after, ends, refused, _, decides⟩ := run_exit parse_sampleLine loads builds shown
  obtain ⟨options, outcome, left, same, again, _, succeeds, disk, _⟩ :=
    decides (mt refused.mp accepted)
  obtain rfl := Except.ok.inj (loaded.symm.trans same)
  cases ran.symm.trans again
  obtain rfl := succeeds.mpr rfl
  exact ⟨_, _, after, ran, ends, disk⟩

end Command
end ElementWrap
