import ElementWrap.Proofs.Work.OwnLogger
import ElementWrap.Proofs.Work.Placing

/-! # What a logger of the caller is told

A build tells the logger of its caller of its progress: what it begins with, how many components it
wraps, every warning, every file that is not an index, and that it is done. A build that fails has
told the first of these messages, at least one, and ends with the one error message that is also
that of its outcome. Whatever the log of the program writes, and whether or not that can be written,
makes no difference to the order of the messages. All of this is so for a logger that counts as
true; one that counts as false is told nothing (`ElementWrap.Work.build_told`).
-/

namespace ElementWrap.Work

open Files Log Layout

variable {options : BuildOptions} {workspace after : Workspace} {logger : OwnLogger}
  {messages later : List (String × String)} {base : Path}

/-! ## Computations that tell messages -/

/-- Whatever becomes of a computation, the logger has been told the first of some messages, and all
of them if the computation succeeds. -/
def Tells (messages : List (String × String)) (computation : Work α) : Prop :=
  ∀ workspace, ∃ told, told <+: messages ∧
    (computation.run.run workspace).2.heard = workspace.heard ++ told ∧
    ∀ result, (computation.run.run workspace).1 = .ok result → told = messages

/-- A computation tells the logger nothing. -/
theorem tells_nil_iff {computation : Work α} :
    Tells [] computation ↔
      ∀ workspace, (computation.run.run workspace).2.heard = workspace.heard := by
  constructor
  · intro tells workspace
    obtain ⟨told, begins, heard, _⟩ := tells workspace
    rw [heard, List.prefix_nil.mp begins, List.append_nil]
  · intro silent workspace
    exact ⟨[], List.prefix_rfl, by rw [silent, List.append_nil], fun _ _ => rfl⟩

namespace Tells

variable {computation : Work α} {next : α → Work β}

private theorem pure (result : α) : Tells [] (Pure.pure result : Work α) :=
  tells_nil_iff.mpr fun _ => rfl

private theorem throw (fault : Fault) : Tells [] (MonadExcept.throw fault : Work α) :=
  tells_nil_iff.mpr fun _ => rfl

private theorem lift (result : Except Fault α) : Tells [] (Work.lift result) :=
  tells_nil_iff.mpr fun _ => rfl

private theorem get : Tells [] (MonadState.get : Work Workspace) := tells_nil_iff.mpr fun _ => rfl

/-- What fails in its first part has told the first messages of that part; what gets further has
told all of them. -/
theorem bind_of_ok (first : Tells messages computation)
    (second : ∀ a before after, computation.run.run before = (.ok a, after) →
      Tells later (next a)) : Tells (messages ++ later) (computation >>= next) := by
  intro workspace
  obtain ⟨told, begins, heard, all⟩ := first workspace
  rw [run_bind]
  rcases ran : computation.run.run workspace with ⟨fault | a, between⟩ <;> rw [ran] at heard all
  · exact ⟨told, begins.trans (List.prefix_append _ _), heard, fun _ same => nomatch same⟩
  · obtain rfl := all a rfl
    obtain ⟨toldLater, beginsLater, heardLater, allLater⟩ := second a _ _ ran between
    refine ⟨told ++ toldLater, (List.prefix_append_right_inj told).mpr beginsLater, ?_,
      fun result same => by rw [allLater result same]⟩
    rw [heardLater, heard, List.append_assoc]

private theorem bind (first : Tells messages computation) (second : ∀ a, Tells later (next a)) :
    Tells (messages ++ later) (computation >>= next) :=
  first.bind_of_ok fun a _ _ _ => second a

/-- What tells nothing may stand before what tells something. -/
theorem bind_of_nil (first : Tells [] computation) (second : ∀ a, Tells messages (next a)) :
    Tells messages (computation >>= next) := first.bind second

private theorem forM {items : List α} {step : α → Work PUnit}
    {messages : α → List (String × String)}
    (each : ∀ item, Tells (messages item) (step item)) :
    Tells (items.flatMap messages) (items.forM step) := by
  induction items with
  | nil => exact pure PUnit.unit
  | cons item rest ih => exact (each item).bind fun _ => ih

private theorem mapM {items : List α} {step : α → Work β} {messages : α → List (String × String)}
    (each : ∀ item, Tells (messages item) (step item)) :
    Tells (items.flatMap messages) (items.mapM step) := by
  induction items with
  | nil => exact pure []
  | cons item rest ih =>
      rw [List.mapM_cons, List.flatMap_cons]
      refine (each item).bind fun b => ?_
      have tells := ih.bind fun bs => pure (b :: bs)
      rwa [List.append_nil] at tells

private theorem forM_of_nil {items : List α} {step : α → Work PUnit}
    (each : ∀ item, Tells [] (step item)) :
    Tells [] (items.forM step) := by
  have tells : Tells (items.flatMap fun _ => []) (items.forM step) := forM each
  rwa [List.flatMap_eq_nil_iff.mpr fun _ _ => rfl] at tells

private theorem mapM_of_nil {items : List α} {step : α → Work β}
    (each : ∀ item, Tells [] (step item)) :
    Tells [] (items.mapM step) := by
  have tells : Tells (items.flatMap fun _ => []) (items.mapM step) := mapM each
  rwa [List.flatMap_eq_nil_iff.mpr fun _ _ => rfl] at tells

private theorem tryCatch_of_nil {handler : Fault → Work α} (tried : Tells [] computation)
    (caught : ∀ fault, Tells [] (handler fault)) : Tells [] (tryCatch computation handler) := by
  refine tells_nil_iff.mpr fun workspace => ?_
  have silent := tells_nil_iff.mp tried workspace
  rw [run_tryCatch]
  rcases ran : computation.run.run workspace with ⟨fault | a, between⟩ <;> rw [ran] at silent
  · exact (tells_nil_iff.mp (caught fault) between).trans silent
  · exact silent

end Tells

/-! ## The log and the disk -/

private theorem heard_handle (stamp : String) (entry : Entry) (handlers : List Handler)
    (workspace : Workspace) :
    ((handle stamp entry handlers).run.run workspace).2.heard = workspace.heard := by
  induction handlers generalizing workspace with
  | nil => rfl
  | cons handler rest ih =>
      cases handler with
      | quiet => exact ih workspace
      | terminal level => exact ih workspace
      | file level path =>
          rw [run_handle_file]
          split
          · rw [run_bind, run_onDisk]
            cases workspace.disk.appendFile path (entry.bytes stamp) with
            | error fault => rfl
            | ok disk => exact ih { workspace with disk }
          · exact ih workspace

private theorem tells_record (entry : Entry) : Tells [] (record entry) := by
  refine tells_nil_iff.mpr fun workspace => ?_
  rw [run_record]
  split
  · exact heard_handle _ entry _ _
  · rfl

private theorem tells_log (level : Level) (source text : String) :
    Tells [] (log level source text) :=
  tells_record (.plain level source text)

private theorem tells_onDisk (operation : Disk → Except Fault Disk) :
    Tells [] (onDisk operation) := by
  refine tells_nil_iff.mpr fun workspace => ?_
  rw [run_onDisk]
  split <;> rfl

private theorem tells_onDiskAlways (operation : Disk → Except Fault α × Disk) :
    Tells [] (onDiskAlways operation) :=
  tells_nil_iff.mpr fun workspace => by rw [run_onDiskAlways]

private theorem tells_replay (computation : Traced α) : Tells [] (replay computation) :=
  (Tells.forM_of_nil tells_record).bind fun _ => .lift computation.outcome.1

private theorem tells_failLoad (fault : LoadFault) : Tells [] (failLoad fault : Work α) :=
  (tells_log _ _ _).bind fun _ => .throw _

private theorem tells_findValue (path : Path) : Tells [] (findValue path) := by
  have warns : Tells [] (warnOfName path) := by
    unfold warnOfName
    split
    · exact .pure ()
    · exact tells_log _ _ _
  have reads : Tells [] (readValue path) := by
    refine Tells.bind_of_nil .get fun seen => ?_
    split
    · exact (tells_log _ _ _).bind fun _ => .pure _
    · exact tells_failLoad _
    · exact tells_failLoad _
    · exact .throw _
  refine Tells.bind_of_nil .get fun seen => Tells.bind_of_nil (.lift _) fun present => ?_
  split
  · exact warns.bind fun _ => reads
  · exact tells_failLoad _

private theorem tells_loadValue (path : Path) : Tells [] (loadValue path) := by
  rw [loadValue_eq]
  exact (tells_log _ _ _).bind fun _ => tells_findValue path

/-! ## Messages of a build -/

/-- The message that opens a build. -/
def opening : String × String := ("info", "Analyzing Polymer components")

/-- The message about a file that is about to be written. -/
def creation (base : Path) (artifact : Artifact) : List (String × String) :=
  ((announcement? artifact (target base artifact)).map fun text => ("info", text)).toList

/-- The messages that follow the opening of a build: how many components are wrapped, the warnings,
the files and the end. -/
def telling (base : Path) (count : Nat) (warnings : List String)
    (artifacts : List Artifact) : List (String × String) :=
  ("info", "Building React wrappers for " ++ toString count ++ " web components") ::
    (warnings.map fun text => ("warning", text)) ++ artifacts.flatMap (creation base) ++
    [("info", "React components ready")]

/-- All messages of a build that succeeds. -/
def progress (base : Path) (count : Nat) (warnings : List String)
    (artifacts : List Artifact) : List (String × String) :=
  opening :: telling base count warnings artifacts

/-- Progress is told of without an error. -/
theorem ne_error_of_mem_progress {count : Nat} {warnings : List String} {artifacts : List Artifact}
    {message : String × String} (member : message ∈ progress base count warnings artifacts) :
    message.1 ≠ "error" := by
  simp only [progress, opening, telling, creation, List.mem_cons, List.mem_append, List.mem_map,
    List.mem_flatMap, Option.mem_toList, Option.map_eq_some_iff, List.not_mem_nil,
    or_false] at member
  rcases member with rfl | ((rfl | ⟨_, _, rfl⟩) | ⟨_, _, _, _, rfl⟩) | rfl <;> simp

private theorem tells_call {method : String} (offered : logger.methods.contains method = true)
    (callable : logger.attributes.contains method = false) (text : String) :
    Tells [(method, text)] (call logger method text) := by
  intro workspace
  rw [run_call offered callable]
  exact ⟨_, List.prefix_rfl, rfl, fun _ _ => rfl⟩

/-- Of the writing of a file nothing is told but what announces it. -/
theorem tells_writeArtifact {reporter : Reporter} {artifact : Artifact}
    (announces : Tells messages (announce reporter artifact (target base artifact))) :
    Tells messages (writeArtifact base reporter artifact) := by
  have makes : Tells [] (makeDirectories (target base artifact).parent) :=
    Tells.bind_of_nil .get fun _ => tells_onDiskAlways _
  have writes := announces.bind fun _ => makes.bind fun _ =>
    (tells_onDiskAlways (·.writeText (target base artifact) artifact.content)).bind fun _ =>
      (tells_log .debug writingSource
        ("Wrote " ++ (target base artifact).toString)).bind fun _ =>
          Tells.pure (target base artifact)
  rw [writeArtifact_eq]
  simpa using writes

section Usable

variable (usable : (Reporter.own logger).Usable)

include usable

private theorem tells_info (text : String) : Tells [("info", text)] (info (.own logger) text) := by
  obtain ⟨offered, callable⟩ := usable "info" (by decide)
  exact tells_call offered callable text

private theorem tells_warning (text : String) :
    Tells [("warning", text)] (warning (.own logger) text) := by
  obtain ⟨offered, callable⟩ := usable "warning" (by decide)
  exact tells_call offered callable text

private theorem tells_announce (artifact : Artifact) :
    Tells (creation base artifact) (announce (.own logger) artifact (target base artifact)) := by
  unfold announce creation
  cases announcement? artifact (target base artifact) with
  | none => exact .pure ()
  | some text => exact tells_info usable text

private theorem tells_writeArtifacts (base : Path) (artifacts : List Artifact) :
    Tells (artifacts.flatMap (creation base) ++ [("info", "React components ready")])
      (writeArtifacts artifacts base (.own logger)) := by
  refine (Tells.mapM fun artifact => tells_writeArtifact (tells_announce usable artifact)).bind
    fun written => ?_
  have tells := (tells_info usable "React components ready").bind fun _ => Tells.pure written
  rwa [List.append_nil] at tells

end Usable

/-! ## How a build is told of -/

/-- A build generates wrappers of the elements of some names from its analysis. -/
structure Generates (options : BuildOptions) (analysis : Analysis) (names : List Value)
    (generated : Outcome Artifact Fault) : Prop where
  selected : (analysis.selectNames (requested options)).outcome.1 = .ok names
  made : (generate (wrapperConfig options) analysis (requested options)).outcome.1 = .ok generated

/-- What is generated from an analysis is generated for some names, whose number is noted. -/
theorem exists_generates {analysis : Analysis} {generated : Outcome Artifact Fault}
    (made : (generate (wrapperConfig options) analysis (requested options)).outcome.1 =
      .ok generated) :
    ∃ names, Generates options analysis names generated ∧
      Ordered.get? "component_count" generated.metadata = some (.int names.length) := by
  obtain ⟨names, components, _, _, selected, converted, _, _, rfl⟩ := generate_ok_iff.mp made
  have count : names.length = components.length := (mapM_eq_ok_iff.mp converted).length_eq
  refine ⟨names, ⟨selected, made⟩, ?_⟩
  rw [count]
  simp [generationFacts, Ordered.get?]

private theorem tells_tell (usable : (Reporter.own logger).Usable) {count : Nat}
    {generated : Outcome Artifact Fault}
    (counted : Ordered.get? "component_count" generated.metadata = some (.int count)) :
    Tells (("info", "Building React wrappers for " ++ toString count ++ " web components") ::
      generated.warnings.map fun text => ("warning", text)) (tell (.own logger) generated) := by
  have shown : ((Ordered.get? "component_count" generated.metadata).getD .null).display =
      toString count := by
    rw [counted]
    rfl
  have warns : Tells (generated.warnings.flatMap fun text => [("warning", text)])
      (generated.warnings.forM fun text => warning (.own logger) text) :=
    Tells.forM fun text => tells_warning usable text
  rw [← List.map_eq_flatMap] at warns
  unfold tell
  simp only
  rw [shown]
  exact (tells_info usable _).bind fun _ => warns

private theorem tells_wrapping (usable : (Reporter.own logger).Usable) {count : Nat}
    {generated : Outcome Artifact Fault}
    (counted : Ordered.get? "component_count" generated.metadata = some (.int count))
    (base : Path) (finish : List Path → Outcome Artifact Fault) :
    Tells (telling base count generated.warnings generated.artifacts) (do
      tell (.own logger) generated
      let written ← writeArtifacts generated.artifacts base (.own logger)
      return finish written) := by
  have writes := (tells_tell usable counted).bind fun _ =>
    (tells_writeArtifacts usable base generated.artifacts).bind fun written =>
      Tells.pure (finish written)
  simpa [telling] using writes

/-- What a build that has its analysis tells while it generates and writes: nothing if nothing can
be generated, and otherwise the messages of what is generated. -/
theorem generateAndWrite_told (options : BuildOptions) (usable : (Reporter.own logger).Usable)
    (analysis : Analysis) (workspace : Workspace) :
    ∃ told result after,
      (generateAndWrite options (.own logger) analysis).run.run workspace = (result, after) ∧
      after.heard = workspace.heard ++ told ∧
      ((told = [] ∧ ∃ fault, result = .error fault) ∨
        ∃ names generated, Generates options analysis names generated ∧
          told <+: telling (destination options) names.length generated.warnings
            generated.artifacts ∧
          ∀ outcome, result = .ok outcome →
            told = telling (destination options) names.length generated.warnings
              generated.artifacts ∧
            ∃ metadata, outcome = { generated with
              warnings := options.warnings ++ generated.warnings, metadata }) := by
  have silent := tells_nil_iff.mp
    (tells_replay (generate (wrapperConfig options) analysis (requested options))) workspace
  rw [generateAndWrite_eq, run_bind]
  rcases replayed : (replay (generate (wrapperConfig options) analysis
      (requested options))).run.run workspace with ⟨fault | generated, between⟩ <;>
    rw [replayed] at silent
  · exact ⟨[], _, between, rfl, by rw [silent, List.append_nil], .inl ⟨rfl, fault, rfl⟩⟩
  · obtain ⟨names, generates, counted⟩ := exists_generates (replay_ok replayed)
    obtain ⟨told, begins, heard, all⟩ :=
      tells_wrapping usable counted (destination options) _ between
    refine ⟨told, _, _, rfl, silent ▸ heard, .inr ⟨names, generated, generates, begins,
      fun outcome ran => ⟨all outcome ran, ?_⟩⟩⟩
    obtain ⟨_, _, _, ran⟩ := run_bind_eq_ok_iff.mp (Prod.ext ran rfl)
    obtain ⟨written, _, _, ran⟩ := run_bind_eq_ok_iff.mp ran
    exact ⟨_, (Except.ok.inj (Prod.mk.inj ran).1).symm⟩

/-- The first messages of a build: it opens, and if it has generated wrappers from its analysis, it
goes on with messages of these. -/
inductive Begins (options : BuildOptions) (workspace : Workspace) : List (String × String) → Prop
  | opens : Begins options workspace [opening]
  | goesOn {analysis : Analysis} {loaded : Workspace} {names : List Value}
      {generated : Outcome Artifact Fault} {told : List (String × String)}
      (loads : (load options).run.run workspace = (.ok analysis, loaded))
      (generates : Generates options analysis names generated)
      (begins : told <+: telling (destination options) names.length generated.warnings
        generated.artifacts) : Begins options workspace (opening :: told)

/-- What a logger is told of a build that ends with a result: all of its progress, or the first
messages and an error, which is the text of the outcome if there is one. -/
inductive IsToldOf (options : BuildOptions) (workspace : Workspace) :
    List (String × String) → Except Fault (Outcome Artifact Fault) → Prop
  | success {analysis : Analysis} {loaded : Workspace} {names : List Value}
      {outcome : Outcome Artifact Fault}
      (loads : (load options).run.run workspace = (.ok analysis, loaded))
      (selected : (analysis.selectNames (requested options)).outcome.1 = .ok names)
      (succeeded : outcome.success = true)
      (announced : ∀ artifact ∈ outcome.artifacts,
        announcement? artifact (target (destination options) artifact) = none ↔
          artifact.kind = .index) :
      IsToldOf options workspace
        (progress (destination options) names.length outcome.warnings outcome.artifacts)
        (.ok outcome)
  | failure {begun : List (String × String)} {text : String}
      {result : Except Fault (Outcome Artifact Fault)}
      (begins : Begins options workspace begun)
      (calm : ∀ message ∈ begun, message.1 ≠ "error")
      (ends : ∀ outcome, result = .ok outcome →
        outcome.success = false ∧ outcome.errorMessage = some text) :
      IsToldOf options workspace (begun ++ [("error", text)]) result

private theorem announcement?_eq_none_iff {artifact : Artifact}
    (usual : ∀ name, artifact.kind ≠ .other name) (path : Path) :
    announcement? artifact path = none ↔ artifact.kind = .index := by
  unfold announcement?
  cases kind : artifact.kind with
  | other name => exact absurd kind (usual name)
  | component => simp
  | index => simp
  | helpers => simp
  | bundle => simp

/-- Every file that is generated is announced but for the indexes. -/
private theorem Generates.announced {analysis : Analysis} {names : List Value}
    {generated : Outcome Artifact Fault} (generates : Generates options analysis names generated)
    (base : Path) {artifact : Artifact} (member : artifact ∈ generated.artifacts) :
    announcement? artifact (target base artifact) = none ↔ artifact.kind = .index := by
  obtain ⟨_, _, _, _, _, _, _, assembled, same⟩ := generate_ok_iff.mp generates.made
  rw [same] at member
  exact announcement?_eq_none_iff (kind_ne_other assembled member) _

private theorem Begins.ne_error {begun : List (String × String)}
    (begins : Begins options workspace begun) {message : String × String}
    (member : message ∈ begun) : message.1 ≠ "error" := by
  cases begins with
  | opens =>
      rw [List.mem_singleton.mp member]
      decide
  | goesOn _ _ begins =>
      exact ne_error_of_mem_progress (((List.prefix_cons_inj _).mpr begins).subset member)

/-- What the steps of a build that can fail tell. -/
theorem attempt_told (usable : (Reporter.own logger).Usable)
    (starts : (start options).run.run workspace = (.ok (.own logger), workspace)) :
    ∃ told result after, (attempt options (.own logger)).run.run workspace = (result, after) ∧
      after.heard = workspace.heard ++ told ∧ Begins options workspace told ∧
      ∀ outcome, result = .ok outcome → ∃ analysis loaded names generated metadata,
        (load options).run.run workspace = (.ok analysis, loaded) ∧
        Generates options analysis names generated ∧
        told = progress (destination options) names.length generated.warnings
          generated.artifacts ∧
        outcome = { generated with
          warnings := options.warnings ++ generated.warnings, metadata } := by
  obtain ⟨offered, callable⟩ := usable "info" (by decide)
  have informed := run_call offered callable "Analyzing Polymer components" workspace
  have silent := tells_nil_iff.mp ((tells_loadValue (analysisPath options)).bind fun value =>
    Tells.lift (Analysis.ofValue value)) { workspace with heard := workspace.heard ++ [opening] }
  have analyzes : (analyze (analysisPath options) (.own logger)).run.run workspace =
      (loadAnalysis (analysisPath options)).run.run
        { workspace with heard := workspace.heard ++ [opening] } := run_bind_ok informed
  change ((loadAnalysis (analysisPath options)).run.run _).2.heard = _ at silent
  rcases ran : (loadAnalysis (analysisPath options)).run.run
      { workspace with heard := workspace.heard ++ [opening] } with ⟨fault | analysis, loaded⟩ <;>
    rw [ran] at silent analyzes
  · exact ⟨[opening], _, loaded, run_bind_error analyzes, silent, .opens,
      fun _ same => nomatch same⟩
  · have attempts : (attempt options (.own logger)).run.run workspace =
        (generateAndWrite options (.own logger) analysis).run.run loaded := run_bind_ok analyzes
    have loads : (load options).run.run workspace = (.ok analysis, loaded) :=
      (run_bind_ok starts).trans analyzes
    obtain ⟨told, result, after, wrote, heard, stopped | going⟩ :=
      generateAndWrite_told options usable analysis loaded
    · obtain ⟨rfl, fault, rfl⟩ := stopped
      refine ⟨[opening], _, after, attempts.trans wrote, ?_, .opens, fun _ same => nomatch same⟩
      rw [heard, silent, List.append_nil]
    · obtain ⟨names, generated, generates, begins, all⟩ := going
      refine ⟨opening :: told, result, after, attempts.trans wrote, ?_,
        .goesOn loads generates begins, fun outcome same => ?_⟩
      · rw [heard, silent, List.append_assoc, List.singleton_append]
      · obtain ⟨rfl, metadata, made⟩ := all outcome same
        exact ⟨analysis, loaded, names, generated, metadata, loads, generates, rfl, made⟩

/-- What tells of a failure tells the logger its text as an error, and then answers it as the
outcome if the log can be written. -/
theorem failBuild_told (usable : (Reporter.own logger).Usable) (fault : Fault)
    (workspace : Workspace) :
    ∃ result after, (failBuild (.own logger) fault).run.run workspace = (result, after) ∧
      after.heard = workspace.heard ++ [("error", "Build failed: " ++ fault.message)] ∧
      (∀ outcome, result = .ok outcome → outcome.success = false ∧
        outcome.errorMessage = some ("Build failed: " ++ fault.message)) ∧
      (workspace.journal.files = [] → ∃ outcome, result = .ok outcome) := by
  obtain ⟨offered, callable⟩ := usable "error" (by decide)
  have spoke := run_call offered callable ("Build failed: " ++ fault.message) workspace
  have silent := tells_nil_iff.mp (tells_record (failureDetails fault))
    { workspace with heard := workspace.heard ++ [("error", "Build failed: " ++ fault.message)] }
  rcases noted : (record (failureDetails fault)).run.run { workspace with
      heard := workspace.heard ++ [("error", "Build failed: " ++ fault.message)] }
    with ⟨stopped | done, after⟩ <;> rw [noted] at silent
  · refine ⟨_, after, (run_bind_ok spoke).trans (run_bind_error noted), silent,
      fun _ same => (nomatch same), fun quiet => ?_⟩
    obtain ⟨_, ran, _⟩ := goesThrough_record workspace.disk.home (failureDetails fault)
      { workspace with
        heard := workspace.heard ++ [("error", "Build failed: " ++ fault.message)] } (.inl quiet)
    rw [noted] at ran
    exact nomatch ran
  · refine ⟨.ok (.failure (some ("Build failed: " ++ fault.message)) (some fault)), after,
      (run_bind_ok spoke).trans (run_bind_ok noted), silent, ?_, fun _ => ⟨_, rfl⟩⟩
    rintro _ ⟨⟩
    exact ⟨rfl, rfl⟩

/-- Whatever was built before and whatever is on the disk, the logger that a build of valid options
reports to is told all of the progress of a build that succeeds. Of one that fails it is told the
first messages, at least one, and then the text of the failure as the only error. A log that writes
to no file does not keep the build from its outcome. -/
theorem build_told_own (valid : options.Valid) (found : options.ownLogger = some logger)
    (workspace : Workspace) :
    ∃ told result after, (build options).run.run workspace = (result, after) ∧
      after.heard = workspace.heard ++ told ∧ IsToldOf options workspace told result ∧
      (workspace.journal.files = [] → ∃ outcome, result = .ok outcome) := by
  have usable := usable_own found valid
  have unwarned := warnings_of_logger valid found
  have starts := run_start_own found (List.isEmpty_iff.mp valid.faultless) unwarned workspace
  have keptQuiet (quiet : workspace.journal.files = []) :
      ((attempt options (.own logger)).run.run workspace).2.journal.files = [] :=
    ((byReports_sparing workspace.disk.home ∅).attempt starts
      (fun _ _ => (keptAlong_sparing fun _ none => none.elim).writing) ⟨rfl, quiet⟩).quiet.files
  obtain ⟨told, result, tried, attempted, heard, begins, all⟩ := attempt_told usable starts
  rw [attempted] at keptQuiet
  cases result with
  | error fault =>
      obtain ⟨result, after, fails, heardLast, ends, answers⟩ := failBuild_told usable fault tried
      refine ⟨_, result, after, (run_build_failed starts attempted).trans fails, ?_,
        .failure begins (fun _ => begins.ne_error) ends, fun quiet => answers (keptQuiet quiet)⟩
      rw [heardLast, heard, List.append_assoc]
  | ok outcome =>
      obtain ⟨analysis, loaded, names, generated, metadata, loads, generates, rfl, made⟩ :=
        all outcome rfl
      rw [unwarned, List.nil_append] at made
      have produced := success_of_generate generates.made
      have success : outcome.success = true := by rw [made, ← produced]
      have warnings : generated.warnings = outcome.warnings := by rw [made]
      have artifacts : generated.artifacts = outcome.artifacts := by rw [made]
      have announced (artifact : Artifact) (member : artifact ∈ outcome.artifacts) :
          announcement? artifact (target (destination options) artifact) = none ↔
            artifact.kind = .index := generates.announced _ (artifacts ▸ member)
      have ends := run_build_attempted_own starts attempted success
      rw [warnings, artifacts] at heard
      exact ⟨_, _, tried, ends, heard, .success loads generates.selected success announced,
        fun _ => ⟨outcome, rfl⟩⟩

/-! ## A logger that counts as false -/

/-- The log is not the logger of a caller. -/
theorem tells_package_info (source text : String) : Tells [] (info (.package source) text) :=
  tells_log .info source text

private theorem tells_package_warning (source text : String) :
    Tells [] (warning (.package source) text) := tells_log .warning source text

private theorem tells_package_error (source text : String) :
    Tells [] (error (.package source) text) :=
  tells_log .error source text

private theorem tells_package_writeArtifacts (source : String) (base : Path)
    (artifacts : List Artifact) :
    Tells [] (writeArtifacts artifacts base (.package source)) := by
  have announces (artifact : Artifact) :
      Tells [] (announce (.package source) artifact (target base artifact)) := by
    unfold announce
    split
    · exact tells_package_info source _
    · exact .pure ()
  exact (Tells.mapM_of_nil fun artifact => tells_writeArtifact (announces artifact)).bind fun _ =>
    (tells_package_info source _).bind fun _ => .pure _

private theorem tells_package_attempt (options : BuildOptions) (source : String) :
    Tells [] (attempt options (.package source)) := by
  have analyzes : Tells [] (analyze (analysisPath options) (.package source)) :=
    (tells_package_info source _).bind fun _ => (tells_loadValue _).bind fun _ => .lift _
  refine analyzes.bind fun analysis => ?_
  rw [generateAndWrite_eq]
  refine (tells_replay _).bind fun generated => ?_
  have tells : Tells [] (tell (.package source) generated) :=
    (tells_package_info source _).bind fun _ => .forM_of_nil (tells_package_warning source)
  exact tells.bind fun _ => (tells_package_writeArtifacts source _ _).bind fun _ => .pure _

private theorem tells_package_start (package : options.ownLogger = none) :
    Tells [] (start options) := by
  have prepares : Tells [] (prepareReporter options) := by
    unfold prepareReporter
    rw [package]
    exact Tells.bind_of_nil .get fun seen =>
      Tells.bind_of_nil (tells_nil_iff.mpr fun _ => rfl) fun _ => .pure _
  refine prepares.bind_of_ok fun reporter _ _ chosen => ?_
  obtain rfl := reporter_of_prepareReporter package chosen
  refine (Tells.forM_of_nil fun fault => tells_package_error rootSource _).bind fun _ =>
    (Tells.forM_of_nil (tells_package_warning rootSource)).bind fun _ => ?_
  split
  · exact (Tells.throw _).bind fun _ => .pure _
  · exact .pure _

private theorem tells_package_build (package : options.ownLogger = none) :
    Tells [] (build options) := by
  refine (tells_package_start package).bind_of_ok fun reporter _ _ starts => ?_
  obtain rfl := reporter_of_start package starts
  have fails (fault : Fault) : Tells [] (failBuild (.package rootSource) fault) :=
    (tells_package_error rootSource _).bind fun _ => (tells_record _).bind fun _ => .pure _
  refine (Tells.tryCatch_of_nil (tells_package_attempt options rootSource) fails).bind
    fun outcome => ?_
  split
  · have clears : Tells [] (clearDebugFile (.package rootSource)) :=
      Tells.bind_of_nil (tells_nil_iff.mpr fun _ => rfl) fun _ =>
        .forM_of_nil fun _ => tells_onDisk _
    exact clears.bind fun _ => .pure _
  · exact .pure _

/-- A logger that counts as false is as good as none. -/
theorem build_eq_of_falsy (given : options.logger = some logger) (falsy : logger.truthy = false) :
    build options = build { options with logger := none } := by
  have absent : ({ options with logger := none } : BuildOptions).ownLogger = none := rfl
  have prepares : prepareReporter options = prepareReporter { options with logger := none } := by
    unfold prepareReporter
    rw [ownLogger_of_falsy given falsy, absent]
    rfl
  unfold build start
  rw [prepares]
  rfl

/-- **What a build tells the logger of its caller.** Whatever was built before and whatever is on
the disk, a logger in valid options that counts as true is told all of the progress of a build that
succeeds. Of one that fails it is told the first messages, at least one, and then the text of the
failure as the only error. A log that writes to no file does not keep the build from its outcome.
A logger that counts as false is told nothing: the build is the one without it. -/
theorem build_told (valid : options.Valid) (given : options.logger = some logger)
    (workspace : Workspace) :
    (logger.truthy = true → ∃ told result after,
      (build options).run.run workspace = (result, after) ∧
        after.heard = workspace.heard ++ told ∧ IsToldOf options workspace told result ∧
        (workspace.journal.files = [] → ∃ outcome, result = .ok outcome)) ∧
    (logger.truthy = false → build options = build { options with logger := none } ∧
      ((build options).run.run workspace).2.heard = workspace.heard) := by
  constructor
  · exact fun truthy => build_told_own valid (ownLogger_eq_some_iff.mpr ⟨given, truthy⟩) workspace
  · intro falsy
    have package := ownLogger_of_falsy given falsy
    exact ⟨build_eq_of_falsy given falsy, tells_nil_iff.mp (tells_package_build package) workspace⟩

/-- The covering build of the sample, whose logger is told of it. -/
theorem build_told_coveringOptions :
    ∃ told outcome after,
      (build coveringOptions).run.run { disk := sampleDisk } = (.ok outcome, after) ∧
      after.heard = told ∧ IsToldOf coveringOptions { disk := sampleDisk } told (.ok outcome) := by
  obtain ⟨told, result, after, ran, heard, toldOf, answers⟩ :=
    (build_told valid_coveringOptions rfl { disk := sampleDisk }).1 rfl
  obtain ⟨outcome, rfl⟩ := answers rfl
  exact ⟨told, outcome, after, ran, heard, toldOf⟩

/-- Settings with a logger, for an analysis that is not there. -/
def lostSettings (logger : OwnLogger) : Settings :=
  [("web_component", .json (.text "b.json")), ("logger", .logger logger)]

/-- A logger that offers all methods but counts as false is taken over into valid options, and is
not even told that its build has failed. -/
theorem not_told_of_falsy :
    (BuildOptions.ofSettings (lostSettings { sampleLogger with truthy := false })).logger =
        some { sampleLogger with truthy := false } ∧
    (lostOptions { sampleLogger with truthy := false }).Valid ∧
    ∃ outcome after,
      (build (lostOptions { sampleLogger with truthy := false })).run.run { disk := sampleDisk } =
        (.ok outcome, after) ∧ outcome.success = false ∧ after.heard = [] := by
  have read : BuildOptions.ofSettings (lostSettings { sampleLogger with truthy := false }) =
      lostOptions { sampleLogger with truthy := false } := by
    unfold BuildOptions.ofSettings
    rw [translate_of_known (by decide) rfl]
    rfl
  refine ⟨congrArg BuildOptions.logger read, ⟨⟨_, read⟩, rfl⟩, ?_⟩
  have silent := tells_nil_iff.mp (tells_package_build (ownLogger_of_falsy
    (show (lostOptions { sampleLogger with truthy := false }).logger = _ from rfl) rfl))
    { disk := sampleDisk }
  have failed : ((build (lostOptions { sampleLogger with truthy := false })).run.run
      { disk := sampleDisk }).1.toOption.map (·.success) = some false := by decide +kernel
  obtain ⟨outcome, answered, unsuccessful⟩ := Option.map_eq_some_iff.mp failed
  exact ⟨outcome, _, Prod.ext (eq_ok_of_toOption answered) rfl, unsuccessful, silent⟩

end ElementWrap.Work
