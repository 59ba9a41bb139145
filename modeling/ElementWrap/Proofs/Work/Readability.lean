import ElementWrap.Options.Loading
import ElementWrap.Proofs.Work.Loading
import ElementWrap.Proofs.Work.Placing

/-! # What files can be loaded

Loading a file comes to what the file holds, whatever is reported on the way
(`ElementWrap.Work.run_loadValue`). Of an analysis document it is a value or a failed load, of a
configuration file it is settings or refused options. What is neither is told of as it is: that a
name is too long to be looked for, that bytes are no text in UTF-8, that an integer has too many
digits and that values are nested too deep (`ElementWrap.Work.loads_iff`).
-/

namespace ElementWrap.Work

open Files Log

variable {home place : Location} {workspace after : Workspace} {path : Path} {disk : Disk}
  {fault : Fault} {value : Value} {content : List UInt8}

/-! ## Bytes and paths that no load tells of -/

/-- Bytes hold no value, for a reason that is no defect of a JSON text. -/
inductive Garbled (content : List UInt8) : Fault → Prop
  | undecodable {fault : Text.Utf8.Malformed}
    (broken : Text.Utf8.decode content = .error fault) : Garbled content (.undecodable fault)
  | hugeInteger {text : List Char} {digits : Nat} (decoded : Text.Utf8.decode content = .ok text)
    (long : Json.read (Text.unifyNewlines text) = .error (.hugeInteger digits)) :
    Garbled content (.hugeInteger digits)
  | tooDeep {text : List Char} {container : Json.Container}
    (decoded : Text.Utf8.decode content = .ok text)
    (deep : Json.read (Text.unifyNewlines text) = .error (.tooDeep container)) :
    Garbled content (.deepDocument container)

/-- What is told of as it is when the file at the end of a path is loaded. -/
inductive Escapes (disk : Disk) (path : Path) : Fault → Prop
  | tooLong (speakable : Disk.isUnspeakable path = false)
    (long : disk.resolve path = .error .nameTooLong) :
    Escapes disk path (.refused .nameTooLong path.toString)
  | garbled {content : List UInt8} {fault : Fault} (read : disk.readFile path = .ok content)
    (garbled : Garbled content fault) : Escapes disk path fault

private theorem valueOfBytes_other_iff :
    valueOfBytes content = .error (.other fault) ↔ Garbled content fault := by
  constructor
  · intro read
    unfold valueOfBytes at read
    split at read
    · next broken =>
        cases read
        exact .undecodable broken
    · next text decoded =>
        split at read
        · exact nomatch read
        · exact nomatch read
        · next long =>
            cases read
            exact .hugeInteger decoded long
        · next deep =>
            cases read
            exact .tooDeep decoded deep
  · intro garbled
    unfold valueOfBytes
    cases garbled with
    | undecodable broken => rw [broken]
    | hugeInteger decoded long => simp only [decoded, long]
    | tooDeep decoded deep => simp only [decoded, deep]

private theorem walk_error {start : Location} {steps : List String} {refusal : Refusal}
    (stopped : disk.walk start steps = .error refusal) :
    refusal = .missing ∨ refusal = .notDirectory ∨ refusal = .nameTooLong := by
  induction steps generalizing start with
  | nil => exact nomatch stopped
  | cons step rest ih =>
      unfold Disk.walk at stopped
      split at stopped
      · exact .inl (Except.error.inj stopped).symm
      · exact .inr (.inl (Except.error.inj stopped).symm)
      · split at stopped
        · exact ih stopped
        · split at stopped
          · exact .inr (.inr (Except.error.inj stopped).symm)
          · exact ih stopped

/-- Whether a path leads to anything can be told, unless it is too long. -/
theorem contains_error_iff :
    disk.contains path = .error fault ↔ Disk.isUnspeakable path = false ∧
      disk.resolve path = .error .nameTooLong ∧ fault = .refused .nameTooLong path.toString := by
  unfold Disk.contains Disk.look
  cases Disk.isUnspeakable path with
  | true => exact iff_of_false (fun told => nomatch told) fun ⟨same, _⟩ => nomatch same
  | false =>
      cases resolved : disk.resolve path with
      | ok place => exact iff_of_false (fun told => nomatch told) fun ⟨_, same, _⟩ => nomatch same
      | error refusal =>
          have usual : refusal = .missing ∨ refusal = .notDirectory ∨ refusal = .nameTooLong := by
            unfold Disk.resolve at resolved
            split at resolved
            · exact .inr (.inr (Except.error.inj resolved).symm)
            · exact walk_error resolved
          rcases usual with rfl | rfl | rfl
          · exact iff_of_false (fun told => nomatch told) fun ⟨_, same, _⟩ => nomatch same
          · exact iff_of_false (fun told => nomatch told) fun ⟨_, same, _⟩ => nomatch same
          · change Except.error _ = _ ↔ _
            simp [eq_comm]

private theorem contains_true_iff :
    disk.contains path = .ok true ↔
      ∃ place node, disk.follow path = .ok place ∧ disk.node? place = some node := by
  have look_true (node : Option Node) :
      (Except.ok node >>= fun found => pure found.isSome : Except Fault Bool) = .ok true ↔
        ∃ found, node = some found := by
    cases node <;> simp [bind, Except.bind, pure, Except.pure]
  unfold Disk.contains Disk.look Disk.follow
  cases Disk.isUnspeakable path with
  | true => exact iff_of_false (fun told => nomatch told) fun ⟨_, _, led, _⟩ => nomatch led
  | false =>
      cases resolved : disk.resolve path with
      | ok place =>
          refine (look_true (disk.node? place)).trans ⟨fun ⟨node, held⟩ => ⟨place, node, rfl, held⟩,
            ?_⟩
          rintro ⟨_, node, ⟨⟩, held⟩
          exact ⟨node, held⟩
      | error refusal =>
          refine iff_of_false ?_ fun ⟨_, _, led, _⟩ => nomatch led
          cases refusal <;> exact fun told => nomatch told

/-- What can be read is there. -/
theorem contains_of_readFile (read : disk.readFile path = .ok content) :
    disk.contains path = .ok true := by
  obtain ⟨place, led, held⟩ := bind_eq_ok_iff.mp read
  cases node : disk.node? place with
  | none =>
      rw [node] at held
      exact nomatch held
  | some node => exact contains_true_iff.mpr ⟨place, _, led, node⟩

/-- What is there is read, or it is a directory. -/
theorem readFile_of_contains (present : disk.contains path = .ok true) :
    (∃ content, disk.readFile path = .ok content) ∨
      disk.readFile path = .error (.refused .isDirectory path.toString) := by
  obtain ⟨place, node, led, held⟩ := contains_true_iff.mp present
  unfold Disk.readFile
  rw [led]
  simp only [bind, Except.bind, held]
  cases node with
  | directory => exact .inr rfl
  | file content => exact .inl ⟨content, rfl⟩

private theorem escapes_iff :
    Escapes disk path fault ↔ disk.contains path = .error fault ∨
      ∃ content, disk.readFile path = .ok content ∧ Garbled content fault := by
  constructor
  · rintro (⟨speakable, long⟩ | ⟨read, garbled⟩)
    · exact .inl (contains_error_iff.mpr ⟨speakable, long, rfl⟩)
    · exact .inr ⟨_, read, garbled⟩
  · rintro (told | ⟨content, read, garbled⟩)
    · obtain ⟨speakable, long, rfl⟩ := contains_error_iff.mp told
      exact .tooLong speakable long
    · exact .garbled read garbled

private theorem Escapes.not_loading (escapes : Escapes disk path fault) (reason : LoadFault) :
    fault ≠ .loading reason := by
  rcases escapes with _ | ⟨_, _ | _ | _⟩ <;> exact nofun

private theorem Escapes.not_options (escapes : Escapes disk path fault) (reason : OptionsFault) :
    fault ≠ .options reason := by
  rcases escapes with _ | ⟨_, _ | _ | _⟩ <;> exact nofun

/-- What a file that is there is not told to hold, escapes. -/
theorem valueOfFile_other_iff (present : disk.contains path = .ok true) :
    valueOfFile disk path = .error (.other fault) ↔ Escapes disk path fault := by
  have found : ¬ disk.contains path = .error fault := by
    rw [present]
    exact nofun
  rw [escapes_iff, or_iff_right found, valueOfFile]
  rcases readFile_of_contains present with ⟨content, read⟩ | read <;> rw [read]
  · simp [valueOfBytes_other_iff]
  · exact iff_of_false nofun fun ⟨_, same, _⟩ => nomatch same

/-! ## Files that the log leaves alone -/

/-- Reports go through, and they are not written to where a path leads. -/
structure Undisturbed (home : Location) (path : Path) (workspace : Workspace) : Prop where
  audible : Audible home workspace
  aside : workspace.journal.files = [] ∨ workspace.disk.follow path ≠ .ok (debugPlace home)

private theorem Undisturbed.reported (undisturbed : Undisturbed home path workspace)
    (reported : Reported home workspace after) : Undisturbed home path after where
  audible := undisturbed.audible.reported reported
  aside := undisturbed.aside.imp reported.files.trans fun away led =>
    away (reported.disk.symm.keepsDirectories.follow led)

private theorem walk_tooLong {before after : Disk} {start : Location} {steps : List String}
    (keeps : before.KeepsDirectories after)
    (stopped : before.walk start steps = .error .nameTooLong) :
    after.walk start steps = .error .nameTooLong := by
  induction steps generalizing start with
  | nil => exact nomatch stopped
  | cons step rest ih =>
      unfold Disk.walk at stopped ⊢
      split at stopped
      · exact nomatch stopped
      · exact nomatch stopped
      · next standing =>
          rw [keeps.kept start standing]
          split at stopped
          · next upwards => exact (if_pos upwards).trans (ih stopped)
          · next inwards =>
              refine (if_neg inwards).trans ?_
              split at stopped
              · next long => exact if_pos long
              · next short => exact (if_neg short).trans (ih stopped)

private theorem resolve_tooLong {before after : Disk} (keeps : before.KeepsDirectories after)
    (stopped : before.resolve path = .error .nameTooLong) :
    after.resolve path = .error .nameTooLong := by
  unfold Disk.resolve at stopped ⊢
  split at stopped
  · next long => exact if_pos long
  · next short =>
      rw [if_neg short, keeps.home]
      exact walk_tooLong keeps stopped

/-- Where a path leads past the debug file, what stands there is as it was. -/
theorem node?_of_scribbled {other : Disk} {node : Node}
    (away : disk.follow path ≠ .ok (debugPlace home)) (scribbled : Scribbled home disk other)
    (led : disk.follow path = .ok place) (held : disk.node? place = some node) :
    other.follow path = .ok place ∧ other.node? place = some node := by
  have elsewhere : place ≠ debugPlace home := by
    rintro rfl
    exact away led
  exact ⟨scribbled.keepsDirectories.follow led, (scribbled.elsewhere place elsewhere).trans held⟩

private theorem contains_scribbled {other : Disk} (away : disk.follow path ≠ .ok (debugPlace home))
    (scribbled : Scribbled home disk other) : other.contains path = disk.contains path := by
  have keepsTrue {before after : Disk} (away : before.follow path ≠ .ok (debugPlace home))
      (scribbled : Scribbled home before after) (present : before.contains path = .ok true) :
      after.contains path = .ok true := by
    obtain ⟨place, node, led, held⟩ := contains_true_iff.mp present
    exact contains_true_iff.mpr ⟨place, node, node?_of_scribbled away scribbled led held⟩
  have keepsFault {before after : Disk} {fault : Fault} (scribbled : Scribbled home before after)
      (told : before.contains path = .error fault) : after.contains path = .error fault := by
    obtain ⟨speakable, long, rfl⟩ := contains_error_iff.mp told
    exact contains_error_iff.mpr ⟨speakable, resolve_tooLong scribbled.keepsDirectories long, rfl⟩
  have awayOther : other.follow path ≠ .ok (debugPlace home) :=
    fun led => away (scribbled.symm.keepsDirectories.follow led)
  rcases told : other.contains path with fault | _ | _
  · exact (keepsFault scribbled.symm told).symm
  · rcases before : disk.contains path with fault | _ | _
    · exact nomatch told.symm.trans (keepsFault scribbled before)
    · rfl
    · exact nomatch told.symm.trans (keepsTrue away scribbled before)
  · exact (keepsTrue awayOther scribbled.symm told).symm

private theorem Undisturbed.contains (undisturbed : Undisturbed home path workspace)
    (reported : Reported home workspace after) :
    after.disk.contains path = workspace.disk.contains path := by
  rcases undisturbed.aside with silent | away
  · rw [reported.silent silent]
  · exact contains_scribbled away reported.disk

private theorem Undisturbed.valueOfFile (undisturbed : Undisturbed home path workspace)
    (reported : Reported home workspace after)
    (present : workspace.disk.contains path = .ok true) :
    valueOfFile after.disk path = valueOfFile workspace.disk path := by
  rcases undisturbed.aside with silent | away
  · rw [reported.silent silent]
  · obtain ⟨place, node, led, held⟩ := contains_true_iff.mp present
    obtain ⟨ledAfter, heldAfter⟩ := node?_of_scribbled away reported.disk led held
    unfold ElementWrap.valueOfFile Disk.readFile
    rw [led, ledAfter]
    simp only [bind, Except.bind, held, heldAfter]

private theorem goesThrough_warnOfName (home : Location) (path : Path) :
    GoesThrough home (warnOfName path) := by
  unfold warnOfName
  split
  · exact fun workspace _ => ⟨workspace, rfl, .refl home workspace⟩
  · exact goesThrough_log home _ _ _

/-! ## Documents -/

/-- What a load makes of what a file holds. -/
def settled (path : Path) : Except JsonFileFault Value → Except Fault Value
  | .ok value => .ok value
  | .error (.malformed fault) => .error (.loading (.malformed path.toString fault))
  | .error (.unreadable refusal) => .error (.loading (.unreadable path.toString refusal))
  | .error (.other fault) => .error fault

private theorem other_of_settled {held : Except JsonFileFault Value}
    (failed : settled path held = .error fault) (other : ∀ reason, fault ≠ .loading reason) :
    held = .error (.other fault) := by
  rcases held with (_ | _ | _) | _
  · cases failed
    exact absurd rfl (other _)
  · cases failed
    exact absurd rfl (other _)
  · cases failed
    rfl
  · exact nomatch failed

/-- What loading the file at the end of a path comes to. -/
def loaded (disk : Disk) (path : Path) : Except Fault Value := do
  if ← disk.contains path then settled path (valueOfFile disk path)
  else throw (.loading (.notFound path.toString))

private theorem run_failLoad (undisturbed : Undisturbed home path workspace) (fault : LoadFault) :
    ∃ after, (failLoad fault : Work Value).run.run workspace = (.error (.loading fault), after) ∧
      Reported home workspace after := by
  obtain ⟨after, told, reported⟩ :=
    goesThrough_log home .error loadingSource fault.message workspace undisturbed.audible
  exact ⟨after, run_bind_ok told, reported⟩

private theorem run_readValue_settled (undisturbed : Undisturbed home path workspace) :
    ∃ after, (readValue path).run.run workspace =
        (settled path (valueOfFile workspace.disk path), after) ∧
      Reported home workspace after := by
  have reads : (readValue path).run.run workspace =
      (match valueOfFile workspace.disk path with
        | .ok value => log .info loadingSource ("Successfully loaded JSON from " ++
            path.toString) >>= fun _ => pure value
        | .error (.malformed fault) => failLoad (.malformed path.toString fault)
        | .error (.unreadable refusal) => failLoad (.unreadable path.toString refusal)
        | .error (.other fault) => throw fault : Work Value).run.run workspace := rfl
  rw [reads]
  rcases valueOfFile workspace.disk path with (refusal | fault | fault) | value
  · exact run_failLoad undisturbed _
  · exact run_failLoad undisturbed _
  · exact ⟨workspace, rfl, .refl home workspace⟩
  · obtain ⟨after, told, reported⟩ := goesThrough_log home .info loadingSource
      ("Successfully loaded JSON from " ++ path.toString) workspace undisturbed.audible
    exact ⟨after, run_bind_ok told, reported⟩

/-- **Loading comes to what the file holds**, and all that it does besides is to report. -/
theorem run_loadValue (undisturbed : Undisturbed home path workspace) :
    ∃ after, (loadValue path).run.run workspace = (loaded workspace.disk path, after) ∧
      Reported home workspace after := by
  obtain ⟨first, attempts, reportedFirst⟩ := goesThrough_log home .debug loadingSource
    ("Attempting to load JSON from file: " ++ path.toString) workspace undisturbed.audible
  have undisturbedFirst := undisturbed.reported reportedFirst
  have finds : (loadValue path).run.run workspace =
      (lift (workspace.disk.contains path) >>= fun present =>
        if present then warnOfName path >>= fun _ => readValue path
        else failLoad (.notFound path.toString) : Work Value).run.run first := by
    rw [loadValue_eq, run_bind_ok attempts, ← undisturbed.contains reportedFirst]
    rfl
  rw [finds, loaded]
  rcases present : workspace.disk.contains path with fault | _ | _
  · exact ⟨first, run_bind_error (run_lift _ first), reportedFirst⟩
  · obtain ⟨after, fails, reported⟩ := run_failLoad undisturbedFirst (.notFound path.toString)
    exact ⟨after, (run_bind_ok (run_lift _ first)).trans fails, reportedFirst.trans reported⟩
  · obtain ⟨second, warns, reportedSecond⟩ := goesThrough_warnOfName home path first
      undisturbedFirst.audible
    obtain ⟨after, reads, reportedLast⟩ :=
      run_readValue_settled (undisturbedFirst.reported reportedSecond)
    have reported := reportedFirst.trans reportedSecond
    rw [undisturbed.valueOfFile reported present] at reads
    refine ⟨after, ?_, reported.trans reportedLast⟩
    exact (run_bind_ok (run_lift _ first)).trans ((run_bind_ok warns).trans reads)

private theorem loaded_of_present (present : disk.contains path = .ok true) :
    loaded disk path = settled path (valueOfFile disk path) := by
  rw [loaded, present]
  rfl

private theorem loaded_ok_iff :
    loaded disk path = .ok value ↔ ∃ place, HoldsValue disk path place value := by
  rw [← valueOfFile_eq_ok_iff]
  constructor
  · intro read
    rcases present : disk.contains path with fault | _ | _
    · rw [loaded, present] at read
      exact nomatch read
    · rw [loaded, present] at read
      exact nomatch read
    · rw [loaded_of_present present] at read
      rcases held : valueOfFile disk path with (_ | _ | _) | found <;> rw [held] at read
      · exact nomatch read
      · exact nomatch read
      · exact nomatch read
      · cases read
        rfl
  · intro held
    obtain ⟨place, holds⟩ := valueOfFile_eq_ok_iff.mp held
    rw [loaded_of_present holds.contains, held]
    rfl

/-- A load that fails in another way than a load is told to, does so since something escapes. -/
theorem loaded_error_iff :
    (loaded disk path = .error fault ∧ ∀ reason, fault ≠ .loading reason) ↔
      Escapes disk path fault := by
  constructor
  · rintro ⟨failed, other⟩
    rcases present : disk.contains path with told | _ | _
    · rw [loaded, present] at failed
      cases failed
      exact escapes_iff.mpr (.inl present)
    · rw [loaded, present] at failed
      cases failed
      exact absurd rfl (other _)
    · rw [loaded_of_present present] at failed
      exact (valueOfFile_other_iff present).mp (other_of_settled failed other)
  · intro escapes
    refine ⟨?_, escapes.not_loading⟩
    rcases escapes_iff.mp escapes with told | ⟨content, read, _⟩
    · rw [loaded, told]
      rfl
    · have present := contains_of_readFile read
      rw [loaded_of_present present, (valueOfFile_other_iff present).mpr escapes]
      rfl

/-! ## Configuration files -/

/-- What is made of what a configuration file holds. -/
def configured (path : Path) : Except JsonFileFault Value → Except Fault Settings
  | .ok (.object fields) => .ok (fields.map fun field => (field.1, .json field.2))
  | .ok _ => .error (.options (.notObject path.toString))
  | .error (.malformed fault) => .error (.options (.malformed path.toString fault))
  | .error (.unreadable refusal) => .error (.options (.unreadable path.toString refusal))
  | .error (.other fault) => .error fault

private theorem other_of_configured {held : Except JsonFileFault Value}
    (failed : configured path held = .error fault) (other : ∀ reason, fault ≠ .options reason) :
    held = .error (.other fault) := by
  have refused {reason : OptionsFault}
      (same : (.error (.options reason) : Except Fault Settings) = .error fault) :
      held = .error (.other fault) := absurd (Except.error.inj same).symm (other reason)
  rcases held with (_ | _ | _) | (_ | _ | _ | _ | _ | _ | _)
  case error.other =>
    cases failed
    rfl
  case ok.object => exact nomatch failed
  all_goals exact refused failed

private theorem settingsOfFile_of_present (present : disk.contains path = .ok true)
    (named : path.isJson = true) :
    BuildOptions.settingsOfFile disk path = configured path (valueOfFile disk path) := by
  unfold BuildOptions.settingsOfFile
  rw [present, named]
  rcases valueOfFile disk path with (_ | _ | _) | (_ | _ | _ | _ | _ | _ | _) <;> rfl

private theorem settingsOfFile_of_fault (told : disk.contains path = .error fault) :
    BuildOptions.settingsOfFile disk path = .error fault := by
  rw [BuildOptions.settingsOfFile, told]
  rfl

/-- A file that is not there or not named as one of values holds no settings. -/
theorem settingsOfFile_of_refused
    (refused : disk.contains path = .ok false ∨
      disk.contains path = .ok true ∧ path.isJson = false) :
    ∃ reason, BuildOptions.settingsOfFile disk path = .error (.options reason) := by
  unfold BuildOptions.settingsOfFile
  rcases refused with absent | ⟨present, misnamed⟩
  · rw [absent]
    exact ⟨_, rfl⟩
  · rw [present, misnamed]
    exact ⟨_, rfl⟩

/-- Settings are read exactly from files of values that hold an object. -/
theorem settingsOfFile_ok_iff {settings : Settings} :
    BuildOptions.settingsOfFile disk path = .ok settings ↔ path.isJson = true ∧
      ∃ place fields, HoldsValue disk path place (.object fields) ∧
        settings = fields.map fun field => (field.1, .json field.2) := by
  constructor
  · intro read
    rcases present : disk.contains path with fault | _ | _
    · rw [settingsOfFile_of_fault present] at read
      exact nomatch read
    · obtain ⟨_, refused⟩ := settingsOfFile_of_refused (.inl present)
      exact nomatch refused.symm.trans read
    · cases named : path.isJson with
      | false =>
          obtain ⟨_, refused⟩ := settingsOfFile_of_refused (.inr ⟨present, named⟩)
          exact nomatch refused.symm.trans read
      | true =>
          rw [settingsOfFile_of_present present named] at read
          rcases held : valueOfFile disk path with
            (_ | _ | _) | (_ | _ | _ | _ | _ | _ | fields) <;> rw [held] at read <;> cases read
          obtain ⟨place, holds⟩ := valueOfFile_eq_ok_iff.mp held
          exact ⟨rfl, place, fields, holds, rfl⟩
  · rintro ⟨named, place, fields, holds, rfl⟩
    rw [settingsOfFile_of_present holds.contains named, valueOfFile_eq_ok_iff.mpr ⟨place, holds⟩]
    rfl

/-- A configuration file that is not refused as one is told to be, is so since something escapes. -/
theorem settingsOfFile_error_iff :
    (BuildOptions.settingsOfFile disk path = .error fault ∧ ∀ reason, fault ≠ .options reason) ↔
      Escapes disk path fault ∧ (path.isJson = true ∨ disk.contains path = .error fault) := by
  constructor
  · rintro ⟨failed, other⟩
    rcases present : disk.contains path with told | _ | _
    · rw [settingsOfFile_of_fault present] at failed
      cases failed
      exact ⟨escapes_iff.mpr (.inl present), .inr rfl⟩
    · obtain ⟨_, refused⟩ := settingsOfFile_of_refused (.inl present)
      cases refused.symm.trans failed
      exact absurd rfl (other _)
    · cases named : path.isJson with
      | false =>
          obtain ⟨_, refused⟩ := settingsOfFile_of_refused (.inr ⟨present, named⟩)
          cases refused.symm.trans failed
          exact absurd rfl (other _)
      | true =>
          rw [settingsOfFile_of_present present named] at failed
          exact ⟨(valueOfFile_other_iff present).mp (other_of_configured failed other), .inl rfl⟩
  · rintro ⟨escapes, reached⟩
    refine ⟨?_, escapes.not_options⟩
    rcases escapes_iff.mp escapes with told | ⟨content, read, _⟩
    · exact settingsOfFile_of_fault told
    · have present := contains_of_readFile read
      have named := reached.resolve_right (by simp [present])
      rw [settingsOfFile_of_present present named, (valueOfFile_other_iff present).mpr escapes]
      rfl

/-- Loading options fails if the settings of the file that they name do, and for no other reason. -/
theorem load_error_iff {name : String} (named : name ≠ "") (overrides : Settings) :
    BuildOptions.load disk (some name) overrides = .error fault ↔
      BuildOptions.settingsOfFile disk (.ofString name) = .error fault := by
  have loads : BuildOptions.load disk (some name) overrides =
      BuildOptions.settingsOfFile disk (.ofString name) >>= fun configured =>
        pure (.ofSettings (BuildOptions.mergedSettings configured overrides)) :=
    if_neg named
  rw [loads, bind_eq_error_iff]
  exact or_iff_left fun ⟨_, _, fails⟩ => nomatch fails

/-- **What loading comes to.** Let reports go through and leave the file alone. Loading a document
answers the value that the file holds or a failed load, unless something escapes. Loading a
configuration file answers the settings of the object that a file of such a name holds or that the
options are refused, unless something escapes: that the path is too long to look for, or what the
bytes of a file of such a name are. Options that name the file are not loaded for the same reasons,
and no others. -/
theorem loads_iff (undisturbed : Undisturbed home path workspace) :
    (∀ value, ((loadValue path).run.run workspace).1 = .ok value ↔
      ∃ place, HoldsValue workspace.disk path place value) ∧
    (∀ fault, (((loadValue path).run.run workspace).1 = .error fault ∧
      ∀ reason, fault ≠ .loading reason) ↔ Escapes workspace.disk path fault) ∧
    (∀ settings, BuildOptions.settingsOfFile workspace.disk path = .ok settings ↔
      path.isJson = true ∧ ∃ place fields, HoldsValue workspace.disk path place (.object fields) ∧
        settings = fields.map fun field => (field.1, .json field.2)) ∧
    (∀ fault, (BuildOptions.settingsOfFile workspace.disk path = .error fault ∧
      ∀ reason, fault ≠ .options reason) ↔
        Escapes workspace.disk path fault ∧
          (path.isJson = true ∨ workspace.disk.contains path = .error fault)) ∧
    ∀ name overrides fault, name ≠ "" → path = .ofString name →
      (BuildOptions.load workspace.disk (some name) overrides = .error fault ↔
        BuildOptions.settingsOfFile workspace.disk path = .error fault) := by
  obtain ⟨after, ran, _⟩ := run_loadValue undisturbed
  rw [ran]
  refine ⟨fun _ => loaded_ok_iff, fun _ => loaded_error_iff, fun _ => settingsOfFile_ok_iff,
    fun _ => settingsOfFile_error_iff, ?_⟩
  rintro name overrides _ named rfl
  exact load_error_iff named overrides

/-- The analysis of the sample is loaded. -/
theorem loads_sample :
    ((loadValue (.ofString "a.json")).run.run { disk := sampleDisk }).1 =
      .ok sampleAnalysis.document := by
  have undisturbed : Undisturbed ["w"] (.ofString "a.json") { disk := sampleDisk } :=
    ⟨.inl rfl, .inl rfl⟩
  exact ((loads_iff undisturbed).1 _).mpr ⟨_, holdsValue_sampleDisk⟩

/-- A working directory with a file that holds no text. -/
def garbledDisk : Disk := sampleDisk.put ["w", "a.json"] (.file [0xFF])

/-- The file of one byte is neither loaded nor told of as a failed load or refused options. -/
theorem not_loads_garbled :
    ∃ fault, ((loadValue (.ofString "a.json")).run.run { disk := garbledDisk }).1 =
        .error (.undecodable fault) ∧
      BuildOptions.settingsOfFile garbledDisk (.ofString "a.json") =
        .error (.undecodable fault) := by
  obtain ⟨fault, broken⟩ : ∃ fault, Text.Utf8.decode [0xFF] = .error fault := ⟨_, rfl⟩
  have free : sampleDisk.node? ["w", "a.json"] ≠ some .directory := by decide
  have led : garbledDisk.follow (.ofString "a.json") = .ok ["w", "a.json"] :=
    (Disk.keepsDirectories_put free [0xFF]).follow holdsValue_sampleDisk.1
  have held : garbledDisk.node? ["w", "a.json"] = some (.file [0xFF]) := by decide
  have read : garbledDisk.readFile (.ofString "a.json") = .ok [0xFF] := by
    rw [Disk.readFile, led]
    simp only [bind, Except.bind, held]
    rfl
  have escapes : Escapes garbledDisk (.ofString "a.json") (.undecodable fault) :=
    .garbled read (.undecodable broken)
  have undisturbed : Undisturbed ["w"] (.ofString "a.json") { disk := garbledDisk } :=
    ⟨.inl rfl, .inl rfl⟩
  obtain ⟨_, ran, _⟩ := run_loadValue undisturbed
  refine ⟨fault, ?_, (settingsOfFile_error_iff.mpr ⟨escapes, .inl ?_⟩).1⟩
  · rw [ran]
    exact (loaded_error_iff.mpr escapes).1
  · rw [ofString_analysis]
    rfl

end ElementWrap.Work
