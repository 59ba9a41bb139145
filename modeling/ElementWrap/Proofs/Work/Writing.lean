import ElementWrap.Proofs.Files.Places
import ElementWrap.Proofs.Work.Reporting

/-! # What writing leaves on a disk

Files are written one after the other. The files of the log aside, each place then holds what was
written there last, or else what it held before (`ElementWrap.Work.left_of_writeArtifacts`), and a
single file is written as a whole, emptied or left alone (`ElementWrap.Work.comesTo_writeArtifact`).
Where the directories are there already, no directory is in the way and all contents have an
encoding, the writing succeeds (`ElementWrap.Work.run_writeArtifacts`).
-/

namespace ElementWrap.Work

open Files Log Layout

variable {home : Location} {workspace before between after : Workspace} {reporter : Reporter}
  {destination : Path} {artifact : Artifact} {artifacts : List Artifact} {place : Location}

/-- The path that an artifact is written to. -/
def target (destination : Path) (artifact : Artifact) : Path := destination.join artifact.path

/-- The bytes that the writing of an artifact leaves: those of its content, or none where that has
no encoding. -/
def bytes (artifact : Artifact) : List UInt8 := Text.Utf8.encodeOrEmpty artifact.content

/-- The content of an artifact has an encoding. -/
def IsEncodable (artifact : Artifact) : Prop := Text.Utf8.isEncodable artifact.content = true

instance : DecidablePred IsEncodable :=
  fun artifact => inferInstanceAs (Decidable (Text.Utf8.isEncodable artifact.content = true))

/-- What has an encoding leaves its bytes. -/
theorem bytes_of_encodable (whole : IsEncodable artifact) :
    bytes artifact = Text.Utf8.encode artifact.content :=
  Text.Utf8.encodeOrEmpty_of_encodable whole

/-! ## Places -/

/-- A path leads to a place. -/
def leadsTo (disk : Disk) (path : Path) (place : Location) : Bool :=
  match disk.follow path with
  | .ok found => decide (found = place)
  | .error _ => false

/-- A path leads to a place exactly if it can be followed there. -/
theorem leadsTo_iff {disk : Disk} {path : Path} :
    leadsTo disk path place = true ↔ disk.follow path = .ok place := by
  unfold leadsTo
  cases disk.follow path <;> simp

/-- What is written last to a place, if anything is. -/
def lastWritten (disk : Disk) (destination : Path) (place : Location)
    (artifacts : List Artifact) : Option (List UInt8) :=
  (artifacts.reverse.find? fun artifact => leadsTo disk (target destination artifact) place).map
    bytes

private theorem lastWritten_append (disk : Disk) (destination : Path) (place : Location)
    (done more : List Artifact) :
    lastWritten disk destination place (done ++ more) =
      (lastWritten disk destination place more).or (lastWritten disk destination place done) := by
  unfold lastWritten
  rw [List.reverse_append, List.find?_append, Option.map_or]

/-- Of one artifact the bytes are written where its path leads. -/
theorem lastWritten_singleton (disk : Disk) (destination : Path) (place : Location)
    (artifact : Artifact) :
    lastWritten disk destination place [artifact] =
      if leadsTo disk (target destination artifact) place then some (bytes artifact) else none := by
  unfold lastWritten
  rw [List.reverse_singleton, List.find?_singleton]
  split
  · rfl
  · rfl

/-- A place is written to last by the same artifact as long as no directory comes or goes. -/
theorem lastWritten_congr {before after : Disk} (keeps : before.KeepsDirectories after)
    (kept : after.KeepsDirectories before) (destination : Path) (place : Location)
    (artifacts : List Artifact) :
    lastWritten after destination place artifacts =
      lastWritten before destination place artifacts := by
  have same (path : Path) : leadsTo after path place = leadsTo before path place := by
    rw [Bool.eq_iff_iff, leadsTo_iff, leadsTo_iff]
    exact ⟨kept.follow, keeps.follow⟩
  simp only [lastWritten, same]

/-- So it is as long as the directories stay, if all the paths led somewhere. -/
theorem lastWritten_kept {first second : Disk} (keeps : first.KeepsDirectories second)
    (led : ∀ artifact ∈ artifacts, ∃ found, first.follow (target destination artifact) = .ok found)
    (place : Location) :
    lastWritten second destination place artifacts =
      lastWritten first destination place artifacts := by
  have same : ∀ artifact ∈ artifacts.reverse, leadsTo second (target destination artifact) place =
      leadsTo first (target destination artifact) place := by
    intro artifact member
    obtain ⟨found, leads⟩ := led artifact (List.mem_reverse.mp member)
    unfold leadsTo
    rw [leads, keeps.follow leads]
  unfold lastWritten
  rw [← List.head?_filter, ← List.head?_filter, List.filter_congr same]

/-! ## The last artifact of a place -/

/-- An artifact is the last one of a list that is written to a place. -/
structure IsLastAt (disk : Disk) (destination : Path) (artifacts : List Artifact)
    (place : Location) (last : Artifact) : Prop where
  led : disk.follow (target destination last) = .ok place
  none_later : ∃ earlier later, artifacts = earlier ++ last :: later ∧
    ∀ other ∈ later, disk.follow (target destination other) ≠ .ok place

/-- The last artifact of a place is one of the list. -/
theorem IsLastAt.mem {disk : Disk} {last : Artifact}
    (isLast : IsLastAt disk destination artifacts place last) : last ∈ artifacts := by
  obtain ⟨earlier, later, rfl, _⟩ := isLast.none_later
  exact List.mem_append_right earlier List.mem_cons_self

/-- Nothing was written to a place exactly if no path leads there. -/
theorem lastWritten_eq_none_iff {disk : Disk} :
    lastWritten disk destination place artifacts = none ↔
      ∀ artifact ∈ artifacts, disk.follow (target destination artifact) ≠ .ok place := by
  simp only [lastWritten, Option.map_eq_none_iff, List.find?_eq_none, List.mem_reverse, leadsTo_iff]

/-- Where a path of a list leads, the last artifact of the list is what was written last. -/
theorem exists_isLastAt {disk : Disk} (member : artifact ∈ artifacts)
    (led : disk.follow (target destination artifact) = .ok place) :
    ∃ last, IsLastAt disk destination artifacts place last ∧
      lastWritten disk destination place artifacts = some (bytes last) := by
  cases written : lastWritten disk destination place artifacts with
  | none => exact absurd led (lastWritten_eq_none_iff.mp written artifact member)
  | some content =>
      obtain ⟨last, found, rfl⟩ := Option.map_eq_some_iff.mp written
      obtain ⟨leads, later, earlier, split, none_later⟩ :=
        List.find?_eq_some_iff_append.mp found
      refine ⟨last, ⟨leadsTo_iff.mp leads, earlier.reverse, later.reverse, ?_, ?_⟩, rfl⟩
      · rw [← List.reverse_reverse artifacts, split]
        simp
      · intro other member
        have elsewhere := none_later other (List.mem_reverse.mp member)
        rwa [Bool.not_eq_true', ← Bool.not_eq_true, leadsTo_iff] at elsewhere

/-! ## The files of the log -/

/-- A file that the log writes to is spelled out to be at a place. -/
def IsLogged (workspace : Workspace) (place : Location) : Prop :=
  ∃ file ∈ workspace.journal.files, file.placeFrom workspace.disk.home = place

/-- Directories stay, and no file but those of the log comes, goes or changes. -/
structure KeepsFiles (before after : Workspace) : Prop where
  keeps : before.disk.KeepsDirectories after.disk
  files : after.journal.files = before.journal.files
  elsewhere : ∀ place, ¬ IsLogged before place →
    after.disk.file? place = before.disk.file? place

private theorem isLogged_congr (files : after.journal.files = before.journal.files)
    (atHome : after.disk.home = before.disk.home) :
    IsLogged after place ↔ IsLogged before place := by
  unfold IsLogged
  rw [files, atHome]

namespace KeepsFiles

private theorem isLogged_iff (kept : KeepsFiles before after) :
    IsLogged after place ↔ IsLogged before place := isLogged_congr kept.files kept.keeps.home

private theorem refl (workspace : Workspace) : KeepsFiles workspace workspace :=
  ⟨.refl _, rfl, fun _ _ => rfl⟩

private theorem trans (first : KeepsFiles before between) (second : KeepsFiles between after) :
    KeepsFiles before after where
  keeps := first.keeps.trans second.keeps
  files := second.files.trans first.files
  elsewhere place apart := by
    rw [second.elsewhere place (mt first.isLogged_iff.mp apart), first.elsewhere place apart]

private theorem of_extends {disk : Disk} (extended : workspace.disk.Extends disk) :
    KeepsFiles workspace { workspace with disk } :=
  ⟨extended.keepsDirectories, rfl, fun place _ => extended.file? place⟩

end KeepsFiles

instance : IsPreorder Workspace KeepsFiles where
  refl := .refl
  trans _ _ _ := .trans

/-- Reports change no files but those of the log. -/
theorem byReports_keepsFiles : ByReports KeepsFiles := by
  apply byReports_of_appends
  · exact fun workspace _ => ⟨.refl _, rfl, fun _ _ => rfl⟩
  · exact fun workspace _ => ⟨.refl _, rfl, fun _ _ => rfl⟩
  · intro workspace path listed content disk appended
    obtain ⟨place, written, led, free, rfl⟩ := Disk.appendFile_ok appended
    refine ⟨Disk.keepsDirectories_put free written, rfl, fun other apart => ?_⟩
    have different : other ≠ place := by
      rintro rfl
      exact apart ⟨path, listed, (Disk.placeFrom_of_follow led).symm⟩
    rw [Disk.file?_put free, if_neg different]

/-! ## What is left -/

/-- The path of an artifact leads to a place, and that of its directory to a directory. -/
def HasPlace (disk : Disk) (destination : Path) (artifact : Artifact) : Prop :=
  (∃ place, disk.follow (target destination artifact) = .ok place) ∧
  ∃ parent, disk.follow (target destination artifact).parent = .ok parent ∧
    disk.node? parent = some .directory

/-- An artifact keeps its place as long as directories stay. -/
theorem HasPlace.kept {before after : Disk} (has : HasPlace before destination artifact)
    (keeps : before.KeepsDirectories after) : HasPlace after destination artifact := by
  obtain ⟨⟨place, led⟩, parent, above, standing⟩ := has
  exact ⟨⟨place, keeps.follow led⟩, parent, keeps.follow above, keeps.kept parent standing⟩

/-- What the writing of files leaves: each has its place, directories stay, and the files of the log
aside each place holds what was written there last, or what it held before. -/
structure Left (destination : Path) (artifacts : List Artifact) (before after : Workspace) :
    Prop where
  keeps : before.disk.KeepsDirectories after.disk
  files : after.journal.files = before.journal.files
  places : ∀ artifact ∈ artifacts, HasPlace after.disk destination artifact
  held : ∀ place, ¬ IsLogged before place →
    after.disk.file? place =
      (lastWritten after.disk destination place artifacts).or (before.disk.file? place)

namespace Left

private theorem of_keepsFiles (kept : KeepsFiles before after) : Left destination [] before after :=
  ⟨kept.keeps, kept.files, fun _ member => absurd member List.not_mem_nil, kept.elsewhere⟩

/-- Files are written, and then others are. -/
theorem append {done more : List Artifact} (first : Left destination done before between)
    (second : Left destination more between after) :
    Left destination (done ++ more) before after where
  keeps := first.keeps.trans second.keeps
  files := second.files.trans first.files
  places := List.forall_mem_append.mpr
    ⟨fun artifact member => (first.places artifact member).kept second.keeps, second.places⟩
  held place apart := by
    -- The paths of the first files lead to the same places once the others are written.
    have led : ∀ artifact ∈ done,
        ∃ found, between.disk.follow (target destination artifact) = .ok found :=
      fun artifact member => (first.places artifact member).1
    have aside : ¬ IsLogged between place :=
      mt (isLogged_congr first.files first.keeps.home).mp apart
    rw [second.held place aside, first.held place apart, lastWritten_append,
      lastWritten_kept second.keeps led, Option.or_assoc]

/-- What is left stays while no file but those of the log changes. -/
theorem keptFiles (left : Left destination artifacts before between)
    (kept : KeepsFiles between after) : Left destination artifacts before after := by
  have all := left.append (.of_keepsFiles kept)
  rwa [List.append_nil] at all

/-- A file that is put where its path leads is the last one there. -/
theorem of_put {parent : Location}
    (led : workspace.disk.follow (target destination artifact) = .ok place)
    (free : workspace.disk.node? place ≠ some .directory)
    (above : workspace.disk.follow (target destination artifact).parent = .ok parent)
    (standing : workspace.disk.node? parent = some .directory) :
    Left destination [artifact] workspace
      { workspace with disk := workspace.disk.put place (.file (bytes artifact)) } := by
  have keeps := Disk.keepsDirectories_put free (bytes artifact)
  have ledAfter := keeps.follow led
  have has : HasPlace workspace.disk destination artifact :=
    ⟨⟨place, led⟩, parent, above, standing⟩
  refine ⟨keeps, rfl, List.forall_mem_singleton.mpr (has.kept keeps), fun other _ => ?_⟩
  rw [Disk.file?_put free, lastWritten_singleton]
  by_cases same : other = place
  · rw [if_pos same, if_pos (leadsTo_iff.mpr (same ▸ ledAfter)), Option.some_or]
  · have elsewhere : ¬ leadsTo (workspace.disk.put place (.file (bytes artifact)))
        (target destination artifact) other = true :=
      fun leads => same (Except.ok.inj ((leadsTo_iff.mp leads).symm.trans ledAfter))
    rw [if_neg same, if_neg elsewhere, Option.none_or]

end Left

/-! ## One file -/

/-- Says that an artifact is about to be written. -/
def announce (reporter : Reporter) (artifact : Artifact) (path : Path) : Work Unit :=
  match announcement? artifact path with
  | some text => info reporter text
  | none => pure ()

/-- How an artifact is written, step by step. -/
theorem writeArtifact_eq (destination : Path) (reporter : Reporter) (artifact : Artifact) :
    writeArtifact destination reporter artifact = (do
      announce reporter artifact (target destination artifact)
      makeDirectories (target destination artifact).parent
      onDiskAlways (·.writeText (target destination artifact) artifact.content)
      log .debug writingSource ("Wrote " ++ (target destination artifact).toString)
      return target destination artifact) := by
  unfold writeArtifact announce target
  simp only
  cases announcement? artifact (destination.join artifact.path) <;> rfl

/-- Announcing an artifact keeps what reports keep. -/
theorem ByReports.announce {related : Workspace → Workspace → Prop}
    [IsPreorder Workspace related] (reports : ByReports related) (reporter : Reporter)
    (artifact : Artifact) (path : Path) : Steps related (announce reporter artifact path) := by
  unfold Work.announce
  split
  · exact reports.info reporter _
  · exact .pure ()

private theorem reportsOnly_announce (home : Location) {reporter : Reporter}
    (usable : reporter.Usable)
    (artifact : Artifact) (path : Path) : ReportsOnly home (announce reporter artifact path) := by
  unfold announce
  split
  · exact reportsOnly_info home usable _
  · exact .pure

/-- Making directories replaces the disk either way. -/
theorem run_makeDirectories (path : Path) (workspace : Workspace) :
    (makeDirectories path).run.run workspace =
      ((workspace.disk.ensureDirectories workspace.depth path).1, { workspace with
        disk := (workspace.disk.ensureDirectories workspace.depth path).2 }) := rfl

/-- Where the directories of a path are made, it leads to a directory. -/
theorem run_makeDirectories_ok {path : Path}
    (ran : (makeDirectories path).run.run workspace = (.ok (), between)) :
    ∃ parent, between.disk.follow path = .ok parent ∧
      between.disk.node? parent = some .directory := by
  rw [run_makeDirectories, Prod.mk.injEq] at ran
  rw [← ran.2]
  exact Disk.ensureDirectories_ok (Prod.ext ran.1 rfl)

/-- Making the directories of a path changes no file. -/
theorem keepsFiles_makeDirectories (path : Path) : Steps KeepsFiles (makeDirectories path) :=
  fun workspace =>
    .of_extends (Disk.extends_ensureDirectories workspace.disk workspace.depth path)

/-- An artifact is put where its path leads. -/
def PutAt (destination : Path) (artifact : Artifact) (place : Location)
    (before after : Workspace) : Prop :=
  before.disk.follow (target destination artifact) = .ok place ∧
    before.disk.node? place ≠ some .directory ∧
    after = { before with disk := before.disk.put place (.file (bytes artifact)) }

private theorem putAt_of_writeFile {disk : Disk}
    (written : workspace.disk.writeFile (target destination artifact) (bytes artifact) = .ok disk) :
    ∃ place, PutAt destination artifact place workspace { workspace with disk } := by
  obtain ⟨place, led, free, rfl⟩ := Disk.writeFile_eq_ok_iff.mp written
  exact ⟨place, led, free, rfl⟩

/-- What is written has an encoding and is put where its path leads. -/
theorem run_writeText_ok
    (ran : (onDiskAlways (·.writeText (target destination artifact) artifact.content)).run.run
      workspace = (.ok (), after)) :
    IsEncodable artifact ∧ ∃ place, PutAt destination artifact place workspace after := by
  rw [run_onDiskAlways, Prod.mk.injEq] at ran
  obtain ⟨whole, written⟩ := Disk.writeText_ok (Prod.ext ran.1 rfl)
  exact ⟨whole, ran.2 ▸ putAt_of_writeFile written⟩

/-- What is not written was not let in, or it has no encoding and its file is empty now. -/
theorem run_writeText_error {fault : Fault}
    (ran : (onDiskAlways (·.writeText (target destination artifact) artifact.content)).run.run
      workspace = (.error fault, after)) :
    after = workspace ∨
      ¬ IsEncodable artifact ∧ (∃ stretch, fault = .unencodable stretch) ∧
        ∃ place, PutAt destination artifact place workspace after := by
  rw [run_onDiskAlways, Prod.mk.injEq] at ran
  rcases Disk.writeText_error (Prod.ext ran.1 rfl) with ⟨same, _⟩ | ⟨broken, told, written⟩
  · exact .inl (ran.2.symm.trans (congrArg (fun disk => { workspace with disk }) same))
  · exact .inr ⟨by simp [IsEncodable, broken], told, ran.2 ▸ putAt_of_writeFile written⟩

/-- What the writing of a file comes to: it is written; or nothing of it is; or its content has no
encoding, and it is left empty; or it is written and the log refuses to note it. -/
inductive ComesTo (destination : Path) (artifact : Artifact) (before after : Workspace) :
    Except Fault Path → Prop
  | written (whole : IsEncodable artifact) (left : Left destination [artifact] before after) :
      ComesTo destination artifact before after (.ok (target destination artifact))
  | refused {fault : Fault} (kept : KeepsFiles before after) :
      ComesTo destination artifact before after (.error fault)
  | emptied {stretch : Text.Utf8.Unencodable} (broken : ¬ IsEncodable artifact)
      (left : Left destination [artifact] before after) :
      ComesTo destination artifact before after (.error (.unencodable stretch))
  | unnoted {fault : Fault} (whole : IsEncodable artifact)
      (left : Left destination [artifact] before after) (logging : before.journal.files ≠ []) :
      ComesTo destination artifact before after (.error fault)

private theorem files_ne_nil_of_log_error {level : Level} {source text : String} {fault : Fault}
    (failed : (log level source text).run.run workspace = (.error fault, after)) :
    workspace.journal.files ≠ [] := by
  intro silent
  unfold log at failed
  rw [run_record] at failed
  split at failed
  · rw [run_handle_silent _ _ silent] at failed
    cases failed
  · cases failed

/-- A file that is put is where its path leads, and no other file changes but for the log. -/
theorem left_of_put {first second third : Workspace} (kept : KeepsFiles workspace first)
    (made : (makeDirectories (target destination artifact).parent).run.run first =
      (.ok (), second))
    (put : PutAt destination artifact place second third)
    (later : KeepsFiles third after) : Left destination [artifact] workspace after := by
  have keptSecond := kept.trans ((keepsFiles_makeDirectories _).of_run made)
  obtain ⟨parent, above, standing⟩ := run_makeDirectories_ok made
  obtain ⟨led, free, rfl⟩ := put
  exact ((Left.of_keepsFiles keptSecond).append (.of_put led free above standing)).keptFiles later

/-- **A file is written as a whole, emptied or left alone.** -/
theorem comesTo_writeArtifact {result : Except Fault Path}
    (ran : (writeArtifact destination reporter artifact).run.run workspace = (result, after)) :
    ComesTo destination artifact workspace after result := by
  have announces := byReports_keepsFiles.announce reporter artifact (target destination artifact)
  have notes := byReports_keepsFiles.log .debug writingSource
    ("Wrote " ++ (target destination artifact).toString)
  have makes := keepsFiles_makeDirectories (target destination artifact).parent
  rw [writeArtifact_eq] at ran
  cases result with
  | ok written =>
      obtain ⟨_, first, announced, ran⟩ := run_bind_eq_ok_iff.mp ran
      obtain ⟨_, second, made, ran⟩ := run_bind_eq_ok_iff.mp ran
      obtain ⟨_, third, wrote, ran⟩ := run_bind_eq_ok_iff.mp ran
      obtain ⟨_, fourth, noted, ran⟩ := run_bind_eq_ok_iff.mp ran
      cases ran
      obtain ⟨whole, _, put⟩ := run_writeText_ok wrote
      exact .written whole (left_of_put (announces.of_run announced) made put (notes.of_run noted))
  | error fault =>
      rcases run_bind_eq_error_iff.mp ran with failed | ⟨_, first, announced, ran⟩
      · exact .refused (announces.of_run failed)
      have kept := announces.of_run announced
      rcases run_bind_eq_error_iff.mp ran with failed | ⟨_, second, made, ran⟩
      · exact .refused (kept.trans (makes.of_run failed))
      rcases run_bind_eq_error_iff.mp ran with failed | ⟨_, third, wrote, ran⟩
      · rcases run_writeText_error failed with rfl | ⟨broken, ⟨stretch, rfl⟩, _, put⟩
        · exact .refused (kept.trans (makes.of_run made))
        · exact .emptied broken (left_of_put kept made put (.refl after))
      obtain ⟨whole, _, put⟩ := run_writeText_ok wrote
      rcases run_bind_eq_error_iff.mp ran with failed | ⟨_, fourth, _, ran⟩
      · have files := (left_of_put kept made put (.refl third)).files
        refine .unnoted whole (left_of_put kept made put (notes.of_run failed)) ?_
        rw [← files]
        exact files_ne_nil_of_log_error failed
      · cases ran

/-- A file that is written is where its path leads, and its content has an encoding. -/
theorem left_of_writeArtifact {written : Path}
    (ran : (writeArtifact destination reporter artifact).run.run workspace =
      (.ok written, after)) :
    written = target destination artifact ∧ IsEncodable artifact ∧
      Left destination [artifact] workspace after := by
  cases comesTo_writeArtifact ran with
  | written whole left => exact ⟨rfl, whole, left⟩

/-! ## All files -/

/-- So it is with one file after the other. -/
theorem left_of_mapM_writeArtifact {written : List Path}
    (ran : (artifacts.mapM (writeArtifact destination reporter)).run.run workspace =
      (.ok written, after)) :
    written = artifacts.map (target destination) ∧ (∀ artifact ∈ artifacts, IsEncodable artifact) ∧
      Left destination artifacts workspace after := by
  induction artifacts generalizing workspace written with
  | nil =>
      cases ran
      exact ⟨rfl, fun _ member => absurd member List.not_mem_nil, .of_keepsFiles (.refl after)⟩
  | cons artifact rest ih =>
      rw [List.mapM_cons] at ran
      obtain ⟨path, between, wroteFirst, ran⟩ := run_bind_eq_ok_iff.mp ran
      obtain ⟨paths, last, wroteRest, ran⟩ := run_bind_eq_ok_iff.mp ran
      cases ran
      obtain ⟨rfl, whole, first⟩ := left_of_writeArtifact wroteFirst
      obtain ⟨rfl, others, later⟩ := ih wroteRest
      exact ⟨rfl, List.forall_mem_cons.mpr ⟨whole, others⟩, first.append later⟩

/-- **Artifacts that are written are on the disk**, each place holding what was written there last,
and all other files are as they were. All their contents have an encoding. -/
theorem left_of_writeArtifacts {written : List Path}
    (ran : (writeArtifacts artifacts destination reporter).run.run workspace =
      (.ok written, after)) :
    written = artifacts.map (target destination) ∧ (∀ artifact ∈ artifacts, IsEncodable artifact) ∧
      Left destination artifacts workspace after := by
  obtain ⟨paths, between, wrote, ran⟩ := run_bind_eq_ok_iff.mp ran
  obtain ⟨_, last, told, ran⟩ := run_bind_eq_ok_iff.mp ran
  cases ran
  obtain ⟨rfl, whole, left⟩ := left_of_mapM_writeArtifact wrote
  have kept := (byReports_keepsFiles.info reporter "React components ready").of_run told
  exact ⟨rfl, whole, left.keptFiles kept⟩

/-! ## Away from reports -/

/-- A place that reports leave alone: any but that of the debug file, and that one too if the log
writes to no file. -/
def Untold (home : Location) (workspace : Workspace) (place : Location) : Prop :=
  place ≠ debugPlace home ∨ workspace.journal.files = []

private theorem Reported.node? (reported : Reported home workspace after)
    (untold : Untold home workspace place) :
    after.disk.node? place = workspace.disk.node? place := by
  rcases untold with away | silent
  · exact reported.disk.elsewhere place away
  · rw [reported.silent silent]

/-- Away from reports, files stay as they are. -/
theorem Reported.file? (reported : Reported home workspace after)
    (untold : Untold home workspace place) :
    after.disk.file? place = workspace.disk.file? place := by
  rw [Disk.file?, Disk.file?, reported.node? untold]

/-- A log that writes to no file has none in any place. -/
theorem not_isLogged_of_silent (silent : workspace.journal.files = []) :
    ¬ IsLogged workspace place := by
  rintro ⟨file, listed, _⟩
  rw [silent] at listed
  exact absurd listed List.not_mem_nil

/-- A log that writes to the debug file alone writes to no place away from reports. -/
theorem not_isLogged_of_untold (tidy : Tidy home workspace)
    (untold : Untold home workspace place) : ¬ IsLogged workspace place := by
  rcases untold with away | silent
  · rintro ⟨file, listed, rfl⟩
    obtain rfl := tidy.files file listed
    exact away (Disk.placeFrom_of_follow tidy.led).symm
  · exact not_isLogged_of_silent silent

/-- Files were written: each has an encoding and its place, directories stay, and away from the
reports each place holds what was written there last, or what it held before. -/
structure WroteAll (home : Location) (destination : Path) (artifacts : List Artifact)
    (before after : Workspace) : Prop where
  encodable : ∀ artifact ∈ artifacts, IsEncodable artifact
  keeps : before.disk.KeepsDirectories after.disk
  files : after.journal.files = before.journal.files
  places : ∀ artifact ∈ artifacts, HasPlace after.disk destination artifact
  held : ∀ place, Untold home before place →
    after.disk.file? place =
      (lastWritten after.disk destination place artifacts).or (before.disk.file? place)

/-- A working directory in place is so after files were written. -/
theorem Tidy.wroteAll {artifacts : List Artifact} (tidy : Tidy home workspace)
    (wrote : WroteAll home destination artifacts workspace after) : Tidy home after where
  atHome := wrote.keeps.home.trans tidy.atHome
  files := wrote.files ▸ tidy.files
  led := wrote.keeps.follow tidy.led

/-- What is left was written, where reports do not reach the files of the log. -/
theorem Left.wroteAll (left : Left destination artifacts workspace after)
    (encodable : ∀ artifact ∈ artifacts, IsEncodable artifact)
    (apart : ∀ place, Untold home workspace place → ¬ IsLogged workspace place) :
    WroteAll home destination artifacts workspace after :=
  ⟨encodable, left.keeps, left.files, left.places,
    fun place untold => left.held place (apart place untold)⟩

/-- Reports before and after the writing change nothing about it. -/
theorem WroteAll.among_reports {artifacts : List Artifact} {first last : Workspace}
    (wrote : WroteAll home destination artifacts first last)
    (before : Reported home workspace first) (later : Reported home last after) :
    WroteAll home destination artifacts workspace after where
  encodable := wrote.encodable
  keeps := (before.disk.keepsDirectories.trans wrote.keeps).trans later.disk.keepsDirectories
  files := (later.files.trans wrote.files).trans before.files
  places artifact member := (wrote.places artifact member).kept later.disk.keepsDirectories
  held place untold := by
    have untoldFirst : Untold home first place := untold.imp_right before.files.trans
    have untoldLast : Untold home last place := untoldFirst.imp_right wrote.files.trans
    rw [later.file? untoldLast, wrote.held place untoldFirst, before.file? untold,
      lastWritten_congr later.disk.keepsDirectories later.disk.symm.keepsDirectories]

/-- Artifacts that are written are on the disk, away from reports. -/
theorem writeArtifacts_ok {written : List Path} (tidy : Tidy home workspace)
    (ran : (writeArtifacts artifacts destination reporter).run.run workspace =
      (.ok written, after)) :
    written = artifacts.map (target destination) ∧
      WroteAll home destination artifacts workspace after := by
  obtain ⟨rfl, whole, left⟩ := left_of_writeArtifacts ran
  exact ⟨rfl, left.wroteAll whole fun _ => not_isLogged_of_untold tidy⟩

/-! ## Writing where everything has its place -/

/-- An artifact has an encoding and its place on a disk, and no directory is in that. -/
structure IsSettled (disk : Disk) (destination : Path) (artifact : Artifact) : Prop where
  whole : IsEncodable artifact
  has : HasPlace disk destination artifact
  free : ∀ place, disk.follow (target destination artifact) = .ok place →
    disk.node? place ≠ some .directory

/-- Artifacts keep their free places as long as no directory comes or goes. -/
theorem IsSettled.kept {before after : Disk} (settled : IsSettled before destination artifact)
    (keeps : before.KeepsDirectories after) (kept : after.KeepsDirectories before) :
    IsSettled after destination artifact where
  whole := settled.whole
  has := settled.has.kept keeps
  free place led standing := settled.free place (kept.follow led) (kept.kept place standing)

/-- A settled artifact is written, and no directory is made. -/
theorem run_writeArtifact (usable : reporter.Usable) (ready : Ready home workspace)
    (settled : IsSettled workspace.disk destination artifact) :
    ∃ after, (writeArtifact destination reporter artifact).run.run workspace =
        (.ok (target destination artifact), after) ∧
      Ready home after ∧ after.disk.KeepsDirectories workspace.disk := by
  obtain ⟨first, announced, reportedFirst, readyFirst⟩ :=
    (reportsOnly_announce home usable artifact (target destination artifact)).run ready
  have settledFirst := settled.kept reportedFirst.disk.keepsDirectories
    reportedFirst.disk.symm.keepsDirectories
  obtain ⟨⟨place, led⟩, parent, above, standing⟩ := settledFirst.has
  have free := settledFirst.free place led
  have made : (makeDirectories (target destination artifact).parent).run.run first =
      (.ok (), first) := by
    rw [run_makeDirectories, Disk.ensureDirectories_of_directory first.depth above standing]
  have put : (onDiskAlways
      (·.writeText (target destination artifact) artifact.content)).run.run first =
        (.ok (), { first with disk := first.disk.put place (.file (bytes artifact)) }) := by
    rw [run_onDiskAlways, Disk.writeText_of_encodable settled.whole
      (Disk.writeFile_eq_ok_iff.mpr ⟨place, led, free, rfl⟩)]
    rfl
  have stays := Disk.keepsDirectories_put free (bytes artifact)
  have back := Disk.keepsDirectories_of_put free (bytes artifact)
  have readyThird : Ready home
      { first with disk := first.disk.put place (.file (bytes artifact)) } :=
    { atHome := stays.home.trans readyFirst.atHome
      files := readyFirst.files
      led := stays.follow readyFirst.led
      writable := readyFirst.writable.imp_right fun free => mt (back.kept _) free }
  obtain ⟨after, logged, reportedLast, readyAfter⟩ := (reportsOnly_log home .debug writingSource
    ("Wrote " ++ (target destination artifact).toString)).run readyThird
  refine ⟨after, ?_, readyAfter, reportedLast.disk.symm.keepsDirectories.trans
    (back.trans reportedFirst.disk.symm.keepsDirectories)⟩
  rw [writeArtifact_eq, run_bind_ok announced, run_bind_ok made, run_bind_ok put,
    run_bind_ok logged]
  rfl

private theorem run_mapM_writeArtifact {artifacts : List Artifact} (usable : reporter.Usable)
    (ready : Ready home workspace)
    (settled : ∀ artifact ∈ artifacts, IsSettled workspace.disk destination artifact) :
    ∃ after, (artifacts.mapM (writeArtifact destination reporter)).run.run workspace =
        (.ok (artifacts.map (target destination)), after) ∧
      Ready home after ∧ after.disk.KeepsDirectories workspace.disk := by
  induction artifacts generalizing workspace with
  | nil => exact ⟨workspace, rfl, ready, .refl _⟩
  | cons artifact rest ih =>
      obtain ⟨between, wroteFirst, readyNext, back⟩ :=
        run_writeArtifact usable ready (settled artifact List.mem_cons_self)
      have keeps := (left_of_writeArtifact wroteFirst).2.2.keeps
      obtain ⟨after, wroteRest, readyAfter, backRest⟩ := ih readyNext fun other member =>
        (settled other (List.mem_cons_of_mem artifact member)).kept keeps back
      refine ⟨after, ?_, readyAfter, backRest.trans back⟩
      rw [List.mapM_cons, run_bind_ok wroteFirst, run_bind_ok wroteRest]
      rfl

/-- **Settled artifacts are written**, and no directory is made. -/
theorem run_writeArtifacts {artifacts : List Artifact} (usable : reporter.Usable)
    (ready : Ready home workspace)
    (settled : ∀ artifact ∈ artifacts, IsSettled workspace.disk destination artifact) :
    ∃ after, (writeArtifacts artifacts destination reporter).run.run workspace =
        (.ok (artifacts.map (target destination)), after) ∧
      Ready home after ∧ after.disk.KeepsDirectories workspace.disk := by
  obtain ⟨between, wrote, readyNext, back⟩ := run_mapM_writeArtifact usable ready settled
  obtain ⟨after, told, reported, readyAfter⟩ :=
    (reportsOnly_info home usable "React components ready").run readyNext
  refine ⟨after, ?_, readyAfter, reported.disk.symm.keepsDirectories.trans back⟩
  unfold writeArtifacts
  rw [run_bind_ok wrote, run_bind_ok told]
  rfl

end ElementWrap.Work
