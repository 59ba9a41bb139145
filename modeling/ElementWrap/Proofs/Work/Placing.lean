import ElementWrap.Proofs.Files.Making
import ElementWrap.Proofs.Work.Building
import Mathlib.Data.Set.Defs

/-! # Writing where there is room

Files are to be written at some places and directories to be made at others. As long as no place is
among both, no file stands where a directory belongs and no directory where a file does, files with
an encoding are written, one after the other (`ElementWrap.Work.run_writeArtifacts_room`). Reports
do not disturb it if they go through and write to no place where a directory belongs.
-/

namespace ElementWrap.Work

open Files Log Layout

variable {home : Location} {folders files : Set Location} {workspace after : Workspace}
  {reporter : Reporter} {destination path : Path} {artifact : Artifact} {place : Location}

/-! ## Reports that go through -/

/-- Reports go through: the log writes to no file, or it can write what it writes. -/
def Audible (home : Location) (workspace : Workspace) : Prop :=
  workspace.journal.files = [] ∨ Ready home workspace

/-- Reports go on to go through. -/
theorem Audible.reported (audible : Audible home workspace)
    (reported : Reported home workspace after) : Audible home after :=
  audible.imp reported.files.trans fun ready => ready.reported reported

/-- A computation makes reports, and they go through. -/
def GoesThrough (home : Location) (computation : Work Unit) : Prop :=
  ∀ workspace, Audible home workspace →
    ∃ after, computation.run.run workspace = (.ok (), after) ∧ Reported home workspace after

/-- An entry goes through where the log can be written. -/
theorem goesThrough_record (home : Location) (entry : Entry) : GoesThrough home (record entry) := by
  rintro workspace (silent | ready)
  · rw [run_record]
    split
    · rw [run_handle_silent _ _ silent]
      exact ⟨_, rfl, .refl home workspace.disk, rfl, fun _ => rfl⟩
    · exact ⟨_, rfl, .refl home workspace⟩
  · obtain ⟨after, ran, reported, _⟩ := (reportsOnly_record home entry).run ready
    exact ⟨after, ran, reported⟩

/-- So does an entry of a level. -/
theorem goesThrough_log (home : Location) (level : Level) (source text : String) :
    GoesThrough home (log level source text) := goesThrough_record home (.plain level source text)

private theorem goesThrough_info (home : Location) (usable : reporter.Usable) (text : String) :
    GoesThrough home (info reporter text) := by
  cases reporter with
  | package source => exact goesThrough_log home .info source text
  | own logger =>
      intro workspace _
      obtain ⟨offered, callable⟩ := usable "info" (by decide)
      exact ⟨_, run_call offered callable text workspace, .refl home workspace.disk, rfl,
        fun _ => rfl⟩

private theorem goesThrough_announce (home : Location) (usable : reporter.Usable)
    (artifact : Artifact)
    (path : Path) : GoesThrough home (announce reporter artifact path) := by
  unfold announce
  split
  · exact goesThrough_info home usable _
  · exact fun workspace _ => ⟨workspace, rfl, .refl home workspace⟩

/-! ## Room for files and directories -/

/-- There is room for directories at some places and for files at others, and reports go through and
write to none of the former. -/
structure Room (home : Location) (folders files : Set Location) (workspace : Workspace) :
    Prop where
  atHome : workspace.disk.home = home
  audible : Audible home workspace
  aside : ∀ place ∈ folders, Untold home workspace place
  noFile : ∀ place ∈ folders, workspace.disk.file? place = none
  noDirectory : ∀ place ∈ files, workspace.disk.node? place ≠ some .directory

namespace Room

/-- Reports leave room as it was. -/
theorem reported (room : Room home folders files workspace)
    (reported : Reported home workspace after) : Room home folders files after where
  atHome := reported.disk.sameHome.trans room.atHome
  audible := room.audible.reported reported
  aside place member := (room.aside place member).imp_right reported.files.trans
  noFile place member := by
    rw [reported.file? (room.aside place member)]
    exact room.noFile place member
  noDirectory place member standing := by
    refine room.noDirectory place member ?_
    by_cases same : place = debugPlace home
    · subst same
      exact reported.disk.debug.mp standing
    · rwa [reported.disk.elsewhere place same] at standing

/-- Room is left by a change of the disk that keeps directories and leaves room. -/
theorem changed (room : Room home folders files workspace) {disk : Disk}
    (keeps : workspace.disk.KeepsDirectories disk)
    (noFile : ∀ place ∈ folders, disk.file? place = none)
    (noDirectory : ∀ place ∉ folders, disk.node? place = some .directory →
      workspace.disk.node? place = some .directory)
    (apart : ∀ place ∈ folders, place ∉ files) :
    Room home folders files { workspace with disk } where
  atHome := keeps.home.trans room.atHome
  audible := room.audible.imp_right fun ready =>
    { atHome := keeps.home.trans ready.atHome
      files := ready.files
      led := keeps.follow ready.led
      writable := by
        by_cases listed : debugPlace home ∈ folders
        · exact .inl ((room.aside _ listed).resolve_left fun away => away rfl)
        · exact ready.writable.imp_right (mt (noDirectory _ listed)) }
  aside := room.aside
  noFile := noFile
  noDirectory place member standing := room.noDirectory place member
    (noDirectory place (fun listed => apart place listed member) standing)

/-- Making directories leaves room if they belong where the path passes. -/
theorem made (room : Room home folders files workspace) (apart : ∀ place ∈ folders, place ∉ files)
    (passing : ∀ place, path.Passes home place → place ∈ folders) (depth : Nat) :
    Room home folders files
      { workspace with disk := (workspace.disk.ensureDirectories depth path).2 } := by
  have extended := Disk.extends_ensureDirectories workspace.disk depth path
  have along := Disk.along_ensureDirectories workspace.disk depth path
  refine room.changed extended.keepsDirectories (fun place member => ?_)
    (fun place other standing => ?_) apart
  · rw [extended.file?]
    exact room.noFile place member
  · rwa [along.elsewhere place fun passes => other (passing place (room.atHome ▸ passes))]
      at standing

/-- Writing a file leaves room if it belongs where it is written. -/
theorem put (room : Room home folders files workspace) (apart : ∀ place ∈ folders, place ∉ files)
    (member : place ∈ files) (content : List UInt8) :
    Room home folders files
      { workspace with disk := workspace.disk.put place (.file content) } := by
  have free := room.noDirectory place member
  refine room.changed (Disk.keepsDirectories_put free content) (fun other listed => ?_)
    (fun other _ => (Disk.keepsDirectories_of_put free content).kept other) apart
  have different : other ≠ place := by
    rintro rfl
    exact apart other listed member
  rw [Disk.file?_put free, if_neg different]
  exact room.noFile other listed

end Room

/-! ## Room for calls -/

/-- The calls that are under way leave the same room. -/
def SameDepth (before after : Workspace) : Prop := after.depth = before.depth

instance : IsPreorder Workspace SameDepth where
  refl _ := rfl
  trans _ _ _ first second := second.trans first

private theorem byReports_sameDepth : ByReports SameDepth :=
  byReports_of_appends (fun _ _ => rfl) (fun _ _ => rfl) fun _ _ _ _ _ _ => rfl

/-- No more directories on the way to a file are missing than can be made. -/
def Lacks (workspace : Workspace) (destination : Path) (artifact : Artifact) : Prop :=
  workspace.disk.LacksAtMost (target destination artifact).parent (workspace.depth + 1)

private theorem Lacks.kept (lacks : Lacks workspace destination artifact)
    (keeps : workspace.disk.KeepsDirectories after.disk) (same : SameDepth workspace after) :
    Lacks after destination artifact := by
  unfold Lacks
  rw [same]
  exact Disk.LacksAtMost.kept lacks keeps

/-! ## One file -/

/-- A path leads to a place for a file by places for directories. -/
structure Suits (home : Location) (folders files : Set Location) (path : Path) : Prop where
  fits : path.Fits
  stepped : path.steps.isEmpty = false
  passing : ∀ place, path.parent.Passes home place → place ∈ folders
  member : path.placeFrom home ∈ files

/-- The directories of a file are made where there is room for them. -/
theorem run_makeDirectories_room (room : Room home folders files workspace)
    (apart : ∀ place ∈ folders, place ∉ files) (suits : Suits home folders files path)
    (lacks : workspace.disk.LacksAtMost path.parent (workspace.depth + 1)) :
    ∃ disk parent, (makeDirectories path.parent).run.run workspace =
        (.ok (), { workspace with disk }) ∧
      Room home folders files { workspace with disk } ∧
      disk.follow path.parent = .ok parent ∧ disk.node? parent = some .directory := by
  have clear : workspace.disk.IsClear path.parent := fun place passes =>
    room.noFile place (suits.passing place (room.atHome ▸ passes))
  obtain ⟨disk, ensured⟩ := Disk.exists_ensureDirectories suits.fits.parent clear lacks
  have after := room.made apart suits.passing workspace.depth
  rw [ensured] at after
  obtain ⟨parent, above, standing⟩ := Disk.ensureDirectories_ok ensured
  exact ⟨disk, parent, by rw [run_makeDirectories, ensured], after, above, standing⟩

/-- A text is written where there is room for it, once its directory is there. -/
theorem run_writeText_room {parent : Location} (room : Room home folders files workspace)
    (suits : Suits home folders files path)
    (above : workspace.disk.follow path.parent = .ok parent)
    (standing : workspace.disk.node? parent = some .directory) {text : String}
    (whole : Text.Utf8.isEncodable text = true) :
    (onDiskAlways (·.writeText path text)).run.run workspace = (.ok (), { workspace with
      disk := workspace.disk.put (path.placeFrom home)
        (.file (Text.Utf8.encodeOrEmpty text)) }) := by
  -- The file is one step behind the directory.
  have nameFits := suits.fits.steps path.name (by rw [Disk.steps_eq_concat suits.stepped]; simp)
  have led := Disk.follow_of_parent suits.fits.speakable suits.fits.short suits.stepped above
    (Disk.walk_singleton standing nameFits)
  have spelled := Disk.placeFrom_of_follow led
  rw [room.atHome] at spelled
  rw [spelled] at led
  have free := room.noDirectory _ suits.member
  rw [run_onDiskAlways, Disk.writeText_of_encodable whole
    (Disk.writeFile_eq_ok_iff.mpr ⟨_, led, free, rfl⟩)]

/-- An artifact with an encoding is written where there is room for it. -/
theorem run_writeArtifact_room (usable : reporter.Usable)
    (room : Room home folders files workspace) (apart : ∀ place ∈ folders, place ∉ files)
    (whole : IsEncodable artifact)
    (suits : Suits home folders files (target destination artifact))
    (lacks : Lacks workspace destination artifact) :
    ∃ after, (writeArtifact destination reporter artifact).run.run workspace =
        (.ok (target destination artifact), after) ∧
      Room home folders files after := by
  obtain ⟨first, announced, reportedFirst⟩ := goesThrough_announce home usable artifact
    (target destination artifact) workspace room.audible
  have sameDepth : SameDepth workspace first :=
    (byReports_sameDepth.announce reporter artifact _).of_run announced
  obtain ⟨disk, parent, made, roomMade, above, standing⟩ :=
    run_makeDirectories_room (room.reported reportedFirst) apart suits
      (lacks.kept reportedFirst.disk.keepsDirectories sameDepth)
  have put := run_writeText_room roomMade suits above standing whole
  have roomPut := roomMade.put apart suits.member (Text.Utf8.encodeOrEmpty artifact.content)
  obtain ⟨after, logged, reportedLast⟩ := goesThrough_log home .debug writingSource
    ("Wrote " ++ (target destination artifact).toString) _ roomPut.audible
  refine ⟨after, ?_, roomPut.reported reportedLast⟩
  rw [writeArtifact_eq, run_bind_ok announced, run_bind_ok made, run_bind_ok put,
    run_bind_ok logged]
  rfl

/-! ## All files -/

private theorem run_mapM_writeArtifact_room {artifacts : List Artifact} (usable : reporter.Usable)
    (room : Room home folders files workspace) (apart : ∀ place ∈ folders, place ∉ files)
    (whole : ∀ artifact ∈ artifacts, IsEncodable artifact)
    (suits : ∀ artifact ∈ artifacts, Suits home folders files (target destination artifact))
    (lacks : ∀ artifact ∈ artifacts, Lacks workspace destination artifact) :
    ∃ after, (artifacts.mapM (writeArtifact destination reporter)).run.run workspace =
        (.ok (artifacts.map (target destination)), after) ∧ Room home folders files after := by
  induction artifacts generalizing workspace with
  | nil => exact ⟨workspace, rfl, room⟩
  | cons artifact rest ih =>
      rw [List.forall_mem_cons] at whole suits lacks
      obtain ⟨between, wroteFirst, roomNext⟩ :=
        run_writeArtifact_room usable room apart whole.1 suits.1 lacks.1
      have keeps := (left_of_writeArtifact wroteFirst).2.2.keeps
      have sameDepth : SameDepth workspace between :=
        (byReports_sameDepth.writeArtifact ⟨fun _ _ _ _ => rfl, fun _ _ _ _ => rfl⟩ _).of_run
          wroteFirst
      obtain ⟨after, wroteRest, roomAfter⟩ := ih roomNext whole.2 suits.2
        fun other member => (lacks.2 other member).kept keeps sameDepth
      refine ⟨after, ?_, roomAfter⟩
      rw [List.mapM_cons, run_bind_ok wroteFirst, run_bind_ok wroteRest]
      rfl

/-- **Artifacts with an encoding are written where there is room for them.** -/
theorem run_writeArtifacts_room {artifacts : List Artifact} (usable : reporter.Usable)
    (room : Room home folders files workspace) (apart : ∀ place ∈ folders, place ∉ files)
    (whole : ∀ artifact ∈ artifacts, IsEncodable artifact)
    (suits : ∀ artifact ∈ artifacts, Suits home folders files (target destination artifact))
    (lacks : ∀ artifact ∈ artifacts, Lacks workspace destination artifact) :
    ∃ after, (writeArtifacts artifacts destination reporter).run.run workspace =
        (.ok (artifacts.map (target destination)), after) ∧
      WroteAll home destination artifacts workspace after := by
  obtain ⟨between, wrote, roomNext⟩ :=
    run_mapM_writeArtifact_room usable room apart whole suits lacks
  obtain ⟨after, told, _⟩ :=
    goesThrough_info home usable "React components ready" between roomNext.audible
  have ran : (writeArtifacts artifacts destination reporter).run.run workspace =
      (.ok (artifacts.map (target destination)), after) := by
    unfold writeArtifacts
    rw [run_bind_ok wrote, run_bind_ok told]
    rfl
  refine ⟨after, ran, (left_of_writeArtifacts ran).2.2.wroteAll whole fun place untold => ?_⟩
  rcases room.audible with silent | ready
  · exact not_isLogged_of_silent silent
  · exact not_isLogged_of_untold ready.toTidy untold

end ElementWrap.Work
