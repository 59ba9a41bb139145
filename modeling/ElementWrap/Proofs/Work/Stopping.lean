import ElementWrap.Proofs.Work.SeparateFiles

/-! # Where writing stops

Artifacts are written one after the other, and the first one that can not be written ends it. What
is on the disk then is what the artifacts before it have left, and nothing of those behind it
(`ElementWrap.Work.contents_after_writing`). Of the one that ends it nothing is in any file either,
but its file is there and empty if its content has no encoding, and it is there as a whole if all
that failed was the note that it was written. The log's own files are left out of account, since
they grow with every report.
-/

namespace ElementWrap.Work

open Files Log Layout

variable {workspace before between after : Workspace} {reporter : Reporter} {destination : Path}
  {artifact : Artifact} {artifacts : List Artifact} {fault : Fault}

/-! ## What files hold -/

/-- The files that artifacts are written to hold the last of them that leads there, and no other
file has changed, those of the log aside. -/
structure Holds (destination : Path) (artifacts : List Artifact) (before after : Workspace) :
    Prop where
  targets : ∀ artifact ∈ artifacts, ∃ place last,
    after.disk.follow (target destination artifact) = .ok place ∧
      IsLastAt after.disk destination artifacts place last ∧
      (¬ IsLogged before place →
        after.disk.file? place = some (Text.Utf8.encode last.content))
  others : ∀ place, ¬ IsLogged before place →
    (∀ artifact ∈ artifacts, after.disk.follow (target destination artifact) ≠ .ok place) →
      after.disk.file? place = before.disk.file? place

private theorem Left.holds (left : Left destination artifacts before after)
    (whole : ∀ artifact ∈ artifacts, IsEncodable artifact) :
    Holds destination artifacts before after where
  targets artifact member := by
    obtain ⟨⟨place, led⟩, _⟩ := left.places artifact member
    obtain ⟨last, isLast, written⟩ := exists_isLastAt member led
    refine ⟨place, last, led, isLast, fun aside => ?_⟩
    rw [left.held place aside, written, Option.some_or,
      bytes_of_encodable (whole last isLast.mem)]
  others place aside elsewhere := by
    rw [left.held place aside, lastWritten_eq_none_iff.mpr elsewhere, Option.none_or]

/-- An artifact of the same path with nothing in it. -/
def emptied (artifact : Artifact) : Artifact := { artifact with content := "" }

private theorem isEncodable_emptied (artifact : Artifact) : IsEncodable (emptied artifact) :=
  Text.Utf8.isEncodable_ofList []

/-- An artifact without an encoding leaves what an empty one does. -/
theorem Left.emptied (left : Left destination [artifact] before after)
    (broken : ¬ IsEncodable artifact) : Left destination [emptied artifact] before after where
  keeps := left.keeps
  files := left.files
  places := List.forall_mem_singleton.mpr (left.places artifact List.mem_cons_self)
  held place aside := by
    have same : bytes (Work.emptied artifact) = bytes artifact := by
      rw [bytes_of_encodable (isEncodable_emptied artifact), bytes,
        Text.Utf8.encodeOrEmpty_of_broken (Bool.eq_false_of_not_eq_true broken)]
      rfl
    have path : target destination (Work.emptied artifact) = target destination artifact := rfl
    rw [left.held place aside, lastWritten_singleton, lastWritten_singleton, same, path]

/-! ## How the writing fails -/

/-- How the writing of artifacts fails, and what the files hold then. -/
inductive Stopped (destination : Path) (reporter : Reporter) (fault : Fault)
    (before after : Workspace) : List Artifact → Prop
  /-- Nothing of an artifact was written. -/
  | refused {done later : List Artifact} {artifact : Artifact} {written : List Path}
      {between : Workspace}
      (wrote : (done.mapM (writeArtifact destination reporter)).run.run before =
        (.ok written, between))
      (failed : (writeArtifact destination reporter artifact).run.run between =
        (.error fault, after))
      (holds : Holds destination done before after) :
      Stopped destination reporter fault before after (done ++ artifact :: later)
  /-- The content of an artifact has no encoding, and its file is left empty. -/
  | emptied {done later : List Artifact} {artifact : Artifact} {written : List Path}
      {between : Workspace}
      (wrote : (done.mapM (writeArtifact destination reporter)).run.run before =
        (.ok written, between))
      (failed : (writeArtifact destination reporter artifact).run.run between =
        (.error fault, after))
      (broken : ¬ IsEncodable artifact) (told : ∃ stretch, fault = .unencodable stretch)
      (holds : Holds destination (done ++ [emptied artifact]) before after) :
      Stopped destination reporter fault before after (done ++ artifact :: later)
  /-- An artifact was written, and a file of the log refused to take a note of it. -/
  | unnoted {done later : List Artifact} {artifact : Artifact} {written : List Path}
      {between : Workspace}
      (wrote : (done.mapM (writeArtifact destination reporter)).run.run before =
        (.ok written, between))
      (failed : (writeArtifact destination reporter artifact).run.run between =
        (.error fault, after))
      (logging : before.journal.files ≠ [])
      (holds : Holds destination (done ++ [artifact]) before after) :
      Stopped destination reporter fault before after (done ++ artifact :: later)
  /-- All artifacts were written, and their end could not be reported. -/
  | untold {artifacts : List Artifact} {written : List Path} {between : Workspace}
      (wrote : (artifacts.mapM (writeArtifact destination reporter)).run.run before =
        (.ok written, between))
      (failed : (info reporter "React components ready").run.run between = (.error fault, after))
      (holds : Holds destination artifacts before after) :
      Stopped destination reporter fault before after artifacts

/-- The first artifact that can not be written ends the writing. -/
theorem stopped_of_mapM
    (failed : (artifacts.mapM (writeArtifact destination reporter)).run.run before =
      (.error fault, after)) : Stopped destination reporter fault before after artifacts := by
  obtain ⟨done, artifact, later, written, between, rfl, wrote, failed⟩ := run_mapM_eq_error failed
  obtain ⟨_, whole, left⟩ := left_of_mapM_writeArtifact wrote
  -- What is behind the artifacts that were written is written as a whole too, or is empty.
  have holds {last : Artifact} (leftLast : Left destination [last] between after)
      (wholeLast : IsEncodable last) : Holds destination (done ++ [last]) before after :=
    (left.append leftLast).holds
      (List.forall_mem_append.mpr ⟨whole, List.forall_mem_singleton.mpr wholeLast⟩)
  cases comesTo_writeArtifact failed with
  | refused kept => exact .refused wrote failed ((left.keptFiles kept).holds whole)
  | emptied broken leftLast =>
      exact .emptied wrote failed broken ⟨_, rfl⟩
        (holds (leftLast.emptied broken) (isEncodable_emptied artifact))
  | unnoted wholeLast leftLast logging =>
      exact .unnoted wrote failed (left.files ▸ logging) (holds leftLast wholeLast)

private theorem stopped_of_writeArtifacts
    (ran : (writeArtifacts artifacts destination reporter).run.run before =
      (.error fault, after)) : Stopped destination reporter fault before after artifacts := by
  rcases run_bind_eq_error_iff.mp ran with failed | ⟨_, _, wrote, ran⟩
  · exact stopped_of_mapM failed
  obtain ⟨_, whole, left⟩ := left_of_mapM_writeArtifact wrote
  rcases run_bind_eq_error_iff.mp ran with failed | ⟨_, _, _, ran⟩
  · have kept := (byReports_keepsFiles.info reporter "React components ready").of_run failed
    exact .untold wrote failed ((left.keptFiles kept).holds whole)
  · cases ran

/-- An artifact of a path with a short content. -/
def smallFile (steps : List String) (content : String) : Artifact :=
  ⟨⟨.relative, steps⟩, content, .other "text"⟩

/-- Artifacts the second of which takes the place of the first. -/
def doubledFiles : List Artifact := [smallFile ["a.js"] "1", smallFile ["a.js"] "2"]

/-- Artifacts the second of which would need a directory in the place of the first. -/
def blockedFiles : List Artifact :=
  [smallFile ["a.js"] "1", smallFile ["a.js", "b.js"] "2", smallFile ["c.js"] "3"]

/-- What writing from a workspace below a new directory comes to. -/
def writingOut (artifacts : List Artifact) (workspace : Workspace) :
    Except Fault (List Path) × Workspace :=
  (writeArtifacts artifacts outPath (.package writingSource)).run.run workspace

/-- The place of the first of the small artifacts. -/
def smallPlace : Location := ["w", "out", "a.js"]

/-- A working directory with a file in that place. -/
def heldDisk : Disk :=
  ⟨[(["w"], .directory), (["w", "out"], .directory), (smallPlace, .file [49])], ["w"]⟩

/-- An artifact whose content is a surrogate that stands alone. -/
def strayFile : Artifact := smallFile ["a.js"] (String.ofList [Text.character 0xD800])

/-- A disk under a log that takes note of everything in the debug file. -/
def noting (disk : Disk) : Workspace :=
  { disk, journal := { handlers := [.file .debug (debugFile ["w"])] } }

end ElementWrap.Work
