import ElementWrap.Proofs.Files.SideBySide
import ElementWrap.Proofs.Work.Placing
import ElementWrap.Proofs.Work.Rebuild

/-! # Writing into a vacant destination

Below a destination where nothing is yet, files that can stand side by side are all written, and
then they are all that is there (`ElementWrap.Work.run_writeArtifacts_vacant`). Their contents need
an encoding, the operating system has to take their paths, and the path of the destination may not
lead through the place of one of them.
-/

namespace ElementWrap.Work

open Files Log Layout

variable {home place : Location} {workspace after : Workspace} {reporter : Reporter}
  {destination : Path} {artifact : Artifact} {artifacts : List Artifact}

/-- The places on the way to files that are to be written. -/
def onTheWay (home : Location) (destination : Path) (artifacts : List Artifact) : Set Location :=
  {place | ∃ artifact ∈ artifacts, (target destination artifact).parent.Passes home place}

/-- The place of a file that is to be written, if its path leads inward. -/
def placeOf (home : Location) (destination : Path) (artifact : Artifact) : Location :=
  destination.placeFrom home ++ artifact.path.steps

/-- Files can be reached below a destination: the operating system takes their paths, not too many
directories of these are missing, and the path of the destination passes no place of a file. -/
structure InReach (workspace : Workspace) (destination : Path) (artifacts : List Artifact) :
    Prop where
  fits : ∀ artifact ∈ artifacts, (target destination artifact).Fits
  lacks : ∀ artifact ∈ artifacts, Lacks workspace destination artifact
  past : ∀ artifact ∈ artifacts,
    ¬ destination.Passes workspace.disk.home (placeOf workspace.disk.home destination artifact)

/-- Files can be written into a destination: it is vacant, their contents have an encoding, they can
be reached below it, and reports go through and write to no place on the way. -/
structure CanTake (home : Location) (workspace : Workspace) (destination : Path)
    (artifacts : List Artifact) : Prop where
  atHome : workspace.disk.home = home
  audible : Audible home workspace
  vacant : workspace.disk.IsVacant destination
  whole : ∀ artifact ∈ artifacts, IsEncodable artifact
  inReach : InReach workspace destination artifacts
  untold : ∀ place ∈ onTheWay home destination artifacts, Untold home workspace place

section Beside

variable (beside : SideBySide (artifacts.map (·.path)))

include beside

/-- The paths of the artifacts lead inward. -/
theorem inward_of_mem (member : artifact ∈ artifacts) : artifact.path.IsInward :=
  beside.inward _ (List.mem_map_of_mem member)

/-- Where the path of a file leads is its place. -/
theorem eq_placeOf (atHome : workspace.disk.home = home) (member : artifact ∈ artifacts)
    (led : workspace.disk.follow (target destination artifact) = .ok place) :
    place = placeOf home destination artifact := by
  rw [Disk.placeFrom_of_follow led, atHome, target, (inward_of_mem beside member).placeFrom_join,
    placeOf]

/-- Files that have the same place are one. -/
theorem eq_of_placeOf_eq {first second : Artifact} (memberFirst : first ∈ artifacts)
    (memberSecond : second ∈ artifacts)
    (same : placeOf home destination first = placeOf home destination second) :
    first = second :=
  List.inj_on_of_nodup_map beside.distinct memberFirst memberSecond <|
    (inward_of_mem beside memberFirst).eq_of_steps_eq (inward_of_mem beside memberSecond) <|
      List.append_cancel_left same

/-- No file is to be written where a directory is on the way to another. -/
theorem ne_placeOf_of_onTheWay
    (past : ∀ artifact ∈ artifacts, ¬ destination.Passes home (placeOf home destination artifact)) :
    ∀ place ∈ onTheWay home destination artifacts,
      ¬ ∃ artifact ∈ artifacts, place = placeOf home destination artifact := by
  rintro place ⟨lower, memberLower, passes⟩ ⟨upper, memberUpper, rfl⟩
  have inward := inward_of_mem beside memberLower
  rcases inward.passes_or_below passes with above | ⟨taken, _, begins, shorter, same⟩
  · exact past upper memberUpper above
  · obtain rfl := List.append_cancel_left same
    refine beside.apart _ (List.mem_map_of_mem memberUpper) _ (List.mem_map_of_mem memberLower)
      ⟨?_, begins, shorter⟩
    rw [(inward_of_mem beside memberUpper).relative, inward.relative]

/-- Around a vacant destination there is room for the files and the directories on the way. -/
theorem room_of_canTake (free : CanTake home workspace destination artifacts) :
    Room home (onTheWay home destination artifacts)
      {place | ∃ artifact ∈ artifacts, place = placeOf home destination artifact} workspace where
  atHome := free.atHome
  audible := free.audible
  aside := free.untold
  noFile := by
    rintro place ⟨artifact, member, passes⟩
    have vacant := free.vacant
    obtain rfl := free.atHome
    rcases (inward_of_mem beside member).passes_or_below passes with
      above | ⟨taken, further, _, _, rfl⟩
    · exact vacant.clear place above
    · rw [Disk.file?, vacant.empty taken further]
  noDirectory := by
    rintro place ⟨artifact, member, rfl⟩ standing
    obtain rfl := free.atHome
    rw [placeOf, free.vacant.empty _ (inward_of_mem beside member).stepped] at standing
    exact Option.some_ne_none _ standing.symm

private theorem suits_target (member : artifact ∈ artifacts)
    (fits : (target destination artifact).Fits) :
    Suits home (onTheWay home destination artifacts)
      {place | ∃ artifact ∈ artifacts, place = placeOf home destination artifact}
      (target destination artifact) where
  fits := fits
  stepped := by
    have inward := inward_of_mem beside member
    rw [target, inward.join, Path.upTo, List.isEmpty_eq_false_iff]
    exact List.append_ne_nil_of_right_ne_nil _ inward.stepped
  passing place passes := ⟨artifact, member, passes⟩
  member := ⟨artifact, member, (inward_of_mem beside member).placeFrom_join⟩

/-- What was written side by side below a vacant destination is all that is there. -/
theorem file?_of_wroteAll (atHome : workspace.disk.home = home)
    (vacant : workspace.disk.IsVacant destination)
    (wrote : WroteAll home destination artifacts workspace after)
    (untold : Untold home workspace place) (below : destination.placeFrom home <+: place)
    (content : List UInt8) :
    after.disk.file? place = some content ↔
      ∃ artifact ∈ artifacts, place = placeOf home destination artifact ∧
        content = Text.Utf8.encode artifact.content := by
  have atHomeAfter := wrote.keeps.home.trans atHome
  rw [wrote.held place untold, vacant.file?_eq_none (atHome ▸ below), Option.or_none]
  constructor
  · intro written
    obtain ⟨artifact, found, rfl⟩ := Option.map_eq_some_iff.mp written
    have member := List.mem_reverse.mp (List.mem_of_find?_eq_some found)
    have led := leadsTo_iff.mp (List.find?_eq_some_iff_append.mp found).1
    exact ⟨artifact, member, eq_placeOf beside atHomeAfter member led,
      bytes_of_encodable (wrote.encodable artifact member)⟩
  · rintro ⟨artifact, member, rfl, rfl⟩
    obtain ⟨led, leads⟩ := (wrote.places artifact member).1
    obtain rfl := eq_placeOf beside atHomeAfter member leads
    obtain ⟨last, isLast, written⟩ := exists_isLastAt member leads
    have same := eq_placeOf beside atHomeAfter isLast.mem isLast.led
    rw [written, ← eq_of_placeOf_eq beside member isLast.mem same,
      bytes_of_encodable (wrote.encodable artifact member)]

/-- **Below a vacant destination files are written side by side.** Then, away from the file that the
log writes to, they are all the files below the destination, each with its content. -/
theorem run_writeArtifacts_vacant (usable : reporter.Usable)
    (free : CanTake home workspace destination artifacts) :
    ∃ after, (writeArtifacts artifacts destination reporter).run.run workspace =
        (.ok (artifacts.map (target destination)), after) ∧
      ∀ place, Untold home workspace place → destination.placeFrom home <+: place →
        ∀ content, after.disk.file? place = some content ↔
          ∃ artifact ∈ artifacts, place = placeOf home destination artifact ∧
            content = Text.Utf8.encode artifact.content := by
  have apart := ne_placeOf_of_onTheWay beside (free.atHome ▸ free.inReach.past)
  obtain ⟨after, ran, wrote⟩ := run_writeArtifacts_room usable (room_of_canTake beside free) apart
    free.whole
    (fun artifact member => suits_target beside member (free.inReach.fits artifact member))
    free.inReach.lacks
  exact ⟨after, ran, fun place aside below content =>
    file?_of_wroteAll beside free.atHome free.vacant wrote aside below content⟩

/-- **What the writing takes.** Files that were written side by side have contents with an encoding
and paths that the operating system takes, and the path of the destination passes none of their
places. -/
theorem conditions_of_written (tidy : Tidy home workspace) {written : List Path}
    (ran : (writeArtifacts artifacts destination reporter).run.run workspace =
      (.ok written, after))
    (member : artifact ∈ artifacts) :
    IsEncodable artifact ∧ (target destination artifact).Fits ∧
      (Untold home workspace (placeOf home destination artifact) →
        ¬ destination.Passes home (placeOf home destination artifact)) := by
  obtain ⟨_, wrote⟩ := writeArtifacts_ok tidy ran
  obtain ⟨place, led⟩ := (wrote.places artifact member).1
  refine ⟨wrote.encodable artifact member, Disk.fits_of_follow led, fun untold => ?_⟩
  rintro ⟨steps, begins, spelled⟩
  have atHome := wrote.keeps.home.trans tidy.atHome
  obtain ⟨last, _, lastWrote⟩ := exists_isLastAt member led
  obtain rfl := eq_placeOf beside atHome member led
  have held := wrote.held _ untold
  rw [lastWrote, Option.some_or, Disk.file?_eq_some_iff] at held
  -- What the path of the destination passes is a directory, since the path of the file goes on.
  have inward := inward_of_mem beside member
  have parts : (target destination artifact).steps = destination.steps ++ artifact.path.steps := by
    rw [target, inward.join, Path.upTo]
  have further := List.length_pos_of_ne_nil inward.stepped
  have before : steps ≠ (target destination artifact).steps := by
    intro same
    have shorter := begins.length_le
    rw [same, parts, List.length_append] at shorter
    omega
  have standing := Disk.directory_of_follow led
    (parts ▸ begins.trans (List.prefix_append _ _)) before
  have same : ((target destination artifact).upTo steps).placeFrom after.disk.home =
      placeOf home destination artifact := by
    rw [← spelled, atHome, target, inward.join]
    rfl
  rw [same, held] at standing
  cases standing

end Beside

end ElementWrap.Work
