import ElementWrap.Proofs.Files.Directories

/-! # Where paths can reach

A path that leads anywhere leads to the place that its steps spell out, double dots taken back
(`ElementWrap.Files.Disk.placeFrom_of_follow`). Writing a file along a path, with the directories that
are missing on the way, changes nothing but the places that the path passes
(`ElementWrap.Files.Disk.Along`).
-/

namespace ElementWrap.Files

/-! ## Spelled places -/

/-- One step further from a place. -/
def enter (place : Location) (step : String) : Location :=
  if step = ".." then place.dropLast else place ++ [step]

/-- The place that a path spells out, whether or not its steps lead on. -/
def Path.placeFrom (home : Location) (path : Path) : Location :=
  path.steps.foldl enter (if path.anchor = .relative then home else [])

/-- A path passes a place: some of its steps, from the first one on, spell it out. -/
def Path.Passes (home : Location) (path : Path) (place : Location) : Prop :=
  ∃ steps, steps <+: path.steps ∧ ({ path with steps } : Path).placeFrom home = place

namespace Path.Passes

variable {home place : Location} {path : Path}

/-- A path passes the place that it spells out. -/
theorem self (home : Location) (path : Path) : path.Passes home (path.placeFrom home) :=
  ⟨path.steps, List.prefix_rfl, rfl⟩

/-- What the path before the last step passes, the whole path passes. -/
theorem of_parent (passes : path.parent.Passes home place) : path.Passes home place := by
  obtain ⟨steps, begins, spelled⟩ := passes
  exact ⟨steps, begins.trans (List.dropLast_prefix path.steps), spelled⟩

end Path.Passes

namespace Disk

variable {disk before between after : Disk} {path : Path} {place start : Location}

/-- A walk leads to the place that its steps spell out. -/
theorem walk_eq_foldl {steps : List String} (led : disk.walk start steps = .ok place) :
    place = steps.foldl enter start := by
  induction steps generalizing start with
  | nil => exact (Except.ok.inj led).symm
  | cons step rest ih =>
      unfold walk at led
      rw [List.foldl_cons, enter]
      split at led
      · exact nomatch led
      · exact nomatch led
      · split at led
        · next upwards => rw [if_pos upwards, ih led]
        · next inwards =>
            split at led
            · exact nomatch led
            · rw [if_neg inwards, ih led]

/-- **A path leads to the place that it spells out**, if it leads anywhere. -/
theorem placeFrom_of_follow (led : disk.follow path = .ok place) :
    place = path.placeFrom disk.home :=
  walk_eq_foldl (resolve_eq_ok_iff.mp (follow_eq_ok_iff.mp led).2).2

/-! ## Writing along a path -/

/-- Directories stay, and what is at a place that a path does not pass is as it was. -/
structure Along (path : Path) (before after : Disk) : Prop where
  keeps : before.KeepsDirectories after
  elsewhere : ∀ place, ¬ path.Passes before.home place → after.node? place = before.node? place

namespace Along

private theorem refl (path : Path) (disk : Disk) :
    Along path disk disk := ⟨.refl disk, fun _ _ => rfl⟩

private theorem trans (first : Along path before between) (second : Along path between after) :
    Along path before after where
  keeps := first.keeps.trans second.keeps
  elsewhere place apart := by
    rw [second.elsewhere place (first.keeps.home ▸ apart), first.elsewhere place apart]

/-- A change along the parent of a path is one along the path. -/
theorem of_parent (along : Along path.parent before after) : Along path before after where
  keeps := along.keeps
  elsewhere place apart := along.elsewhere place fun passes => apart passes.of_parent

/-- Something is put where a path leads, and no directory is lost. -/
theorem put {node : Node} (spelled : place = path.placeFrom disk.home)
    (kept : disk.KeepsDirectories (disk.put place node)) :
    Along path disk (disk.put place node) where
  keeps := kept
  elsewhere other apart := by
    apply node?_put_of_ne
    rintro rfl
    exact apart (spelled ▸ Path.Passes.self disk.home path)

end Along

private theorem along_ensureDirectory (disk : Disk) (path : Path) :
    Along path disk (disk.ensureDirectory path).2 := by
  unfold ensureDirectory
  split
  · next made =>
      obtain ⟨place, led, free, rfl⟩ := makeDirectory_ok made
      exact .put (placeFrom_of_follow led) (Extends.put_directory free).keepsDirectories
  all_goals exact .refl path disk

private theorem along_ensureInside (above : disk.follow path.parent = .ok start)
    (nonempty : path.steps.isEmpty = false) :
    Along path disk (disk.ensureInside start path).2 := by
  unfold ensureInside
  split
  · exact .refl path disk
  · next inside led =>
      have spelled : inside = path.placeFrom disk.home := by
        rw [walk_eq_foldl led, placeFrom_of_follow above, Path.placeFrom, Path.placeFrom,
          steps_eq_concat nonempty, List.foldl_append]
        rfl
      split
      · next free => exact .put spelled (Extends.put_directory free).keepsDirectories
      · exact .refl path disk
      · exact .refl path disk

private theorem along_ensureFrom (room : Nat) (disk : Disk) (path : Path) :
    Along path disk (ensureFrom room disk path).2 := by
  induction room generalizing disk path with
  | zero => exact .refl path disk
  | succ room ih =>
      have first := along_ensureDirectory disk path
      unfold ensureFrom
      split
      · next between ensured =>
          rw [ensured] at first
          split
          · exact first
          · next nonempty =>
              have above := (ih between path.parent).of_parent
              split
              · next made =>
                  rw [made] at above
                  exact first.trans above
              · next start last made =>
                  rw [made] at above
                  exact (first.trans above).trans <|
                    along_ensureInside (ensureFrom_ok made).1 (by simpa using nonempty)
      · next ensured => rwa [ensured] at first
      · next ensured => rwa [ensured] at first

/-- **Making the directories of a path touches nothing beside it.** -/
theorem along_ensureDirectories (disk : Disk) (depth : Nat) (path : Path) :
    Along path disk (disk.ensureDirectories depth path).2 :=
  along_ensureFrom (depth + 1) disk path

/-- Writing a file changes a disk along its path. -/
theorem along_writeFile {content : List UInt8} (written : disk.writeFile path content = .ok after) :
    Along path disk after := by
  obtain ⟨place, led, free, rfl⟩ := writeFile_eq_ok_iff.mp written
  exact .put (placeFrom_of_follow led) (keepsDirectories_put free content)

end Disk

end ElementWrap.Files
