import ElementWrap.Proofs.Files.Disk

/-! # Making directories

Making a directory and those that lead to it keeps all that is there and adds nothing but
directories (`ElementWrap.Files.Disk.extends_ensureDirectories`). Where it succeeds the path leads
to a directory, and once it does, nothing is left to be made.
-/

namespace ElementWrap.Files.Disk

/-- A disk keeps all that is on another and has no more than directories besides. -/
structure Extends (before after : Disk) : Prop where
  home : after.home = before.home
  kept : ∀ place node, before.node? place = some node → after.node? place = some node
  added : ∀ place, before.node? place = none →
    after.node? place = none ∨ after.node? place = some .directory

namespace Extends

variable {before between after disk : Disk} {place : Location}

private theorem refl (disk : Disk) : Extends disk disk := ⟨rfl, fun _ _ => id, fun _ => .inl⟩

private theorem trans (first : Extends before between) (second : Extends between after) :
    Extends before after where
  home := second.home.trans first.home
  kept place node held := second.kept place node (first.kept place node held)
  added place free := (first.added place free).elim (second.added place)
    fun made => .inr (second.kept place _ made)

/-- Where nodes only come, directories stay. -/
theorem keepsDirectories (extended : Extends before after) : KeepsDirectories before after :=
  ⟨extended.home, fun place => extended.kept place .directory⟩

/-- No file comes or goes, and none changes. -/
theorem file? (extended : Extends before after) (place : Location) :
    after.file? place = before.file? place := by
  unfold Disk.file?
  cases held : before.node? place with
  | some node => rw [extended.kept place node held]
  | none => rcases extended.added place held with free | made <;> simp [*]

/-- A directory in a free place is one more node. -/
theorem put_directory (free : disk.node? place = none) :
    Extends disk (disk.put place .directory) where
  home := rfl
  kept other node held := by
    have different : other ≠ place := by
      rintro rfl
      exact nomatch free.symm.trans held
    rw [node?_put_of_ne different, held]
  added other unused := by
    by_cases same : other = place
    · subst same
      have noDirectory : disk.node? other ≠ some .directory := by simp [unused]
      exact .inr (node?_put_self (ne_root_of_node? noDirectory))
    · exact .inl ((node?_put_of_ne same).trans unused)

end Extends

section Making

variable {disk after : Disk} {path : Path} {place : Location}

/-- Steps are walked in two goes as in one. -/
theorem walk_append (disk : Disk) (start : Location) (first second : List String) :
    disk.walk start (first ++ second) =
      (disk.walk start first >>= fun place => disk.walk place second) := by
  induction first generalizing start with
  | nil => rfl
  | cons step rest ih =>
      rw [List.cons_append, walk, walk]
      cases disk.node? start with
      | none => rfl
      | some node =>
          cases node with
          | file content => rfl
          | directory =>
              simp only
              split
              · exact ih _
              · split
                · rfl
                · exact ih _

/-- A path that leads to a directory is that of a directory. -/
theorem isDirectory_of_follow (led : disk.follow path = .ok place)
    (standing : disk.node? place = some .directory) : disk.isDirectory path = .ok true := by
  obtain ⟨speakable, resolved⟩ := follow_eq_ok_iff.mp led
  simp only [isDirectory, look, speakable, Bool.false_eq_true, ↓reduceIte, resolved, standing]
  rfl

private theorem exists_directory_of_isDirectory (taken : disk.isDirectory path = .ok true) :
    ∃ place, disk.follow path = .ok place ∧ disk.node? place = some .directory := by
  unfold isDirectory look at taken
  split at taken
  · exact nomatch taken
  · next speakable =>
      cases resolved : disk.resolve path with
      | ok place =>
          rw [resolved] at taken
          exact ⟨place, follow_eq_ok_iff.mpr ⟨by simpa using speakable, resolved⟩,
            by simpa [bind, Except.bind, pure, Except.pure] using taken⟩
      | error refusal =>
          rw [resolved] at taken
          cases refusal <;> exact nomatch taken

/-! ## One directory -/

/-- A directory is made where nothing was. -/
theorem makeDirectory_ok (made : disk.makeDirectory path = .ok after) :
    ∃ place, disk.follow path = .ok place ∧ disk.node? place = none ∧
      after = disk.put place .directory := by
  unfold makeDirectory at made
  cases led : disk.follow path with
  | error fault =>
      rw [led] at made
      exact nomatch made
  | ok place =>
      rw [led] at made
      simp only [bind, Except.bind] at made
      split at made
      · exact nomatch made
      · next free => exact ⟨place, rfl, free, (Except.ok.inj made).symm⟩

/-- A directory that can not be made for want of one before it is at the end of a path that breaks
off. -/
theorem makeDirectory_missing {name : String}
    (refused : disk.makeDirectory path = .error (.refused .missing name)) :
    isUnspeakable path = false ∧ disk.resolve path = .error .missing := by
  unfold makeDirectory follow at refused
  cases speakable : isUnspeakable path with
  | true =>
      rw [speakable] at refused
      exact absurd (Except.error.inj refused) (unspeakable_ne_refused path _ _)
  | false =>
      rw [speakable] at refused
      cases resolved : disk.resolve path with
      | error refusal =>
          rw [resolved] at refused
          cases refused
          exact ⟨rfl, rfl⟩
      | ok place =>
          rw [resolved] at refused
          simp only [bind, Except.bind, Bool.false_eq_true, ↓reduceIte] at refused
          split at refused <;> exact nomatch refused

private theorem acceptDirectory_ok {fault : Fault}
    (accepted : disk.acceptDirectory path fault = .ok ()) :
    disk.isDirectory path = .ok true := by
  unfold acceptDirectory at accepted
  cases taken : disk.isDirectory path with
  | error other =>
      rw [taken] at accepted
      exact nomatch accepted
  | ok answer =>
      cases answer with
      | true => rfl
      | false =>
          rw [taken] at accepted
          exact nomatch accepted

/-- Making sure of a directory only adds to a disk. -/
theorem extends_ensureDirectory (disk : Disk) (path : Path) :
    Extends disk (disk.ensureDirectory path).2 := by
  unfold ensureDirectory
  split
  · next made =>
      obtain ⟨place, _, free, rfl⟩ := makeDirectory_ok made
      exact .put_directory free
  all_goals exact .refl disk

private theorem ensureDirectory_ok (ensured : disk.ensureDirectory path = (.ok (), after)) :
    ∃ place, after.follow path = .ok place ∧ after.node? place = some .directory := by
  unfold ensureDirectory at ensured
  split at ensured
  · next made =>
      cases ensured
      obtain ⟨place, led, free, rfl⟩ := makeDirectory_ok made
      have noDirectory : disk.node? place ≠ some .directory := by simp [free]
      exact ⟨place, (Extends.put_directory free).keepsDirectories.follow led,
        node?_put_self (ne_root_of_node? noDirectory)⟩
  · exact nomatch ensured
  · rw [Prod.mk.injEq] at ensured
    obtain ⟨accepted, rfl⟩ := ensured
    exact exists_directory_of_isDirectory (acceptDirectory_ok accepted)
  · exact nomatch ensured

/-- What is refused for want of a directory was not taken for one, and nothing was made. -/
theorem acceptDirectory_missing {fault : Fault} {name : String}
    (refused : disk.acceptDirectory path fault = .error (.refused .missing name)) :
    fault = .refused .missing name := by
  unfold acceptDirectory isDirectory look at refused
  split at refused
  · exact Except.error.inj refused
  · split at refused
    · next place _ =>
        simp only [bind, Except.bind, pure, Except.pure] at refused
        split at refused
        · exact Except.error.inj refused
        · exact nomatch refused
    · exact Except.error.inj refused
    · exact Except.error.inj refused
    · next refusal noMissing _ _ =>
        cases refused
        exact absurd rfl noMissing

private theorem ensureDirectory_missing {name : String}
    (ensured : disk.ensureDirectory path = (.error (.refused .missing name), after)) :
    after = disk ∧ isUnspeakable path = false ∧ disk.resolve path = .error .missing := by
  unfold ensureDirectory at ensured
  split at ensured
  · exact nomatch ensured
  · next refused =>
      cases ensured
      exact ⟨rfl, makeDirectory_missing refused⟩
  · next other _ =>
      rw [Prod.mk.injEq] at ensured
      cases acceptDirectory_missing ensured.1
      exact (other rfl).elim
  · next other _ =>
      cases ensured
      exact absurd rfl (other _ _)

/-! ## All directories of a path -/

private theorem extends_ensureInside (disk : Disk) (start : Location) (path : Path) :
    Extends disk (disk.ensureInside start path).2 := by
  unfold ensureInside
  split
  · exact .refl disk
  · split
    · next free => exact .put_directory free
    · exact .refl disk
    · exact .refl disk

private theorem ensureInside_ok {start : Location}
    (ensured : disk.ensureInside start path = (.ok place, after)) :
    after.walk start [path.name] = .ok place ∧ after.node? place = some .directory := by
  unfold ensureInside at ensured
  split at ensured
  · exact nomatch ensured
  · next led =>
      split at ensured
      · next free =>
          cases ensured
          have noDirectory : disk.node? place ≠ some .directory := by simp [free]
          exact ⟨(Extends.put_directory free).keepsDirectories.walk led,
            node?_put_self (ne_root_of_node? noDirectory)⟩
      · next standing =>
          cases ensured
          exact ⟨led, standing⟩
      · exact nomatch ensured

/-- Making sure of a path from some level on only adds to a disk. -/
theorem extends_ensureFrom (room : Nat) (disk : Disk) (path : Path) :
    Extends disk (ensureFrom room disk path).2 := by
  induction room generalizing disk path with
  | zero => exact .refl disk
  | succ room ih =>
      have first := extends_ensureDirectory disk path
      unfold ensureFrom
      split
      · next name between ensured =>
          rw [ensured] at first
          split
          · exact first
          · have above := ih between path.parent
            split
            · next made =>
                rw [made] at above
                exact first.trans above
            · next made =>
                rw [made] at above
                exact (first.trans above).trans (extends_ensureInside _ _ path)
      · next ensured => rwa [ensured] at first
      · next ensured => rwa [ensured] at first

/-- The steps of a path are those of its parent and its name. -/
theorem steps_eq_concat (nonempty : path.steps.isEmpty = false) :
    path.steps = path.parent.steps ++ [path.name] := by
  cases steps : path.steps with
  | nil => simp [steps] at nonempty
  | cons step rest =>
      have some_last : (step :: rest).getLast? =
          some ((step :: rest).getLast (List.cons_ne_nil _ _)) :=
        List.getLast?_eq_some_getLast _
      rw [Path.parent, Path.name, steps, some_last, Option.getD_some,
        List.dropLast_append_getLast]

private theorem short_of_missing (resolved : disk.resolve path = .error .missing) :
    Text.Utf8.nameSize path.toString < pathLimit := by
  unfold resolve at resolved
  split at resolved
  · exact nomatch resolved
  · next short => exact Nat.lt_of_not_le short

/-- A path is followed by following the one before its last step and taking that step. -/
theorem follow_of_parent {start : Location} (speakable : isUnspeakable path = false)
    (short : Text.Utf8.nameSize path.toString < pathLimit) (nonempty : path.steps.isEmpty = false)
    (above : disk.follow path.parent = .ok start)
    (inside : disk.walk start [path.name] = .ok place) : disk.follow path = .ok place := by
  have led := (resolve_eq_ok_iff.mp (follow_eq_ok_iff.mp above).2).2
  refine follow_eq_ok_iff.mpr ⟨speakable, resolve_eq_ok_iff.mpr ⟨short, ?_⟩⟩
  rw [steps_eq_concat nonempty, walk_append]
  exact (congrArg (· >>= fun place => disk.walk place [path.name]) led).trans inside

/-- What was made sure of is a directory. -/
theorem ensureFrom_ok {room : Nat} (ensured : ensureFrom room disk path = (.ok place, after)) :
    after.follow path = .ok place ∧ after.node? place = some .directory := by
  induction room generalizing disk path place after with
  | zero => exact nomatch ensured
  | succ room ih =>
      unfold ensureFrom at ensured
      split at ensured
      · next name between missing =>
          split at ensured
          · exact nomatch ensured
          · next nonempty =>
              split at ensured
              · exact nomatch ensured
              · next start middle made =>
                  obtain ⟨rfl, speakable, resolved⟩ := ensureDirectory_missing missing
                  have inside := extends_ensureInside middle start path
                  rw [ensured] at inside
                  have above := inside.keepsDirectories.follow (ih made).1
                  obtain ⟨led, standing⟩ := ensureInside_ok ensured
                  refine ⟨follow_of_parent speakable (short_of_missing resolved)
                    (by simpa using nonempty) above led, standing⟩
      · exact nomatch ensured
      · next between there =>
          rw [Prod.mk.injEq] at ensured
          obtain ⟨led, rfl⟩ := ensured
          obtain ⟨found, followed, standing⟩ := ensureDirectory_ok there
          obtain rfl := Except.ok.inj (followed.symm.trans led)
          exact ⟨led, standing⟩

/-- Making the directories of a path only adds to a disk. -/
theorem extends_ensureDirectories (disk : Disk) (depth : Nat) (path : Path) :
    Extends disk (disk.ensureDirectories depth path).2 :=
  extends_ensureFrom (depth + 1) disk path

/-- Where all directories of a path were made, it leads to a directory. -/
theorem ensureDirectories_ok {depth : Nat}
    (ensured : disk.ensureDirectories depth path = (.ok (), after)) :
    ∃ place, after.follow path = .ok place ∧ after.node? place = some .directory := by
  unfold ensureDirectories at ensured
  rcases made : ensureFrom (depth + 1) disk path with ⟨fault | place, between⟩
  · rw [made] at ensured
    exact nomatch ensured
  · rw [made] at ensured
    cases ensured
    exact ⟨place, ensureFrom_ok made⟩

/-- Where there is a directory already, nothing is made. -/
theorem ensureDirectories_of_directory (depth : Nat) (led : disk.follow path = .ok place)
    (standing : disk.node? place = some .directory) :
    disk.ensureDirectories depth path = (.ok (), disk) := by
  have refused : disk.makeDirectory path = .error (.refused .alreadyThere path.toString) := by
    simp only [makeDirectory, led, bind, Except.bind, standing]
    rfl
  have ensured : disk.ensureDirectory path = (.ok (), disk) := by
    simp only [ensureDirectory, refused, acceptDirectory, isDirectory_of_follow led standing]
    rfl
  simp only [ensureDirectories, ensureFrom, ensured, led]
  rfl

end Making

end ElementWrap.Files.Disk
