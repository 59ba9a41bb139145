import ElementWrap.Proofs.Files.Places
import ElementWrap.Proofs.Running

/-! # When directories can be made

All directories of a path can be made if the operating system takes the path, no file stands where
the path passes, and not too many of them are missing (`ElementWrap.Files.Disk.exists_ensureFrom`).
-/

namespace ElementWrap.Files

/-- The operating system takes a path: it can be spoken, it is not too long, and no step is. -/
structure Path.Fits (path : Path) : Prop where
  speakable : Disk.isUnspeakable path = false
  short : Text.Utf8.nameSize path.toString < Disk.pathLimit
  steps : ∀ step ∈ path.steps, step = ".." ∨ Text.Utf8.nameSize step ≤ Disk.nameLimit

instance (path : Path) : Decidable path.Fits :=
  decidable_of_iff (Disk.isUnspeakable path = false ∧
      Text.Utf8.nameSize path.toString < Disk.pathLimit ∧
      ∀ step ∈ path.steps, step = ".." ∨ Text.Utf8.nameSize step ≤ Disk.nameLimit)
    ⟨fun ⟨speakable, short, steps⟩ => ⟨speakable, short, steps⟩,
      fun fits => ⟨fits.speakable, fits.short, fits.steps⟩⟩

/-- The path that the first steps of a path make up. -/
def Path.upTo (path : Path) (steps : List String) : Path := { path with steps }

/-! ## Paths that fit -/

private theorem nameSize_intercalate_dropLast (steps : List String) :
    Text.Utf8.nameSize ("/".intercalate steps.dropLast) ≤
      Text.Utf8.nameSize ("/".intercalate steps) := by
  match steps with
  | [] => exact Nat.le_refl _
  | [step] => exact Nat.zero_le _
  | step :: next :: rest =>
      have later := nameSize_intercalate_dropLast (next :: rest)
      rw [List.dropLast_cons_cons, String.intercalate_cons_cons]
      cases dropped : (next :: rest).dropLast with
      | nil => simp [Text.Utf8.nameSize_append]; omega
      | cons first others =>
          rw [dropped] at later
          rw [String.intercalate_cons_cons]
          simp only [Text.Utf8.nameSize_append]
          omega

/-- The parent of a path that fits does. -/
theorem Path.Fits.parent {path : Path} (fits : path.Fits) : path.parent.Fits where
  speakable := by
    have speakable := fits.speakable
    unfold Disk.isUnspeakable at speakable ⊢
    rw [List.any_eq_false] at speakable ⊢
    exact fun step member => speakable step (List.dropLast_subset _ member)
  short := by
    have short := fits.short
    have shorter := nameSize_intercalate_dropLast path.steps
    unfold Path.toString at short ⊢
    rw [Path.parent]
    cases anchored : path.anchor with
    | relative =>
        simp only [anchored] at short ⊢
        split at short
        · next empty =>
            rw [List.isEmpty_iff.mp empty]
            exact short
        · split
          · decide
          · omega
    | root =>
        simp only [anchored, Text.Utf8.nameSize_append] at short ⊢
        omega
    | doubleRoot =>
        simp only [anchored, Text.Utf8.nameSize_append] at short ⊢
        omega
  steps step member := fits.steps step (List.dropLast_subset _ member)

namespace Disk

variable {disk before after : Disk} {path : Path} {place start : Location}

/-! ## Paths without a file in the way -/

/-- No file stands where a path passes. -/
def IsClear (disk : Disk) (path : Path) : Prop :=
  ∀ place, path.Passes disk.home place → disk.file? place = none

private theorem IsClear.parent (clear : disk.IsClear path) : disk.IsClear path.parent :=
  fun place passes => clear place passes.of_parent

/-- Steps that fit lead on unless they meet a file or something is missing. -/
theorem walk_ok_or_missing {steps : List String}
    (fits : ∀ step ∈ steps, step = ".." ∨ Text.Utf8.nameSize step ≤ nameLimit)
    (clear : ∀ taken, taken <+: steps → disk.file? (taken.foldl enter start) = none) :
    (∃ place, disk.walk start steps = .ok place) ∨ disk.walk start steps = .error .missing := by
  induction steps generalizing start with
  | nil => exact .inl ⟨start, rfl⟩
  | cons step rest ih =>
      have fitsRest : ∀ other ∈ rest, other = ".." ∨ Text.Utf8.nameSize other ≤ nameLimit :=
        fun other member => fits other (List.mem_cons_of_mem step member)
      have clearRest : ∀ taken, taken <+: rest →
          disk.file? (taken.foldl enter (enter start step)) = none := fun taken begins =>
        clear (step :: taken) (List.cons_prefix_cons.mpr ⟨rfl, begins⟩)
      have unblocked : disk.file? start = none := clear [] List.nil_prefix
      unfold walk
      cases standing : disk.node? start with
      | none => exact .inr rfl
      | some node =>
          cases node with
          | file content =>
              rw [file?_eq_some_iff.mpr standing] at unblocked
              exact absurd unblocked (Option.some_ne_none content)
          | directory =>
              simp only
              unfold enter at clearRest
              by_cases upwards : step = ".."
              · rw [if_pos upwards] at clearRest ⊢
                exact ih fitsRest clearRest
              · have short : ¬ nameLimit < Text.Utf8.nameSize step :=
                  Nat.not_lt.mpr ((fits step List.mem_cons_self).resolve_left upwards)
                rw [if_neg upwards] at clearRest ⊢
                rw [if_neg short]
                exact ih fitsRest clearRest

/-- A path that fits leads to where its steps do. -/
theorem follow_of_fits (fits : path.Fits)
    (walked : disk.walk (if path.anchor = .relative then disk.home else []) path.steps =
      .ok place) : disk.follow path = .ok place :=
  follow_eq_ok_iff.mpr ⟨fits.speakable, resolve_eq_ok_iff.mpr ⟨fits.short, walked⟩⟩

private theorem follow_ok_or_missing (fits : path.Fits) (clear : disk.IsClear path) :
    (∃ place, disk.follow path = .ok place) ∨
      disk.follow path = .error (.refused .missing path.toString) := by
  have unblocked : ∀ taken, taken <+: path.steps → disk.file?
      (taken.foldl enter (if path.anchor = .relative then disk.home else [])) = none :=
    fun taken begins => clear _ ⟨taken, begins, rfl⟩
  have walked := walk_ok_or_missing fits.steps unblocked
  unfold follow resolve
  rw [fits.speakable, if_neg (Nat.not_le.mpr fits.short)]
  rcases walked with ⟨place, led⟩ | broken
  · exact .inl ⟨place, by rw [led]; rfl⟩
  · exact .inr (by rw [broken]; rfl)

private theorem fits_of_walk {steps : List String} (led : disk.walk start steps = .ok place) :
    ∀ step ∈ steps, step = ".." ∨ Text.Utf8.nameSize step ≤ nameLimit := by
  induction steps generalizing start with
  | nil => exact fun _ member => absurd member List.not_mem_nil
  | cons step rest ih =>
      unfold walk at led
      split at led
      · exact nomatch led
      · exact nomatch led
      · split at led
        · next upwards => exact List.forall_mem_cons.mpr ⟨.inl upwards, ih led⟩
        · split at led
          · exact nomatch led
          · next short => exact List.forall_mem_cons.mpr ⟨.inr (Nat.le_of_not_lt short), ih led⟩

/-- A path that leads anywhere fits. -/
theorem fits_of_follow (led : disk.follow path = .ok place) : path.Fits := by
  obtain ⟨speakable, resolved⟩ := follow_eq_ok_iff.mp led
  obtain ⟨short, walked⟩ := resolve_eq_ok_iff.mp resolved
  exact ⟨speakable, short, fits_of_walk walked⟩

/-- A path that leads anywhere passes directories on the way. -/
theorem directory_of_follow (led : disk.follow path = .ok place) {steps : List String}
    (begins : steps <+: path.steps) (before : steps ≠ path.steps) :
    disk.node? ((path.upTo steps).placeFrom disk.home) = some .directory := by
  obtain ⟨_, walked⟩ := resolve_eq_ok_iff.mp (follow_eq_ok_iff.mp led).2
  obtain ⟨rest, parts⟩ := begins
  rw [← parts, walk_append] at walked
  obtain ⟨between, reached, further⟩ := bind_eq_ok_iff.mp walked
  have spelled : between = (path.upTo steps).placeFrom disk.home := walk_eq_foldl reached
  subst spelled
  cases rest with
  | nil => exact absurd (parts ▸ (List.append_nil steps).symm) before
  | cons step others =>
      unfold walk at further
      split at further
      · exact nomatch further
      · exact nomatch further
      · assumption

/-- One more step leads on from a directory. -/
theorem walk_singleton {step : String} (standing : disk.node? start = some .directory)
    (fits : step = ".." ∨ Text.Utf8.nameSize step ≤ nameLimit) :
    disk.walk start [step] = .ok (enter start step) := by
  unfold walk enter
  rw [standing]
  by_cases upwards : step = ".."
  · simp only [if_pos upwards]
    rfl
  · simp only [if_neg upwards, if_neg (Nat.not_lt.mpr (fits.resolve_left upwards))]
    rfl

/-! ## One directory -/

/-- Where a path leads, a directory is made unless there is one, if there is no file. -/
theorem ensureDirectory_of_follow (led : disk.follow path = .ok place)
    (free : disk.file? place = none) :
    ∃ after, disk.ensureDirectory path = (.ok (), after) := by
  cases held : disk.node? place with
  | none =>
      have made : disk.makeDirectory path = .ok (disk.put place .directory) := by
        simp only [makeDirectory, led, bind, Except.bind, held]
        rfl
      exact ⟨_, by rw [ensureDirectory, made]⟩
  | some node =>
      cases node with
      | file content =>
          rw [file?_eq_some_iff.mpr held] at free
          exact absurd free (Option.some_ne_none content)
      | directory =>
          have refused : disk.makeDirectory path =
              .error (.refused .alreadyThere path.toString) := by
            simp only [makeDirectory, led, bind, Except.bind, held]
            rfl
          refine ⟨disk, ?_⟩
          simp only [ensureDirectory, refused, acceptDirectory, isDirectory_of_follow led held]
          rfl

private theorem ensureDirectory_of_missing {name : String}
    (broken : disk.follow path = .error (.refused .missing name)) :
    disk.ensureDirectory path = (.error (.refused .missing name), disk) := by
  have refused : disk.makeDirectory path = .error (.refused .missing name) := by
    rw [makeDirectory, broken]
    rfl
  rw [ensureDirectory, refused]

private theorem ensureInside_of_directory (standing : disk.node? start = some .directory)
    (fits : path.name = ".." ∨ Text.Utf8.nameSize path.name ≤ nameLimit)
    (free : disk.file? (enter start path.name) = none) :
    ∃ after, disk.ensureInside start path = (.ok (enter start path.name), after) := by
  unfold ensureInside
  rw [walk_singleton standing fits]
  cases held : disk.node? (enter start path.name) with
  | none =>
      simp only [held]
      exact ⟨_, rfl⟩
  | some node =>
      cases node with
      | file content =>
          rw [file?_eq_some_iff.mpr held] at free
          exact absurd free (Option.some_ne_none content)
      | directory =>
          simp only [held]
          exact ⟨_, rfl⟩

/-! ## All directories -/

/-- The path that all but a number of the last steps of a path make up leads to a directory. -/
def LacksAtMost (disk : Disk) (path : Path) (most : Nat) : Prop :=
  ∃ standing missing place, path.steps = standing ++ missing ∧ missing.length ≤ most ∧
    disk.follow (path.upTo standing) = .ok place ∧ disk.node? place = some .directory

/-- In a working directory that is there, a path lacks no more than its steps. -/
theorem lacksAtMost_of_home {most : Nat} (there : disk.node? disk.home = some .directory)
    (relative : path.anchor = .relative) (few : path.steps.length ≤ most) :
    disk.LacksAtMost path most := by
  refine ⟨[], path.steps, disk.home, rfl, few, ?_, there⟩
  have upTo : path.upTo [] = ⟨.relative, []⟩ := by rw [Path.upTo, relative]
  rw [upTo]
  exact follow_of_fits (by decide) rfl

/-- No more directories are missing as long as those that are there stay. -/
theorem LacksAtMost.kept {most : Nat} (lacks : before.LacksAtMost path most)
    (keeps : before.KeepsDirectories after) : after.LacksAtMost path most := by
  obtain ⟨standing, missing, place, parts, few, led, there⟩ := lacks
  exact ⟨standing, missing, place, parts, few, keeps.follow led, keeps.kept place there⟩

/-- A path that breaks off lacks more than its last step, and the path before lacks one less. -/
theorem LacksAtMost.parent {most : Nat} (lacks : disk.LacksAtMost path (most + 1))
    (fits : path.Fits) (broken : ∀ place, disk.follow path ≠ .ok place) :
    0 < most ∧ path.steps ≠ [] ∧ disk.LacksAtMost path.parent most := by
  obtain ⟨standing, missing, place, parts, few, led, there⟩ := lacks
  have walked := (resolve_eq_ok_iff.mp (follow_eq_ok_iff.mp led).2).2
  have leads {target : Location} (more : disk.walk place missing = .ok target) : False := by
    refine broken target (follow_of_fits fits ?_)
    rw [parts, walk_append]
    exact (congrArg (· >>= fun place => disk.walk place missing) walked).trans more
  rcases List.eq_nil_or_concat missing with rfl | ⟨before, step, rfl⟩
  · exact (leads rfl).elim
  · rw [List.concat_eq_append] at *
    have lastFits := fits.steps step (by rw [parts]; simp)
    have several : before ≠ [] := by
      rintro rfl
      exact leads (walk_singleton there lastFits)
    rw [List.length_append, List.length_singleton] at few
    have nonempty := List.length_pos_of_ne_nil several
    refine ⟨by omega, by rw [parts]; simp, standing, before, place, ?_, by omega, led, there⟩
    rw [Path.parent, parts, ← List.append_assoc, List.dropLast_concat]

/-- **All directories of a path can be made** if the path fits and no file is in the way, as long as
no more of them are missing than there is room for. -/
theorem exists_ensureFrom {room : Nat} (some_room : 0 < room) (fits : path.Fits)
    (clear : disk.IsClear path) (lacks : disk.LacksAtMost path room) :
    ∃ place after, ensureFrom room disk path = (.ok place, after) := by
  induction room generalizing path with
  | zero => exact absurd some_room (Nat.lt_irrefl 0)
  | succ room ih =>
      unfold ensureFrom
      rcases follow_ok_or_missing fits clear with ⟨place, led⟩ | broken
      · have free : disk.file? place = none :=
          clear place (placeFrom_of_follow led ▸ Path.Passes.self disk.home path)
        obtain ⟨after, ensured⟩ := ensureDirectory_of_follow led free
        have extended := extends_ensureDirectory disk path
        rw [ensured] at extended
        simp only [ensured, extended.keepsDirectories.follow led]
        exact ⟨place, after, rfl⟩
      · obtain ⟨more, stepped, lacksAbove⟩ := lacks.parent fits (by simp [broken])
        obtain ⟨start, between, made⟩ := ih more fits.parent clear.parent lacksAbove
        have nonempty : path.steps.isEmpty = false := by
          rwa [Bool.eq_false_iff, ne_eq, List.isEmpty_iff]
        obtain ⟨led, standing⟩ := ensureFrom_ok made
        have extended := extends_ensureFrom room disk path.parent
        rw [made] at extended
        -- The directory to be made is where the path leads, so no file was there, and none came.
        have spelled : enter start path.name = path.placeFrom disk.home := by
          rw [placeFrom_of_follow led, Path.placeFrom, Path.placeFrom, steps_eq_concat nonempty,
            List.foldl_append, extended.home]
          rfl
        have free : between.file? (enter start path.name) = none := by
          rw [extended.file?, spelled]
          exact clear _ (Path.Passes.self disk.home path)
        have nameFits : path.name = ".." ∨ Text.Utf8.nameSize path.name ≤ nameLimit :=
          fits.steps path.name (by rw [steps_eq_concat nonempty]; simp)
        obtain ⟨after, inside⟩ := ensureInside_of_directory standing nameFits free
        simp only [ensureDirectory_of_missing broken, nonempty, made, inside]
        exact ⟨_, after, rfl⟩

/-- **All directories of a path are made**, with no more missing above the last one than there is
room for. -/
theorem exists_ensureDirectories {depth : Nat} (fits : path.Fits) (clear : disk.IsClear path)
    (lacks : disk.LacksAtMost path (depth + 1)) :
    ∃ after, disk.ensureDirectories depth path = (.ok (), after) := by
  obtain ⟨place, after, made⟩ := exists_ensureFrom depth.succ_pos fits clear lacks
  exact ⟨after, by rw [ensureDirectories, made]; rfl⟩

end Disk

end ElementWrap.Files
