import ElementWrap.Proofs.Files.Making

/-! # Files side by side

Files can stand side by side if their paths are different and none of them is a directory above
another (`ElementWrap.Files.SideBySide`). Below a destination the path to such a file passes what
the path of the destination passes, and then nothing but directories of its own
(`ElementWrap.Files.Path.IsInward.passes_or_below`).
-/

namespace ElementWrap.Files

/-- A path leads inward: it has steps, and none of them leads back. -/
structure Path.IsInward (path : Path) : Prop where
  relative : path.anchor = .relative
  stepped : path.steps ≠ []
  forth : ".." ∉ path.steps

/-- A path is that of a directory above another path. -/
def Path.IsAbove (upper lower : Path) : Prop :=
  upper.anchor = lower.anchor ∧ upper.steps <+: lower.steps ∧ upper.steps ≠ lower.steps

/-- Files can stand side by side: their paths lead inward, no two are the same, and none is that of
a directory above another. -/
structure SideBySide (paths : List Path) : Prop where
  inward : ∀ path ∈ paths, path.IsInward
  distinct : paths.Nodup
  apart : ∀ upper ∈ paths, ∀ lower ∈ paths, ¬ upper.IsAbove lower

/-! ## Paths that lead inward -/

/-- Steps without double dots are entered one after the other. -/
theorem foldl_enter {steps : List String} (forth : ".." ∉ steps) (start : Location) :
    steps.foldl enter start = start ++ steps := by
  induction steps generalizing start with
  | nil => exact (List.append_nil start).symm
  | cons step rest ih =>
      rw [List.mem_cons, not_or] at forth
      rw [List.foldl_cons, enter, if_neg (Ne.symm forth.1), ih forth.2, List.append_assoc,
        List.singleton_append]

namespace Path

variable {home place : Location} {path destination : Path}

/-- Inward paths are told apart by their steps. -/
theorem IsInward.eq_of_steps_eq {first second : Path} (inwardFirst : first.IsInward)
    (inwardSecond : second.IsInward) (same : first.steps = second.steps) : first = second := by
  calc first = ⟨.relative, first.steps⟩ := by rw [← inwardFirst.relative]
    _ = ⟨.relative, second.steps⟩ := by rw [same]
    _ = second := by rw [← inwardSecond.relative]

/-- An inward path goes on from a destination with its steps. -/
theorem IsInward.join (inward : path.IsInward) :
    destination.join path = destination.upTo (destination.steps ++ path.steps) := by
  rw [Path.join, inward.relative]
  rfl

/-- An inward path spells out a place below its destination. -/
theorem IsInward.placeFrom_join (inward : path.IsInward) :
    (destination.join path).placeFrom home = destination.placeFrom home ++ path.steps := by
  rw [inward.join, placeFrom, upTo, placeFrom, List.foldl_append, foldl_enter inward.forth]

/-- What is passed on the way to a path below a destination is passed by the path of the
destination, or it is below the destination and some of the way further. -/
theorem IsInward.passes_or_below (inward : path.IsInward)
    (passes : (destination.join path).parent.Passes home place) :
    destination.Passes home place ∨ ∃ taken, taken ≠ [] ∧ taken <+: path.steps ∧
      taken ≠ path.steps ∧ place = destination.placeFrom home ++ taken := by
  obtain ⟨steps, begins, rfl⟩ := passes
  rw [inward.join, parent, upTo] at begins ⊢
  rw [List.dropLast_append_of_ne_nil inward.stepped] at begins
  rcases List.prefix_or_prefix_of_prefix begins (List.prefix_append _ _) with short | ⟨taken, rfl⟩
  · exact .inl ⟨steps, short, rfl⟩
  · have beginsLater := (List.prefix_append_right_inj _).mp begins
    by_cases none_taken : taken = []
    · subst none_taken
      exact .inl ⟨destination.steps, List.prefix_rfl, by rw [List.append_nil]⟩
    · have within := beginsLater.trans (List.dropLast_prefix path.steps)
      have shorter : taken ≠ path.steps := by
        rintro rfl
        have longer := beginsLater.length_le
        have positive := List.length_pos_of_ne_nil none_taken
        rw [List.length_dropLast] at longer
        omega
      refine .inr ⟨taken, none_taken, within, shorter, ?_⟩
      have forth : ".." ∉ taken := fun member => inward.forth (within.subset member)
      rw [placeFrom, placeFrom, List.foldl_append, foldl_enter forth]

/-- A path that leads inward alone passes no place below the one that it leads to. -/
theorem not_passes_below (forth : ".." ∉ destination.steps) {steps : List String}
    (further : steps ≠ []) :
    ¬ destination.Passes home (destination.placeFrom home ++ steps) := by
  rintro ⟨taken, begins, spelled⟩
  have forthTaken : ".." ∉ taken := fun member => forth (begins.subset member)
  have positive := List.length_pos_of_ne_nil further
  have shorter := begins.length_le
  have lengths := congrArg List.length spelled
  rw [placeFrom, placeFrom, foldl_enter forthTaken, foldl_enter forth] at lengths
  simp only [List.length_append] at lengths
  omega

end Path

/-! ## Vacant destinations -/

namespace Disk

variable {disk : Disk} {destination : Path} {place : Location}

/-- A destination is vacant: no file stands where its path passes, and nothing is below it. -/
structure IsVacant (disk : Disk) (destination : Path) : Prop where
  clear : disk.IsClear destination
  empty : ∀ steps, steps ≠ [] → disk.node? (destination.placeFrom disk.home ++ steps) = none

/-- No file is at or below a vacant destination. -/
theorem IsVacant.file?_eq_none (vacant : disk.IsVacant destination)
    (below : destination.placeFrom disk.home <+: place) : disk.file? place = none := by
  obtain ⟨steps, rfl⟩ := below
  by_cases further : steps = []
  · subst further
    rw [List.append_nil]
    exact vacant.clear _ (Path.Passes.self disk.home destination)
  · rw [file?, vacant.empty steps further]

end Disk

end ElementWrap.Files
