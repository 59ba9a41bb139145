import ElementWrap.Proofs.Layout.Paths
import ElementWrap.Proofs.Work.Vacant

/-! # Writing the files of elements

In the layout that gives every class a directory, the files of elements with plain names have paths
of their own, none of which is a directory above another. Below a vacant destination they are all
written, and are all that is there (`ElementWrap.Work.writeArtifacts_assemble`), as long as their
contents have an encoding, the operating system takes their paths and the path of the destination
passes none of them.
-/

namespace ElementWrap.Work

open Files Log Layout Naming

/-- A disk with a working directory and nothing in it. -/
def bareDisk : Disk := ⟨[(["w"], .directory)], ["w"]⟩

private theorem node?_bareDisk {place : Location} (used : place ≠ []) (other : place ≠ ["w"]) :
    bareDisk.node? place = none := by
  simp [Disk.node?, bareDisk, Ordered.get?, used, other.symm]

private theorem file?_bareDisk (place : Location) : bareDisk.file? place = none := by
  by_cases root : place = []
  · subst root
    rfl
  · by_cases home : place = ["w"]
    · subst home
      rfl
    · rw [Disk.file?, node?_bareDisk root home]

/-- Every path inside the empty working directory is a vacant destination. -/
theorem isVacant_bareDisk {destination : Path} (steps : Location)
    (inside : destination.placeFrom ["w"] = "w" :: steps) : bareDisk.IsVacant destination where
  clear place _ := file?_bareDisk place
  empty further nonempty := by
    have spelled : destination.placeFrom bareDisk.home = "w" :: steps := inside
    rw [spelled]
    refine node?_bareDisk (List.cons_ne_nil _ _) ?_
    simp [nonempty]

private theorem tidy_bareDisk : Tidy ["w"] { disk := bareDisk } where
  atHome := rfl
  files _ member := absurd member List.not_mem_nil
  led := Disk.follow_of_fits (by decide +kernel) rfl

/-- A directory to build into that is not there yet. -/
def outPath : Path := ⟨.relative, ["out"]⟩

private theorem isVacant_outPath : bareDisk.IsVacant outPath := isVacant_bareDisk ["out"] rfl

/-- The directory can take files with an encoding whose paths are inward and short enough. -/
theorem canTake_outPath {artifacts : List Artifact}
    (whole : ∀ artifact ∈ artifacts, IsEncodable artifact)
    (inward : ∀ artifact ∈ artifacts, artifact.path.IsInward)
    (fits : ∀ artifact ∈ artifacts, (target outPath artifact).Fits)
    (few : ∀ artifact ∈ artifacts, artifact.path.steps.length ≤ 989) :
    CanTake ["w"] { disk := bareDisk } outPath artifacts where
  atHome := rfl
  audible := .inl rfl
  vacant := isVacant_outPath
  whole := whole
  inReach :=
    { fits
      lacks := fun artifact member => by
        have spelled : target outPath artifact = outPath.upTo ("out" :: artifact.path.steps) :=
          (inward artifact member).join
        refine Disk.lacksAtMost_of_home rfl (by rw [spelled]; rfl) ?_
        rw [spelled, Path.parent, List.length_dropLast]
        exact few artifact member
      past := fun artifact member =>
        Path.not_passes_below (by decide) (inward artifact member).stepped }
  untold _ _ := .inr rfl

private theorem isPlain_repeatingComponents :
    ∀ component ∈ repeatingComponents, component.IsPlain := by
  simp only [repeatingComponents, List.forall_mem_cons]
  exact ⟨Component.isPlain_of_events (by decide)
      (List.forall_mem_singleton.mpr ⟨_, rfl, by decide⟩),
    Component.isPlain_of_events (by decide) (List.forall_mem_nil _),
    Component.isPlain_of_events (by decide) (List.forall_mem_nil _),
    fun _ member => absurd member List.not_mem_nil⟩

private theorem encodable_repeating {artifacts : List Artifact}
    (made : (assemble {} .empty repeatingComponents).outcome.1 = .ok artifacts) :
    ∀ artifact ∈ artifacts, IsEncodable artifact := by
  have lines : ∀ component ∈ newcomers classKey [] repeatingComponents,
      ((Wrapper.Lines.sections {} component).flatten.all fun line =>
        Text.Utf8.isEncodable (line.write "\t")) = true := by decide +kernel
  have index : ∀ component ∈ newcomers classKey [] repeatingComponents,
      Text.Utf8.isEncodable
        (Wrapper.reindent "\t" (Wrapper.indexText (classKey component))) = true := by
    decide +kernel
  rw [outcome_assemble_plain {} wellFormed_empty isPlain_repeatingComponents,
    artifactsOf_separate rfl] at made
  obtain rfl := Except.ok.inj made
  intro artifact member
  rcases List.mem_append.mp member with inside | last
  · obtain ⟨_, listed, file⟩ := List.mem_flatMap.mp inside
    obtain ⟨component, new, rfl⟩ := List.mem_map.mp listed
    rcases List.mem_pair.mp file with rfl | rfl
    · have whole := (Wrapper.isEncodable_declaration {} component).trans (lines component new)
      rw [IsEncodable, plainEntry, Text.Utf8.isEncodable_append, whole,
        Wrapper.isEncodable_importHeader]
      rfl
    · exact index component new
  · rw [List.mem_singleton.mp last]
    exact (congrArg _ (Wrapper.reindent_helpers _)).trans Wrapper.isEncodable_helpers

/-- A plain name of 253 letters. -/
def longName : String := String.ofList (List.replicate 253 'a')

private theorem toList_longName : longName.toList = List.replicate 253 'a' := String.toList_ofList

/-- The module of the class has a name of 256 bytes. -/
theorem nameLimit_lt_long :
    Disk.nameLimit < Text.Utf8.nameSize (camel true longName ++ Wrapper.extension) := by
  have stem : Text.Utf8.nameSize (camel true longName) = 253 := by
    rw [camel, toList_longName, Text.Utf8.nameSize, Text.Utf8.encodeName, String.toList_ofList]
    decide +kernel
  rw [Text.Utf8.nameSize_append, stem]
  decide

private theorem isPlainName_longName : IsPlainName longName := by
  unfold IsPlainName
  rw [toList_longName]
  refine ⟨rfl, fun c member => ?_⟩
  rw [List.eq_of_mem_replicate member]
  exact .inl rfl

/-- A component with the long name and nothing else. -/
def longComponent : Component := { name := .text longName }

/-- The directory before a missing one, with the name of the module of the helpers. -/
def throughHelpers : Path := ⟨.relative, ["WebComponentsImports.js", ".."]⟩

/-- A component with an event whose name is a surrogate that stands alone. -/
def strayComponent : Component :=
  { name := .text "x-a", events := [⟨.text (String.ofList [Text.character 0xD800])⟩] }

private theorem isPlain_strayComponent : strayComponent.IsPlain :=
  Component.isPlain_of_events (by decide) <| List.forall_mem_singleton.mpr ⟨_, rfl, by
    rw [String.toList_ofList]
    decide +kernel⟩

/-- A directory below three that are not there. -/
def deepPath : Path := ⟨.relative, ["a", "b", "c", "d"]⟩

/-- Files are written nowhere below a destination from a workspace. -/
def Unwritten (workspace : Workspace) (destination : Path) (artifacts : List Artifact) : Prop :=
  ∀ written after, (writeArtifacts artifacts destination (.package writingSource)).run.run
    workspace ≠ (.ok written, after)

/-- A module with too long a name is not written. -/
theorem unwritten_long : ∃ artifacts,
    (assemble {} .empty [longComponent]).outcome.1 = .ok artifacts ∧
      Unwritten { disk := bareDisk } outPath artifacts := by
  have plain : ∀ component ∈ [longComponent], component.HasPlainName :=
    List.forall_mem_singleton.mpr ⟨longName, rfl, isPlainName_longName⟩
  have convertible : ∀ component ∈ [longComponent], component.IsConvertible :=
    List.forall_mem_singleton.mpr ⟨⟨longName, rfl⟩, List.forall_mem_nil _⟩
  obtain ⟨artifacts, made⟩ := exists_assemble {} convertible wellFormed_empty
  refine ⟨artifacts, made, fun written after ran => ?_⟩
  obtain ⟨artifact, member, same⟩ : ∃ artifact ∈ artifacts, artifact.path =
      ⟨.relative, [camel true longName, camel true longName ++ Wrapper.extension]⟩ :=
    exists_path_of_located (located_assemble plain rfl wellFormed_empty made)
      (List.mem_append_left _ List.mem_cons_self)
  have fits := (conditions_of_written (sideBySide_assemble plain rfl wellFormed_empty made)
    tidy_bareDisk ran member).2.1
  have long := nameLimit_lt_long
  have step : camel true longName ++ Wrapper.extension ∈ (target outPath artifact).steps := by
    rw [target, same]
    exact List.mem_of_getLast? rfl
  rcases fits.steps _ step with upwards | short
  · rw [upwards] at long
    exact absurd long (by decide)
  · exact Nat.not_lt.mpr short long

/-- A module without an encoding is not written. -/
theorem unwritten_stray : ∃ artifacts,
    (assemble {} .empty [strayComponent]).outcome.1 = .ok artifacts ∧
      Unwritten { disk := bareDisk } outPath artifacts := by
  have plain := List.forall_mem_singleton.mpr isPlain_strayComponent
  have single : newcomers classKey [] [strayComponent] = [strayComponent] := by
    rw [newcomers, if_neg List.not_mem_nil, newcomers]
  have broken : Text.Utf8.isEncodable (Wrapper.declaration {} strayComponent) = false := by
    rw [Wrapper.isEncodable_declaration]
    decide +kernel
  refine ⟨_, (outcome_assemble_plain {} wellFormed_empty plain).trans
    (artifactsOf_separate rfl _), fun written after ran => ?_⟩
  have whole := (left_of_writeArtifacts ran).2.1 ⟨(Path.ofString (classKey strayComponent)).join
    (.ofString (classKey strayComponent ++ Wrapper.extension)),
    Wrapper.importHeader ++ Wrapper.declaration {} strayComponent, .component⟩
    (by simp [single, classFiles, plainEntry])
  rw [IsEncodable, Text.Utf8.isEncodable_append, broken, Bool.and_false] at whole
  exact absurd whole Bool.false_ne_true

/-- No directory is made below more missing ones than there is room for. -/
theorem unwritten_deep : ∃ artifacts, (assemble {} .empty []).outcome.1 = .ok artifacts ∧
    Unwritten { disk := bareDisk, depth := 1 } deepPath artifacts := by
  refine ⟨_, (outcome_assemble_plain {} wellFormed_empty (List.forall_mem_nil _)).trans
    (artifactsOf_separate rfl _), fun written after ran => ?_⟩
  have failed : ((writeArtifacts [helpersFile {}] deepPath (.package writingSource)).run.run
      { disk := bareDisk, depth := 1 }).1.toOption = none := by decide +kernel
  rw [newcomers, List.map_nil, List.flatMap_nil, List.nil_append] at ran
  rw [ran] at failed
  exact absurd failed (Option.some_ne_none _)

/-- No file takes the place of a directory that its path leads through. -/
theorem unwritten_through : ∃ artifacts, (assemble {} .empty []).outcome.1 = .ok artifacts ∧
    Unwritten { disk := bareDisk } throughHelpers artifacts := by
  have plain : ∀ component ∈ ([] : List Component), component.HasPlainName :=
    List.forall_mem_nil _
  obtain ⟨artifacts, made⟩ := exists_assemble {} (List.forall_mem_nil _) wellFormed_empty
  refine ⟨artifacts, made, fun written after ran => ?_⟩
  obtain ⟨artifact, member, same⟩ := exists_path_of_located
    (located_assemble plain rfl wellFormed_empty made)
    (List.mem_append_right _ List.mem_cons_self)
  have past := (conditions_of_written (sideBySide_assemble plain rfl wellFormed_empty made)
    tidy_bareDisk ran member).2.2 (.inr rfl)
  refine past ⟨["WebComponentsImports.js"], List.prefix_append _ [".."], ?_⟩
  rw [placeOf, same]
  decide

end ElementWrap.Work
