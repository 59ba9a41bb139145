import ElementWrap.Proofs.Files.Descent
import ElementWrap.Proofs.Layout.Artifacts
import ElementWrap.Proofs.Naming.PlainNames

/-! # Where the files of the classes are

In the layout that gives every class a directory, the files of elements with plain names can stand
side by side (`ElementWrap.Layout.sideBySide_assemble`). A class name opens with a capital, so the
module of a class is not its index, and it holds no dot, so no directory of a class is the module of
the helpers.
-/

namespace ElementWrap

/-! ## Class names as steps -/

namespace Files

/-- A text without slashes writes one step, unless it writes none. -/
theorem Path.ofString_eq_step {s : String} (whole : '/' ∉ s.toList) (written : s ≠ "")
    (noDot : s ≠ ".") : Path.ofString s = ⟨.relative, [s]⟩ := by
  have anchor : (ofString s).anchor = .relative :=
    relative_ofString_iff.mpr fun opens => whole (List.mem_of_mem_head? opens)
  have steps : (ofString s).steps = [s] := by
    have someChar : s.toList ≠ [] := fun empty => written (String.toList_inj.mp empty)
    have others : s.toList ≠ ['.'] := fun dot => noDot (String.toList_inj.mp dot)
    rw [steps_ofString, stepsOf_eq_singleton whole someChar others, String.ofList_toList]
  calc ofString s = ⟨(ofString s).anchor, (ofString s).steps⟩ := rfl
    _ = ⟨.relative, [s]⟩ := by rw [anchor, steps]

end Files

/-- A component has a plain name. -/
def Component.HasPlainName (component : Component) : Prop :=
  ∃ s, component.name = .text s ∧ Naming.IsPlainName s

namespace Layout

open Files Log Naming Wrapper

/-! ## The files of class names -/

/-- The paths and kinds of the files of a class. -/
def filesOf (className : String) : List (Path × ArtifactKind) :=
  [(⟨.relative, [className, className ++ extension]⟩, .component),
    (⟨.relative, [className, "index" ++ extension]⟩, .index)]

/-- The path of the module of the helpers. -/
def helpersPath : Path := ⟨.relative, [helpersStem ++ extension]⟩

/-- The paths and kinds of all files, those of the helpers last. -/
def separateFiles (classNames : List String) : List (Path × ArtifactKind) :=
  classNames.flatMap filesOf ++ [(helpersPath, .helpers)]

private theorem paths_separateFiles (classNames : List String) :
    (separateFiles classNames).map Prod.fst =
      (classNames.flatMap fun className => (filesOf className).map Prod.fst) ++ [helpersPath] := by
  rw [separateFiles, List.map_append, List.map_flatMap, List.map_singleton]

variable {className : String} {classNames : List String} {path : Path}

/-- A file of a class is in the directory of the class. -/
theorem exists_of_mem_filesOf (member : path ∈ (filesOf className).map Prod.fst) :
    ∃ file, path = ⟨.relative, [className, file]⟩ ∧
      (file = className ++ extension ∨ file = "index" ++ extension) := by
  rcases List.mem_pair.mp member with rfl | rfl
  · exact ⟨_, rfl, .inl rfl⟩
  · exact ⟨_, rfl, .inr rfl⟩

private theorem mem_paths_separateFiles
    (member : path ∈ (separateFiles classNames).map Prod.fst) :
    (∃ className ∈ classNames, path ∈ (filesOf className).map Prod.fst) ∨ path = helpersPath := by
  rw [paths_separateFiles, List.mem_append, List.mem_flatMap, List.mem_singleton] at member
  exact member

/-! ## No two files in one place -/

/-- A character tells two texts apart if only one of them has it. -/
theorem ne_of_notMem {c : Char} {first second : String} (missing : c ∉ first.toList)
    (present : c ∈ second.toList) : first ≠ second := by
  rintro rfl
  exact missing present

/-- The module of a class is not its index. -/
theorem nodup_filesOf (word : IsClassWord className) :
    ((filesOf className).map Prod.fst).Nodup := by
  have different : className ++ extension ≠ "index" ++ extension := by
    intro same
    have opens := (String.append_left_inj extension).mp same ▸ word.opens
    exact absurd opens (by decide)
  simpa [filesOf] using different

/-- A directory of a class is not the module of the helpers. -/
theorem ne_helpers (word : IsClassWord className) : className ≠ helpersStem ++ extension :=
  ne_of_notMem word.noDot (by decide)

private theorem isInward_of_mem (words : ∀ className ∈ classNames, IsClassWord className)
    (member : path ∈ (separateFiles classNames).map Prod.fst) : path.IsInward := by
  rcases mem_paths_separateFiles member with ⟨className, listed, inside⟩ | rfl
  · obtain ⟨file, rfl, named⟩ := exists_of_mem_filesOf inside
    have directory : ".." ≠ className :=
      (ne_of_notMem (words className listed).noDot (by decide)).symm
    have someFile : ".." ≠ file := by
      rcases named with rfl | rfl
      · refine ne_of_notMem (c := 'j') (by decide) ?_
        rw [String.toList_append]
        exact List.mem_append_right _ (by decide)
      · decide
    exact ⟨rfl, List.cons_ne_nil _ _, by simp [directory, someFile]⟩
  · exact ⟨rfl, List.cons_ne_nil _ _, by decide⟩

private theorem nodup_separateFiles (words : ∀ className ∈ classNames, IsClassWord className)
    (distinct : classNames.Nodup) : ((separateFiles classNames).map Prod.fst).Nodup := by
  rw [paths_separateFiles, List.nodup_append]
  refine ⟨List.nodup_flatMap.mpr ⟨fun className listed => nodup_filesOf (words className listed),
    distinct.imp fun {first second} different => ?_⟩, List.nodup_singleton _, ?_⟩
  · intro path inFirst inSecond
    obtain ⟨_, rfl, _⟩ := exists_of_mem_filesOf inFirst
    obtain ⟨_, same, _⟩ := exists_of_mem_filesOf inSecond
    simp only [Files.Path.mk.injEq, List.cons.injEq] at same
    exact different same.2.1
  · intro path member helpers isHelpers
    obtain ⟨className, _, inside⟩ := List.mem_flatMap.mp member
    obtain ⟨_, rfl, _⟩ := exists_of_mem_filesOf inside
    rw [List.mem_singleton.mp isHelpers, helpersPath]
    simp

/-- No file of a class or of the helpers is a directory above another file. -/
theorem not_isAbove (words : ∀ className ∈ classNames, IsClassWord className) {upper lower : Path}
    (memberUpper : upper ∈ (separateFiles classNames).map Prod.fst)
    (memberLower : lower ∈ (separateFiles classNames).map Prod.fst) : ¬ upper.IsAbove lower := by
  rintro ⟨_, begins, shorter⟩
  rcases mem_paths_separateFiles memberLower with ⟨className, listed, inside⟩ | rfl
  · obtain ⟨file, rfl, _⟩ := exists_of_mem_filesOf inside
    rcases mem_paths_separateFiles memberUpper with ⟨other, _, insideUpper⟩ | rfl
    · obtain ⟨otherFile, rfl, _⟩ := exists_of_mem_filesOf insideUpper
      exact shorter (begins.eq_of_length rfl)
    · exact ne_helpers (words className listed) (List.cons_prefix_cons.mp begins).1.symm
  · rcases mem_paths_separateFiles memberUpper with ⟨other, _, insideUpper⟩ | rfl
    · obtain ⟨otherFile, rfl, _⟩ := exists_of_mem_filesOf insideUpper
      exact absurd begins.length_le (by simp [helpersPath])
    · exact shorter rfl

private theorem sideBySide_separateFiles (words : ∀ className ∈ classNames, IsClassWord className)
    (distinct : classNames.Nodup) : SideBySide ((separateFiles classNames).map Prod.fst) where
  inward _ member := isInward_of_mem words member
  distinct := nodup_separateFiles words distinct
  apart _ memberUpper _ memberLower := not_isAbove words memberUpper memberLower

/-! ## The files that are assembled -/

/-- What kind of file is where. -/
def located (artifact : Artifact) : Path × ArtifactKind := (artifact.path, artifact.kind)

/-- A file that is located somewhere is one of the artifacts. -/
theorem exists_path_of_located {artifacts : List Artifact} {files : List (Path × ArtifactKind)}
    (found : artifacts.map located = files) {kind : ArtifactKind} (listed : (path, kind) ∈ files) :
    ∃ artifact ∈ artifacts, artifact.path = path := by
  rw [← found] at listed
  obtain ⟨artifact, member, same⟩ := List.mem_map.mp listed
  exact ⟨artifact, member, congrArg Prod.fst same⟩

private theorem ofString_className (word : IsClassWord className) :
    Path.ofString className = ⟨.relative, [className]⟩ := by
  have written : className ≠ "" := by
    rintro rfl
    exact absurd word.opens (by decide)
  exact Path.ofString_eq_step word.noSlash written (ne_of_notMem word.noDot (by decide))

/-- The name of a module without a slash is a path of one step. -/
theorem ofString_module {stem : String} (whole : '/' ∉ stem.toList) :
    Path.ofString (stem ++ extension) = ⟨.relative, [stem ++ extension]⟩ := by
  have spelled : (stem ++ extension).toList = stem.toList ++ ['.', 'j', 's'] :=
    String.toList_append
  have opens : 'j' ∈ (stem ++ extension).toList := by simp [spelled]
  refine Path.ofString_eq_step ?_ (ne_of_notMem (by decide) opens).symm
    (ne_of_notMem (by decide) opens).symm
  simp [spelled, whole]

private theorem located_classFiles (config : Config) {entry : String × String}
    (word : IsClassWord entry.1) : (classFiles config entry).map located = filesOf entry.1 := by
  have index : Path.ofString ("index" ++ extension) = ⟨.relative, ["index" ++ extension]⟩ :=
    ofString_module (by decide)
  simp only [classFiles, located, List.map_cons, List.map_nil, ofString_className word,
    ofString_module word.noSlash, index]
  rfl

private theorem located_helpersFile (config : Config) :
    located (helpersFile config) = (helpersPath, .helpers) := by
  have helpers : Path.ofString (helpersStem ++ extension) = helpersPath :=
    ofString_module (by decide)
  rw [located, helpersFile, helpers]

private theorem located_separate (config : Config) {classes : Classes}
    (words : ∀ entry ∈ classes, IsClassWord entry.1) :
    (classes.flatMap (classFiles config) ++ [helpersFile config]).map located =
      separateFiles (classes.map Prod.fst) := by
  have files : classes.flatMap (fun entry => (classFiles config entry).map located) =
      classes.flatMap fun entry => filesOf entry.1 :=
    List.flatMap_congr fun entry member => located_classFiles config (words entry member)
  rw [separateFiles, List.map_append, List.map_flatMap, files, List.flatMap_map,
    List.map_singleton, located_helpersFile]

/-- The class names of components, each once. -/
def distinctClassNames (components : List Component) : List String :=
  (components.map (·.name.display)).eraseDups.map (camel true)

variable {config : Config} {components : List Component}

private theorem nodup_distinctClassNames
    (elements : ∀ component ∈ components, component.IsElement) :
    (distinctClassNames components).Nodup := by
  refine (nodup_eraseDups _).map_on fun first memberFirst second memberSecond same => ?_
  have isName {name : String} (member : name ∈ (components.map (·.name.display)).eraseDups) :
      IsElementName name := by
    obtain ⟨component, listed, rfl⟩ := List.mem_map.mp (List.mem_eraseDups.mp member)
    obtain ⟨s, named, element⟩ := elements component listed
    rwa [named]
  exact camel_injective (isName memberFirst) (isName memberSecond) same

/-- The classes that are rendered for elements have the class names, in the order in which they are
met. -/
theorem map_fst_classes (elements : ∀ component ∈ components, component.IsElement)
    {classes : Classes}
    (rendered : (newcomers classKey [] components).mapM (classEntry config) = .ok classes) :
    classes.map Prod.fst = distinctClassNames components := by
  have keys : classes.map Prod.fst = (newcomers classKey [] components).map classKey := by
    rw [← List.forall₂_eq_eq_eq, List.forall₂_map_left_iff, List.forall₂_map_right_iff]
    refine (mapM_eq_ok_iff.mp rendered).flip.imp fun entry component made => ?_
    obtain ⟨text, _, made⟩ := bind_eq_ok_iff.mp made
    exact congrArg Prod.fst (Except.ok.inj made).symm
  have names : (newcomers (fun component => component.name.display) [] components).map
      (·.name.display) = (components.map (·.name.display)).eraseDups := by
    rw [map_newcomers, List.filter_eq_self.mpr fun _ _ => decide_eq_true List.not_mem_nil]
  rw [keys, newcomers_classKey elements, distinctClassNames, ← names, List.map_map]
  rfl

section HasPlainName

variable (plain : ∀ component ∈ components, component.HasPlainName)

include plain

private theorem isElement_of_mem {component : Component} (member : component ∈ components) :
    component.IsElement :=
  (plain component member).imp fun _ named => ⟨named.1, named.2.isElementName⟩

private theorem isClassWord_of_mem (member : className ∈ distinctClassNames components) :
    IsClassWord className := by
  obtain ⟨name, listed, rfl⟩ := List.mem_map.mp member
  obtain ⟨component, present, rfl⟩ := List.mem_map.mp (List.mem_eraseDups.mp listed)
  obtain ⟨s, named, plainName⟩ := plain component present
  rw [named]
  exact plainName.isClassWord_camel

/-- **Each element has a module and an index**, in a directory with the name of its class, and the
module of the helpers comes last. -/
theorem located_assemble (apart : config.isBundle = false) {map : CaseMap}
    (sound : map.WellFormed) {artifacts : List Artifact}
    (made : (assemble config map components).outcome.1 = .ok artifacts) :
    artifacts.map located = separateFiles (distinctClassNames components) := by
  have elements : ∀ component ∈ components, component.IsElement := fun component member =>
    isElement_of_mem plain member
  rw [outcome_assemble config sound, classesFrom_start config fun component member =>
    (elements component member).imp fun _ element => element.1] at made
  obtain ⟨classes, rendered, laid⟩ := bind_eq_ok_iff.mp made
  rw [artifactsOf_separate apart] at laid
  obtain rfl := Except.ok.inj laid
  have keys := map_fst_classes elements rendered
  have words : ∀ entry ∈ classes, IsClassWord entry.1 := fun entry member =>
    isClassWord_of_mem plain (keys ▸ List.mem_map_of_mem member)
  rw [located_separate config words, keys]

/-- **The files of elements can stand side by side.** -/
theorem sideBySide_assemble (apart : config.isBundle = false) {map : CaseMap}
    (sound : map.WellFormed) {artifacts : List Artifact}
    (made : (assemble config map components).outcome.1 = .ok artifacts) :
    SideBySide (artifacts.map (·.path)) := by
  have paths : artifacts.map (·.path) =
      (separateFiles (distinctClassNames components)).map Prod.fst := by
    rw [← located_assemble plain apart sound made, List.map_map]
    rfl
  rw [paths]
  exact sideBySide_separateFiles (fun _ member => isClassWord_of_mem plain member)
    (nodup_distinctClassNames fun _ member => isElement_of_mem plain member)

end HasPlainName

end Layout

end ElementWrap
