import ElementWrap.Proofs.Layout.Classes
import ElementWrap.Proofs.Text.Encoding

/-! # The files of the classes

The modules around the classes come from templates that need at most a class name, so they can
always be rendered. Components with texts for the names that are converted have files
(`ElementWrap.Layout.exists_assemble`).
-/

namespace ElementWrap

namespace Wrapper

open Template Template.Renders

/-- The text that opens every module, under every unit of indentation. -/
def importHeader : String := "import React from 'react';\n\n"

private theorem writeLines_importHeader (unit : String) :
    writeLines unit [⟨0, "import React from 'react';"⟩, ⟨0, ""⟩] = importHeader := by
  rw [writeLines_cons, writeLines_cons, writeLines_nil, ← String.toList_inj]
  simp [toList_write, importHeader]

private theorem fileHeader_eq (config : Config) : fileHeader config = .ok importHeader := by
  have regular : ∀ line ∈ [Line.mk 0 "import React from 'react';", ⟨0, ""⟩], line.Regular := by
    simp only [List.forall_mem_cons]
    exact ⟨⟨by decide, by decide⟩, ⟨by decide, by decide⟩,
      fun _ member => absurd member List.not_mem_nil⟩
  have source : Source.fileHeader = importHeader := by
    rw [← String.toList_inj]
    simp [Source.fileHeader, Source.lines, importHeader]
  have indented := reindent_writeLines config.indent regular
  rw [writeLines_importHeader, writeLines_importHeader, ← source] at indented
  have rendered : fileHeader config = .ok (reindent config.indent Source.fileHeader) :=
    renderTemplate_eq Source.fileHeader rfl Source.compile_fileHeader rfl rfl (by decide)
      rfl (congr (.text _ .done) String.append_empty)
  rw [rendered, indented, source]

private theorem helpers_eq (config : Config) :
    helpers config = .ok (reindent config.indent Source.helpers) :=
  renderTemplate_eq Source.helpers rfl Source.compile_helpers rfl rfl (by decide)
    rfl (congr (.text _ .done) String.append_empty)

/-- A line that opens with fewer blanks than a level has and has an encoding. -/
structure IsShallow (line : String) : Prop where
  unbroken : '\n' ∉ line.toList
  few : leadingBlanks line.toList < levelWidth
  whole : Text.Utf8.isEncodable line = true

private theorem IsShallow.ofList {line : List Char} (unbroken : line.contains '\n' = false)
    (few : leadingBlanks line < levelWidth) (whole : line.any Text.isLone = false) :
    IsShallow (String.ofList line) where
  unbroken := by rw [String.toList_ofList]; simpa using unbroken
  few := by rwa [String.toList_ofList]
  whole := by rw [Text.Utf8.isEncodable_ofList, whole]; rfl

/-- Shallow lines are left as they are by every unit of indentation. -/
theorem reindent_shallow (unit : String) {texts : List String}
    (shallow : ∀ text ∈ texts, IsShallow text) :
    reindent unit (Source.lines texts) = Source.lines texts := by
  have kept : reindentChars unit.toList (Source.lines texts).toList =
      (Source.lines texts).toList := by
    unfold Source.lines
    induction texts with
    | nil =>
        rw [List.map_nil, String.join_nil]
        exact reindentChars_nil _
    | cons text rest ih =>
        obtain ⟨first, later⟩ := List.forall_mem_cons.mp shallow
        have line : (text ++ "\n").toList = text.toList ++ ['\n'] := String.toList_append
        rw [List.map_cons, String.join_cons, String.toList_append, line, List.append_assoc,
          List.singleton_append, reindentChars_line _ first.unbroken, ih later,
          reindentLine_shallow _ first.few]
  rw [reindent, kept, String.ofList_toList]

private theorem isEncodable_lines {texts : List String} (shallow : ∀ text ∈ texts, IsShallow text) :
    Text.Utf8.isEncodable (Source.lines texts) = true := by
  rw [Source.lines, Text.Utf8.isEncodable_join, List.all_map, List.all_eq_true]
  intro text member
  rw [Function.comp_apply, Text.Utf8.isEncodable_append, (shallow text member).whole]
  rfl

private theorem shallow_helpers :
    ∃ texts, Source.helpers = Source.lines texts ∧ ∀ text ∈ texts, IsShallow text := by
  refine ⟨_, rfl, ?_⟩
  simp only [List.forall_mem_cons, List.not_mem_nil, false_implies, implies_true, and_true]
  repeat' apply And.intro
  all_goals
    try rw [← String.ofList_append]
    exact .ofList rfl (by decide) rfl

/-- The helpers are written with no indentation at all. -/
theorem reindent_helpers (unit : String) : reindent unit Source.helpers = Source.helpers := by
  obtain ⟨texts, same, shallow⟩ := shallow_helpers
  rw [same, reindent_shallow unit shallow]

/-- The module of the helpers has an encoding. -/
theorem isEncodable_helpers : Text.Utf8.isEncodable Source.helpers = true := by
  obtain ⟨texts, same, shallow⟩ := shallow_helpers
  rw [same, isEncodable_lines shallow]

/-- So has what every module starts with. -/
theorem isEncodable_importHeader : Text.Utf8.isEncodable importHeader = true :=
  (Text.Utf8.isEncodable_ofList _).trans rfl

private theorem isEncodable_writeLines (unit : String) (lines : List Line) :
    Text.Utf8.isEncodable (writeLines unit lines) =
      lines.all fun line => Text.Utf8.isEncodable (line.write unit) := by
  rw [writeLines, Text.Utf8.isEncodable_join, List.all_map]
  rfl

/-- A declaration has an encoding if its lines have. -/
theorem isEncodable_declaration (config : Config) (component : Component) :
    Text.Utf8.isEncodable (declaration config component) =
      (Lines.sections config component).flatten.all fun line =>
        Text.Utf8.isEncodable (line.write config.indent) := by
  have brace : Text.Utf8.isEncodable "\x7d" = true := (Text.Utf8.isEncodable_ofList _).trans rfl
  rw [declaration, Text.Utf8.isEncodable_append, isEncodable_writeLines, brace, Bool.and_true]

/-- The module that exports a class. -/
def indexText (className : String) : String :=
  "import " ++ className ++ " from './" ++ className ++ "';\n\nexport default " ++ className ++
    ";\n"

private theorem indexModule_eq (config : Config) (className : String) :
    indexModule config className = .ok (reindent config.indent (indexText className)) := by
  refine renderTemplate_eq Source.index rfl Source.compile_index rfl rfl (by decide)
    rfl (congr (.text _ <| .output evaluate_name <| .text _ <| .output evaluate_name <|
      .text _ <| .output evaluate_name <| .text _ .done) ?_)
  have known : (Ordered.get? "class_name" ([("class_name", Datum.text className)] ++
      commonNames)).getD .undefined = .text className := rfl
  rw [known]
  simp only [indexText, display_text, String.append_assoc, String.append_empty]

end Wrapper

namespace Layout

open Log Wrapper

/-- The files of a class in a directory of its own. -/
def classFiles (config : Config) (entry : String × String) : List Artifact :=
  let directory := Files.Path.ofString entry.1
  [⟨directory.join (.ofString (entry.1 ++ extension)), importHeader ++ entry.2, .component⟩,
    ⟨directory.join (.ofString ("index" ++ extension)),
      reindent config.indent (indexText entry.1), .index⟩]

/-- The module of the helpers. -/
def helpersFile (config : Config) : Artifact :=
  ⟨.ofString (helpersStem ++ extension), reindent config.indent Source.helpers, .helpers⟩

/-- In the layout with directories each class has its files, and the helpers come last. -/
theorem artifactsOf_separate {config : Config} (apart : config.isBundle = false)
    (classes : Classes) :
    artifactsOf config classes =
      .ok (classes.flatMap (classFiles config) ++ [helpersFile config]) := by
  have files : classes.mapM (fun entry => classArtifacts config importHeader entry.1 entry.2) =
      .ok (classes.map (classFiles config)) := by
    refine mapM_ok_of_forall fun entry _ => ?_
    unfold classArtifacts
    rw [indexModule_eq]
    rfl
  unfold artifactsOf separateArtifacts
  rw [apart, fileHeader_eq, helpers_eq]
  exact bind_eq_ok_iff.mpr ⟨_, rfl, bind_eq_ok_iff.mpr ⟨_, files, rfl⟩⟩

/-- A bundle is one file with all classes in it. -/
theorem artifactsOf_bundle {config : Config} (bundle : config.isBundle = true)
    (classes : Classes) :
    artifactsOf config classes = .ok [⟨.ofString (config.bundleFile extension),
      importHeader ++ String.join (classes.map fun entry => entry.2 ++ "\n\n") ++
        (helpersFile config).content, .bundle⟩] := by
  unfold artifactsOf bundleArtifact
  rw [bundle, fileHeader_eq, helpers_eq]
  rfl

/-- Components are laid out through any case map as new generators would write their classes. -/
theorem outcome_assemble (config : Config) {map : CaseMap} (sound : map.WellFormed)
    (components : List Component) :
    (assemble config map components).outcome.1 =
      classesFrom (freshClass config) [] components >>= artifactsOf config := by
  obtain ⟨after, _, answers⟩ := answers_classesFrom config components sound []
  have laid := answers.bind fun found => Answers.lift (artifactsOf config found.1)
  have assembled : Answers (fun _ => True) (assemble config map components)
      (classesFrom (freshClass config) [] components >>= artifactsOf config) := by
    refine Eq.subst ?_ laid
    cases classesFrom (freshClass config) [] components <;> rfl
  exact (assembled.eq_from trivial).symm

/-- The class of a component with plain names, written out. -/
def plainEntry (config : Config) (component : Component) : String × String :=
  (classKey component, declaration config component)

/-- Components with plain names are laid out with their classes written out. -/
theorem outcome_assemble_plain (config : Config) {map : CaseMap} (sound : map.WellFormed)
    {components : List Component} (plain : ∀ component ∈ components, component.IsPlain) :
    (assemble config map components).outcome.1 =
      artifactsOf config ((newcomers classKey [] components).map (plainEntry config)) := by
  have written : (newcomers classKey [] components).mapM (classEntry config) =
      .ok ((newcomers classKey [] components).map (plainEntry config)) := by
    refine mapM_ok_of_forall fun component member => ?_
    have listed := List.mem_of_find?_eq_some (find?_of_mem_newcomers member).2
    have answers := answers_classText config component (plain component listed)
    rw [classEntry, freshClass, ← answers.eq_from Naming.wellFormed_empty]
    rfl
  rw [outcome_assemble config sound, classesFrom_start config fun component member =>
    (plain component member).isConvertible.name, written]
  rfl

/-- **Convertible components are rendered**, each class name once, and laid out as files. -/
theorem exists_assemble (config : Config) {components : List Component}
    (convertible : ∀ component ∈ components, component.IsConvertible) {map : CaseMap}
    (sound : map.WellFormed) :
    ∃ artifacts, (assemble config map components).outcome.1 = .ok artifacts := by
  obtain ⟨classes, rendered⟩ : ∃ classes,
      (newcomers classKey [] components).mapM (classEntry config) = .ok classes :=
    exists_mapM_ok fun component member => classEntry_eq_ok config <| convertible component <|
      List.mem_of_find?_eq_some (find?_of_mem_newcomers member).2
  rw [outcome_assemble config sound, classesFrom_start config fun component member =>
    (convertible component member).name, rendered]
  cases layout : config.isBundle with
  | true => exact ⟨_, artifactsOf_bundle layout _⟩
  | false => exact ⟨_, artifactsOf_separate layout _⟩

/-- A bundle is one file under the name of the bundle. -/
theorem eq_singleton_of_isBundle {config : Config} {components : List Component}
    {artifacts : List Artifact} (bundle : config.isBundle = true)
    (made : (assemble config .empty components).outcome.1 = .ok artifacts) :
    ∃ artifact, artifacts = [artifact] ∧ artifact.kind = .bundle ∧
      artifact.path = .ofString (config.bundleFile extension) := by
  rw [outcome_assemble config Naming.wellFormed_empty] at made
  obtain ⟨classes, _, laid⟩ := bind_eq_ok_iff.mp made
  rw [artifactsOf_bundle bundle] at laid
  obtain rfl := Except.ok.inj laid
  exact ⟨_, rfl, rfl, rfl⟩

/-- Every file of a build has one of the usual kinds. -/
theorem kind_ne_other {config : Config} {components : List Component} {artifacts : List Artifact}
    (made : (assemble config .empty components).outcome.1 = .ok artifacts) {artifact : Artifact}
    (member : artifact ∈ artifacts) (name : String) : artifact.kind ≠ .other name := by
  rw [outcome_assemble config Naming.wellFormed_empty] at made
  obtain ⟨classes, _, laid⟩ := bind_eq_ok_iff.mp made
  cases layout : config.isBundle with
  | true =>
      rw [artifactsOf_bundle layout] at laid
      obtain rfl := Except.ok.inj laid
      rw [List.mem_singleton.mp member]
      exact nofun
  | false =>
      rw [artifactsOf_separate layout] at laid
      obtain rfl := Except.ok.inj laid
      rcases List.mem_append.mp member with inside | last
      · obtain ⟨entry, _, file⟩ := List.mem_flatMap.mp inside
        rcases List.mem_pair.mp file with rfl | rfl <;> exact nofun
      · rw [List.mem_singleton.mp last]
        exact nofun

end Layout
end ElementWrap
