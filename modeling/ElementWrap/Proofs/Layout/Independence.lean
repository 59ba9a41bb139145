import ElementWrap.Proofs.Component.Conversion
import ElementWrap.Proofs.Layout.Artifacts
import ElementWrap.Proofs.Layout.Generation

/-! # Elements are generated independently

In the layout that gives every class a directory, the files of an element are the ones that it gets
when it is generated alone. Which other elements are asked for, how often and in what order shows
only in which files there are and how they are ordered (`ElementWrap.Layout.generate_elements`).
-/

namespace ElementWrap

namespace Analysis

/-- A component has the name that it was asked for by. -/
theorem name_of_component {analysis : Analysis} {name : Value} {component : Component}
    (found : analysis.component name = .ok component) : component.name = name := by
  obtain ⟨record, _, converted⟩ := bind_eq_ok_iff.mp found
  exact (Component.ofRecord_eq_ok_iff.mp converted).2.2.1

/-- Components stand for the names that they were asked for by, in the same order. -/
theorem found_of_components {analysis : Analysis} {names : List String}
    {components : List Component}
    (converted : analysis.components (names.map .text) = .ok components) :
    List.Forall₂ (fun name component => component.name = .text name ∧
      analysis.component (.text name) = .ok component) names components := by
  have found := List.forall₂_map_left_iff.mp (mapM_eq_ok_iff.mp converted)
  exact found.imp fun name component met => ⟨name_of_component met, met⟩

/-- Names that are asked for are taken as they are. -/
theorem selectNames_texts (analysis : Analysis) {names : List String} (asked : names ≠ []) :
    (analysis.selectNames (.list (names.map .text))).outcome.1 = .ok (names.map .text) := by
  obtain ⟨name, rest, rfl⟩ := List.exists_cons_of_ne_nil asked
  rfl

end Analysis

namespace Layout

open Log Wrapper Naming

/-- The files that an element gets when it is generated alone, without that of the helpers. -/
def ownFiles (config : Config) (analysis : Analysis) (name : String) : List Artifact :=
  match (generate config analysis (.list [.text name])).outcome.1 with
  | .ok alone => alone.artifacts.filter fun file => file.kind ≠ .helpers
  | .error _ => []

/-- A component that has a class is generated alone as the files of this class and of the
helpers. -/
theorem generateThrough_alone {config : Config} (apart : config.isBundle = false) {map : CaseMap}
    (sound : map.WellFormed) {analysis : Analysis} {name : String} {component : Component}
    (found : analysis.component (.text name) = .ok component) {entry : String × String}
    (made : classEntry config component = .ok entry) :
    ∃ alone, (generateThrough config map analysis (.list [.text name])).outcome.1 = .ok alone ∧
      alone.artifacts = classFiles config entry ++ [helpersFile config] := by
  have named : ∀ other ∈ [component], ∃ s, other.name = .text s :=
    List.forall_mem_singleton.mpr ⟨name, Analysis.name_of_component found⟩
  have noName : ∀ s, ([] : List Value).any (·.same (.text s)) = true ↔ s ∈ ([] : List String) :=
    fun s => iff_of_false Bool.false_ne_true List.not_mem_nil
  have converted : analysis.components [.text name] = .ok [component] :=
    mapM_eq_ok_iff.mpr (.cons found .nil)
  obtain ⟨messages, warned, _⟩ := repeats_warningsFrom noName named
  have classes : (newcomers classKey [] [component]).mapM (classEntry config) = .ok [entry] :=
    mapM_eq_ok_iff.mpr (.cons made .nil)
  have rendered : (assemble config map [component]).outcome.1 =
      .ok (classFiles config entry ++ [helpersFile config]) := by
    rw [outcome_assemble config sound, classesFrom_start config named, classes]
    change artifactsOf config [entry] = _
    rw [artifactsOf_separate apart, List.flatMap_singleton]
  exact ⟨_, generateThrough_ok_iff.mpr ⟨_, _, _, _, analysis.selectNames_texts
    (List.cons_ne_nil name []), converted, warned, rendered, rfl⟩, rfl⟩

private theorem ownFiles_eq {config : Config} (apart : config.isBundle = false)
    {analysis : Analysis}
    {name : String} {component : Component}
    (found : analysis.component (.text name) = .ok component) {entry : String × String}
    (made : classEntry config component = .ok entry) :
    ownFiles config analysis name = classFiles config entry := by
  obtain ⟨alone, generated, files⟩ := generateThrough_alone apart wellFormed_empty found made
  unfold ownFiles generate
  rw [generated]
  simp only [files]
  rfl

/-- The classes of components have the files that the components get alone. -/
theorem flatMap_classFiles {config : Config} (apart : config.isBundle = false)
    {analysis : Analysis} {components : List Component}
    (found : ∀ component ∈ components, ∃ name, component.name = .text name ∧
      analysis.component (.text name) = .ok component) {classes : Classes}
    (made : List.Forall₂ (fun component entry => classEntry config component = .ok entry)
      components classes) :
    classes.flatMap (classFiles config) =
      (components.map (·.name.display)).flatMap (ownFiles config analysis) := by
  induction made with
  | nil => rfl
  | @cons component entry rest later entryMade _ ih =>
      obtain ⟨name, same, met⟩ := found component List.mem_cons_self
      have display : component.name.display = name := by rw [same]; rfl
      rw [List.flatMap_cons, List.map_cons, List.flatMap_cons, display,
        ownFiles_eq apart met entryMade]
      rw [ih fun other member => found other (List.mem_cons_of_mem component member)]

/-- **Elements do not show in each other's files.** Let elements be asked for by name and generated,
each class in a directory of its own, by a generator that may have been used before. The files are
those that each distinct name has when it is generated alone, a module and an index, in the order in
which the names occur first, and that of the helpers, once. Through whichever generator a name is
generated alone, it has the same files and helpers. -/
theorem generate_elements {config : Config} (apart : config.isBundle = false) {map : CaseMap}
    (sound : map.WellFormed) {analysis : Analysis} {names : List String} (asked : names ≠ [])
    (elements : ∀ name ∈ names, IsElementName name) {generated : Outcome Artifact Fault}
    (made : (generateThrough config map analysis (.list (names.map .text))).outcome.1 =
      .ok generated) :
    ∃ helpers : Artifact, helpers.kind = .helpers ∧
      generated.artifacts = names.eraseDups.flatMap (ownFiles config analysis) ++ [helpers] ∧
      ∀ name ∈ names, ∃ own index : Artifact,
        own.kind = .component ∧ index.kind = .index ∧
        ownFiles config analysis name = [own, index] ∧
        ∀ other : CaseMap, other.WellFormed → ∃ alone,
          (generateThrough config other analysis (.list [.text name])).outcome.1 = .ok alone ∧
          alone.artifacts = [own, index, helpers] := by
  obtain ⟨_, components, _, artifacts, selected, converted, _, rendered, rfl⟩ :=
    generateThrough_ok_iff.mp made
  obtain rfl := Except.ok.inj ((analysis.selectNames_texts asked).symm.trans selected)
  have found := Analysis.found_of_components converted
  have displays : components.map (·.name.display) = names := by
    refine Eq.symm (List.forall₂_eq_eq_eq ▸ List.forall₂_map_right_iff.mpr ?_)
    exact found.imp fun name component met => by rw [met.1]; rfl
  have isElement : ∀ component ∈ components, component.IsElement := by
    intro component member
    obtain ⟨name, present, named, _⟩ := exists_mem_of_forall₂ found.flip member
    exact ⟨name, named, elements name present⟩
  rw [outcome_assemble config sound, classesFrom_start config fun component member =>
    (isElement component member).imp fun _ element => element.1,
    newcomers_classKey isElement] at rendered
  obtain ⟨classes, taken, laid⟩ := bind_eq_ok_iff.mp rendered
  rw [artifactsOf_separate apart] at laid
  obtain rfl := Except.ok.inj laid
  have firsts := mapM_eq_ok_iff.mp taken
  have distinct : (newcomers (fun component => component.name.display) [] components).map
      (·.name.display) = names.eraseDups := by
    rw [map_newcomers, displays, List.filter_eq_self.mpr fun _ _ => decide_eq_true List.not_mem_nil]
  have own : ∀ component ∈ newcomers (fun component => component.name.display) [] components,
      ∃ name, component.name = .text name ∧ analysis.component (.text name) = .ok component := by
    intro component member
    obtain ⟨name, _, met⟩ := exists_mem_of_forall₂ found.flip
      (List.mem_of_find?_eq_some (find?_of_mem_newcomers member).2)
    exact ⟨name, met⟩
  refine ⟨helpersFile config, rfl, ?_, ?_⟩
  · rw [flatMap_classFiles apart own firsts, distinct]
  · intro name present
    rw [← List.mem_eraseDups, ← distinct] at present
    obtain ⟨component, first, rfl⟩ := List.mem_map.mp present
    obtain ⟨name, same, met⟩ := own component first
    obtain ⟨entry, _, entryMade⟩ := exists_mem_of_forall₂ firsts first
    rw [same]
    exact ⟨_, _, rfl, rfl, ownFiles_eq apart met entryMade, fun other otherSound =>
      generateThrough_alone apart otherSound met entryMade⟩

/-- The record of an element with a name. -/
def pairRecord (name : String) : Value := .object [("tagName", .text name)]

/-- An analysis of two elements. -/
def pairAnalysis : Analysis := ⟨[("elements", .list [pairRecord "x-a", pairRecord "x-b"])]⟩

private theorem component_pairAnalysis {name : String} (listed : name ∈ ["x-a", "x-b"]) :
    pairAnalysis.component (.text name) = .ok { name := .text name } := by
  have last : Analysis.collect "elements" [] = .ok [] := by rw [Analysis.collect]
  have collected : Analysis.collect Analysis.FeatureKind.element.key [pairAnalysis.document] =
      .ok [pairRecord "x-a", pairRecord "x-b"] := by
    change Analysis.collect "elements" _ = _
    rw [Analysis.collect]
    change (Analysis.collect "elements" [] >>= fun rest =>
      pure ([pairRecord "x-a", pairRecord "x-b"] ++ rest)) = _
    rw [last]
    rfl
  unfold Analysis.component Analysis.recordOf Analysis.features
  rw [collected]
  rcases List.mem_pair.mp listed with rfl | rfl
  · rfl
  · rfl

/-- Of two elements, one of which is asked for twice, both have their own files. -/
theorem generate_elements_pair :
    ∃ generated helpers,
      (generateThrough {} .empty pairAnalysis
        (.list (["x-b", "x-a", "x-b"].map .text))).outcome.1 = .ok generated ∧
      generated.artifacts =
        ownFiles {} pairAnalysis "x-b" ++ ownFiles {} pairAnalysis "x-a" ++ [helpers] ∧
      (ownFiles {} pairAnalysis "x-a").map (·.kind) = [.component, .index] := by
  have asked : ["x-b", "x-a", "x-b"] ≠ [] := List.cons_ne_nil _ _
  have listed : ∀ name ∈ ["x-b", "x-a", "x-b"], name ∈ ["x-a", "x-b"] := by decide
  have elements : ∀ name ∈ ["x-b", "x-a", "x-b"], IsElementName name := by decide
  have converted : pairAnalysis.components (["x-b", "x-a", "x-b"].map .text) =
      .ok (["x-b", "x-a", "x-b"].map fun name => { name := .text name }) := by
    refine mapM_eq_ok_iff.mpr (List.forall₂_map_left_iff.mpr (List.forall₂_map_right_iff.mpr ?_))
    exact List.forall₂_same.mpr fun name member => component_pairAnalysis (listed name member)
  have convertible : ∀ component ∈ ["x-b", "x-a", "x-b"].map fun name =>
      ({ name := .text name } : Component), component.IsConvertible := by
    intro component member
    obtain ⟨name, _, rfl⟩ := List.mem_map.mp member
    exact ⟨⟨name, rfl⟩, fun _ member => absurd member List.not_mem_nil⟩
  obtain ⟨artifacts, rendered⟩ := exists_assemble {} convertible wellFormed_empty
  have made := generateThrough_ok_iff.mpr
    ⟨_, _, _, _, pairAnalysis.selectNames_texts asked, converted, rfl, rendered, rfl⟩
  obtain ⟨helpers, _, files, each⟩ := generate_elements rfl wellFormed_empty asked elements made
  obtain ⟨own, index, isOwn, isIndex, alone, _⟩ := each "x-a" (by decide)
  have distinct : ["x-b", "x-a", "x-b"].eraseDups = ["x-b", "x-a"] := by decide
  rw [distinct, List.flatMap_cons, List.flatMap_singleton] at files
  exact ⟨_, helpers, made, files, by rw [alone, List.map_cons, List.map_singleton, isOwn, isIndex]⟩

end Layout

end ElementWrap
