import ElementWrap.Proofs.Analysis.Selection
import ElementWrap.Proofs.Layout.Independence

/-! # Collecting the components of names

What a name comes to is a matter of this name alone: it is unknown, or several elements share it, or
it is converted from the one element that has it (`ElementWrap.Analysis.component_eq_iff`). The
components of a list of names are collected in order, and the first name that comes to a failure is
the failure of all (`ElementWrap.Analysis.components_of_names`).
-/

namespace ElementWrap.Analysis

/-- An element stands at the only place of a document where a tag name is met. -/
def IsSole (analysis : Analysis) (name : String) (element : Value) : Prop :=
  ∃ place, featureAt FeatureKind.element.key analysis.document place = some element ∧
    element.label? FeatureKind.element.identifier = some name ∧
    ∀ other, analysis.IsTagged other name → other = place

/-- What a name comes to. -/
inductive Yields (analysis : Analysis) (name : String) : Except Fault Component → Prop
  | unknown (missing : ¬ ∃ place, analysis.IsTagged place name) :
      Yields analysis name (.error (.notFound (.text name)))
  | shared (several : analysis.IsShared name) :
      Yields analysis name (.error (.ambiguous (.text name)))
  | sole {element : Value} (only : analysis.IsSole name element) :
      Yields analysis name (Component.ofRecord element (.text name))

/-- A name belongs to a single element, and this element is converted to a component. -/
def Gives (analysis : Analysis) (name : String) (component : Component) : Prop :=
  ∃ element, analysis.IsSole name element ∧
    Component.ofRecord element (.text name) = .ok component

variable {analysis : Analysis}

/-! ## One name -/

private theorem mem_preorder_iff {key : String} {scope feature : Value} :
    feature ∈ preorder key scope ↔ ∃ place, featureAt key scope place = some feature := by
  obtain ⟨located, listing⟩ := exists_isListing key scope
  rw [← listing.features, List.mem_map]
  constructor
  · rintro ⟨⟨place, _⟩, member, rfl⟩
    exact ⟨place, (listing.complete place _).mp member⟩
  · rintro ⟨place, there⟩
    exact ⟨_, (listing.complete place feature).mpr there, rfl⟩

private theorem isSole_iff {name : String} {element : Value} :
    analysis.IsSole name element ↔
      (element, name) ∈ analysis.taggedElements ∧ ¬ analysis.IsShared name := by
  rw [mem_taggedElements_iff, mem_preorder_iff]
  constructor
  · rintro ⟨place, there, labelled, only⟩
    refine ⟨⟨⟨place, there⟩, labelled⟩, ?_⟩
    rintro ⟨first, second, different, tagged, again⟩
    exact different ((only first tagged).trans (only second again).symm)
  · rintro ⟨⟨⟨place, there⟩, labelled⟩, single⟩
    refine ⟨place, there, labelled, fun other tagged => ?_⟩
    by_contra different
    exact single ⟨other, place, different, tagged, element, there, labelled⟩

private theorem recordOf_unknown (wellFormed : analysis.IsWellFormed) {name : String}
    (given : name ≠ "")
    (missing : name ∉ analysis.tags) :
    analysis.recordOf (.text name) = .error (.notFound (.text name)) := by
  have none : analysis.bearers name = [] := by
    rw [← List.length_eq_zero_iff, length_bearers]
    exact List.count_eq_zero_of_not_mem missing
  unfold recordOf
  rw [features_eq_bearers wellFormed given, none]
  rfl

private theorem component_eq_of_yields (wellFormed : analysis.IsWellFormed) {name : String}
    (given : name ≠ "") {outcome : Except Fault Component}
    (yields : analysis.Yields name outcome) : analysis.component (.text name) = outcome := by
  cases yields with
  | unknown missing =>
      unfold component
      rw [recordOf_unknown wellFormed given (mt mem_tags_iff_isTagged.mp missing)]
      rfl
  | shared several => exact component_shared wellFormed (one_lt_count_tags_iff.mpr several)
  | sole only =>
      obtain ⟨member, single⟩ := isSole_iff.mp only
      refine component_single wellFormed member (Nat.le_of_not_lt ?_)
      exact mt one_lt_count_tags_iff.mp single

private theorem yields_component (wellFormed : analysis.IsWellFormed) {name : String}
    (given : name ≠ "") : analysis.Yields name (analysis.component (.text name)) := by
  by_cases listed : name ∈ analysis.tags
  · rcases component_cases wellFormed listed with ⟨several, same⟩ | ⟨single, element, has, same⟩
    · rw [same]
      exact .shared (one_lt_count_tags_iff.mp several)
    · rw [same]
      exact .sole (isSole_iff.mpr ⟨has, mt one_lt_count_tags_iff.mpr single⟩)
  · have missing := mt mem_tags_iff_isTagged.mpr listed
    rw [component_eq_of_yields wellFormed given (.unknown missing)]
    exact .unknown missing

/-- A name has exactly one outcome. -/
theorem component_eq_iff (wellFormed : analysis.IsWellFormed) {name : String} (given : name ≠ "")
    {outcome : Except Fault Component} :
    analysis.component (.text name) = outcome ↔ analysis.Yields name outcome := by
  constructor
  · rintro rfl
    exact yields_component wellFormed given
  · exact component_eq_of_yields wellFormed given

private theorem component_eq_ok_iff (wellFormed : analysis.IsWellFormed) {name : String}
    (given : name ≠ "") {component : Component} :
    analysis.component (.text name) = .ok component ↔ analysis.Gives name component := by
  rw [component_eq_iff wellFormed given]
  constructor
  · intro yields
    generalize came : Except.ok component = outcome at yields
    cases yields with
    | unknown => exact nomatch came
    | shared => exact nomatch came
    | sole only => exact ⟨_, only, came.symm⟩
  · rintro ⟨element, only, converted⟩
    rw [← converted]
    exact .sole only

/-! ## All names -/

private theorem components_texts (analysis : Analysis) (names : List String) :
    analysis.components (names.map .text) =
      names.mapM fun name => analysis.component (.text name) :=
  List.mapM_map

/-- **Collecting components.** In a document of elements with at most texts as tag names, names are
collected to components exactly if each of them belongs to a single element that is converted. The
components then have these names, in order and with repeats, and each is that of the element. If
they are not, the failure is what the first name that gives no component comes to, whatever the
names behind it are. -/
theorem components_of_names (wellFormed : analysis.IsWellFormed) {names : List String}
    (given : ∀ name ∈ names, name ≠ "") :
    ((∃ components, analysis.components (names.map .text) = .ok components) ↔
      ∀ name ∈ names, ∃ component, analysis.Gives name component) ∧
    (∀ components, analysis.components (names.map .text) = .ok components →
      components.map (·.name) = names.map .text ∧
      List.Forall₂ analysis.Gives names components) ∧
    (∀ fault, analysis.components (names.map .text) = .error fault ↔
      ∃ before name after, names = before ++ name :: after ∧
        (∀ earlier ∈ before, ∃ component, analysis.Gives earlier component) ∧
        analysis.Yields name (.error fault)) := by
  have settles : ∀ name ∈ names, ∀ component,
      analysis.component (.text name) = .ok component ↔ analysis.Gives name component :=
    fun name member _ => component_eq_ok_iff wellFormed (given name member)
  refine ⟨⟨?_, fun each => ?_⟩, fun components collected => ?_, fun fault => ?_⟩
  · rintro ⟨components, collected⟩ name member
    rw [components_texts] at collected
    obtain ⟨component, _, made⟩ := exists_mem_of_forall₂ (mapM_eq_ok_iff.mp collected) member
    exact ⟨component, (settles name member component).mp made⟩
  · rw [components_texts]
    refine exists_mapM_ok fun name member => ?_
    obtain ⟨component, gives⟩ := each name member
    exact ⟨component, (settles name member component).mpr gives⟩
  · have found := found_of_components collected
    constructor
    · rw [← List.forall₂_eq_eq_eq, List.forall₂_map_left_iff, List.forall₂_map_right_iff]
      exact (found.imp fun _ _ met => met.1).flip
    · refine (forall₂_mem_left found).imp fun name component ⟨member, _, made⟩ => ?_
      exact (settles name member component).mp made
  · rw [components_texts, mapM_error_iff]
    refine exists₃_congr fun before name after => and_congr_right ?_
    rintro rfl
    have failing := given name (List.mem_append_right before List.mem_cons_self)
    refine and_congr (forall₂_congr fun earlier member => exists_congr fun component => ?_) ?_
    · exact settles earlier (List.mem_append_left _ member) component
    · exact component_eq_iff wellFormed failing

private theorem tags_nestedAnalysis : nestedAnalysis.tags = ["x-c", "x-b", "x-a", "x-a"] := by
  unfold tags
  rw [taggedElements_nestedAnalysis]
  rfl

/-- Of the nested analysis the names that belong to one element are collected in any order and with
repeats. An unknown name fails before the ambiguous one behind it, and the other way round. -/
theorem components_of_names_nested :
    (∃ components, nestedAnalysis.components (["x-b", "x-c", "x-b"].map .text) = .ok components ∧
      components.map (·.name) = ["x-b", "x-c", "x-b"].map .text) ∧
    nestedAnalysis.components (["x-b", "x-z", "x-a"].map .text) =
      .error (.notFound (.text "x-z")) ∧
    nestedAnalysis.components (["x-b", "x-a", "x-z"].map .text) =
      .error (.ambiguous (.text "x-a")) := by
  have labelled (name : String) : IsElementRecord (tagged name) := ⟨⟨_, rfl⟩, .inr ⟨name, rfl⟩⟩
  have wellFormed : nestedAnalysis.IsWellFormed :=
    isScope_nestedAnalysis labelled ⟨⟨_, rfl⟩, .inl rfl⟩
  have gives : ∀ name ∈ ["x-b", "x-c"], nestedAnalysis.Gives name { name := .text name } := by
    intro name listed
    have single : nestedAnalysis.tags.count name ≤ 1 := by
      rw [tags_nestedAnalysis]
      exact (by decide : ∀ name ∈ ["x-b", "x-c"], ["x-c", "x-b", "x-a", "x-a"].count name ≤ 1) _
        listed
    have known : name ∈ ["x-c", "x-b", "x-a", "x-a"] :=
      (by decide : ["x-b", "x-c"] ⊆ ["x-c", "x-b", "x-a", "x-a"]) listed
    have full : name ≠ "" := (by decide : ∀ name ∈ ["x-b", "x-c"], name ≠ "") name listed
    refine ⟨tagged name, isSole_iff.mpr ⟨?_, ?_⟩, Component.ofRecord_eq_ok_iff.mpr
      ⟨bne_iff_ne.mpr full, ⟨_, rfl⟩, rfl, rfl, rfl, rfl⟩⟩
    · rw [taggedElements_nestedAnalysis]
      exact List.mem_map_of_mem known
    · exact mt one_lt_count_tags_iff.mpr (Nat.not_lt_of_le single)
  have found : ∀ earlier ∈ ["x-b"], ∃ component, nestedAnalysis.Gives earlier component := by
    rintro name listed
    exact ⟨_, gives name (List.mem_singleton.mp listed ▸ List.mem_cons_self)⟩
  have unknown : nestedAnalysis.Yields "x-z" (.error (.notFound (.text "x-z"))) := by
    refine .unknown (mt mem_tags_iff_isTagged.mpr ?_)
    rw [tags_nestedAnalysis]
    decide
  have shared : nestedAnalysis.Yields "x-a" (.error (.ambiguous (.text "x-a"))) := by
    refine .shared (one_lt_count_tags_iff.mp ?_)
    rw [tags_nestedAnalysis]
    decide
  refine ⟨?_, ?_, ?_⟩
  · obtain ⟨collected, named, _⟩ :=
      @components_of_names nestedAnalysis wellFormed ["x-b", "x-c", "x-b"] (by decide)
    obtain ⟨components, made⟩ := collected.mpr fun name listed =>
      ⟨_, gives name ((by decide : ["x-b", "x-c", "x-b"] ⊆ ["x-b", "x-c"]) listed)⟩
    exact ⟨components, made, (named components made).1⟩
  · obtain ⟨_, _, failing⟩ :=
      @components_of_names nestedAnalysis wellFormed ["x-b", "x-z", "x-a"] (by decide)
    exact (failing _).mpr ⟨["x-b"], "x-z", ["x-a"], rfl, found, unknown⟩
  · obtain ⟨_, _, failing⟩ :=
      @components_of_names nestedAnalysis wellFormed ["x-b", "x-a", "x-z"] (by decide)
    exact (failing _).mpr ⟨["x-b"], "x-a", ["x-z"], rfl, found, shared⟩

end ElementWrap.Analysis
