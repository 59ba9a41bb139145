import ElementWrap.Analysis.Selection
import ElementWrap.Proofs.Analysis.Traversal
import ElementWrap.Proofs.Component.Conversion

/-! # Selecting every element

Where no names are asked for, every element with a tag name is selected, and the names that are
listed are then looked up again one by one. Each of them is found. The selection fails only if some
name stands for several elements, and then over the first listed name that does
(`ElementWrap.Analysis.default_selection`).
-/

namespace ElementWrap.Analysis

/-- The record of an element: an object with at most a text as its tag name. -/
abbrev IsElementRecord (record : Value) : Prop :=
  record.IsLabelled FeatureKind.element.identifier

/-- The scopes of a document list the records of elements. -/
abbrev IsWellFormed (analysis : Analysis) : Prop :=
  IsScope FeatureKind.element.key IsElementRecord analysis.document

/-- The elements that have a tag name, each with its name, in document order. -/
def taggedElements (analysis : Analysis) : List (Value × String) :=
  (preorder FeatureKind.element.key analysis.document).filterMap fun element =>
    (element.label? FeatureKind.element.identifier).map fun name => (element, name)

/-- The tag names of a document, one for each element that has one. -/
def tags (analysis : Analysis) : List String := analysis.taggedElements.map Prod.snd

/-- At a place of a document stands an element with a tag name. -/
def IsTagged (analysis : Analysis) (place : Place) (name : String) : Prop :=
  ∃ element, featureAt FeatureKind.element.key analysis.document place = some element ∧
    element.label? FeatureKind.element.identifier = some name

/-- Two elements of a document, at whatever places, share a tag name. -/
def IsShared (analysis : Analysis) (name : String) : Prop :=
  ∃ place other, place ≠ other ∧ analysis.IsTagged place name ∧ analysis.IsTagged other name

variable {analysis : Analysis}

/-- The tagged elements are the elements of the document in pre-order that have the name. -/
theorem mem_taggedElements_iff {element : Value} {name : String} :
    (element, name) ∈ analysis.taggedElements ↔
      element ∈ preorder FeatureKind.element.key analysis.document ∧
        element.label? FeatureKind.element.identifier = some name := by
  unfold taggedElements
  rw [List.mem_filterMap]
  constructor
  · rintro ⟨other, member, made⟩
    obtain ⟨label, labelled, same⟩ := Option.map_eq_some_iff.mp made
    cases same
    exact ⟨member, labelled⟩
  · rintro ⟨member, labelled⟩
    exact ⟨element, member, by rw [labelled]; rfl⟩

private theorem mem_tags_iff {name : String} :
    name ∈ analysis.tags ↔ ∃ element, (element, name) ∈ analysis.taggedElements := by
  unfold tags
  rw [List.mem_map]
  constructor
  · rintro ⟨⟨element, _⟩, member, rfl⟩
    exact ⟨element, member⟩
  · rintro ⟨element, member⟩
    exact ⟨(element, name), member, rfl⟩

private theorem ne_empty_of_mem_tags {name : String} (listed : name ∈ analysis.tags) :
    name ≠ "" := by
  obtain ⟨element, member⟩ := mem_tags_iff.mp listed
  exact (Value.label?_eq_some_iff.mp (mem_taggedElements_iff.mp member).2).2

/-! ## Names and places -/

private theorem tags_eq : analysis.tags =
    (preorder FeatureKind.element.key analysis.document).filterMap
      (·.label? FeatureKind.element.identifier) := by
  unfold tags taggedElements
  rw [List.map_filterMap]
  refine List.filterMap_congr fun element _ => ?_
  rw [Option.map_map]
  exact congrFun Option.map_id _

/-- A name is among the tags exactly if an element at some place has it. -/
theorem mem_tags_iff_isTagged {name : String} :
    name ∈ analysis.tags ↔ ∃ place, analysis.IsTagged place name := by
  obtain ⟨located, listing⟩ := exists_isListing FeatureKind.element.key analysis.document
  rw [tags_eq, ← listing.features, List.mem_filterMap]
  constructor
  · rintro ⟨element, member, labelled⟩
    obtain ⟨⟨place, _⟩, present, rfl⟩ := List.mem_map.mp member
    exact ⟨place, _, (listing.complete place _).mp present, labelled⟩
  · rintro ⟨place, element, there, labelled⟩
    have present := (listing.complete place element).mpr there
    exact ⟨element, List.mem_map.mpr ⟨_, present, rfl⟩, labelled⟩

/-- A name is listed several times exactly if two elements share it. -/
theorem one_lt_count_tags_iff {name : String} :
    1 < analysis.tags.count name ↔ analysis.IsShared name := by
  obtain ⟨located, listing⟩ := exists_isListing FeatureKind.element.key analysis.document
  have distinct : located.Nodup :=
    listing.ordered.imp fun before same => before.ne (congrArg _ same)
  rw [tags_eq, List.count_filterMap, ← listing.features, List.countP_map,
    one_lt_countP_iff distinct]
  constructor
  · rintro ⟨⟨place, element⟩, first, ⟨other, rival⟩, second, different, named, alike⟩
    have there := (listing.complete place element).mp first
    have beside := (listing.complete other rival).mp second
    refine ⟨place, other, ?_, ⟨element, there, beq_iff_eq.mp named⟩, rival, beside,
      beq_iff_eq.mp alike⟩
    rintro rfl
    exact different (congrArg _ (Option.some.inj (there.symm.trans beside)))
  · rintro ⟨place, other, different, ⟨element, there, named⟩, rival, beside, alike⟩
    refine ⟨(place, element), (listing.complete _ _).mpr there, (other, rival),
      (listing.complete _ _).mpr beside, ?_, beq_iff_eq.mpr named, beq_iff_eq.mpr alike⟩
    intro same
    exact different (congrArg Prod.fst same)

private theorem tags_ne_nil_iff :
    analysis.tags ≠ [] ↔ ∃ place name, analysis.IsTagged place name := by
  constructor
  · intro some
    obtain ⟨name, listed⟩ := List.exists_mem_of_ne_nil _ some
    obtain ⟨place, there⟩ := mem_tags_iff_isTagged.mp listed
    exact ⟨place, name, there⟩
  · rintro ⟨place, name, there⟩
    exact List.ne_nil_of_mem (mem_tags_iff_isTagged.mpr ⟨place, there⟩)

/-- The first listed name that is listed more than once. -/
def firstRepeated? (analysis : Analysis) : Option String :=
  analysis.tags.find? fun name => 1 < analysis.tags.count name

private theorem exists_firstRepeated_iff :
    (∃ first, analysis.firstRepeated? = some first) ↔ ∃ name, analysis.IsShared name := by
  unfold firstRepeated?
  rw [← Option.isSome_iff_exists, List.find?_isSome]
  constructor
  · rintro ⟨name, _, repeated⟩
    exact ⟨name, one_lt_count_tags_iff.mp (by simpa using repeated)⟩
  · rintro ⟨name, shared⟩
    have repeated := one_lt_count_tags_iff.mpr shared
    exact ⟨name, List.count_pos_iff.mp (Nat.lt_of_succ_lt repeated), by simpa using repeated⟩

/-! ## Listing -/

private theorem tagNames_eq (wellFormed : analysis.IsWellFormed) :
    analysis.tagNames = .ok (analysis.tags.map .text) := by
  have labelled : ∀ element ∈ preorder FeatureKind.element.key analysis.document,
      IsElementRecord element := fun _ member => fit_of_mem_preorder wellFormed member
  have read : (preorder FeatureKind.element.key analysis.document).mapM
      (·.field FeatureKind.element.identifier) = Except.ok _ :=
    mapM_ok_of_forall fun element member =>
      (labelled element member).isObject.field FeatureKind.element.identifier
  unfold tagNames
  rw [features_null wellFormed, tags_eq, ← Value.filter_truthy_parts labelled]
  simp only [bind, Except.bind, read]
  rfl

/-- Without names to go by, the names of all elements are listed, if there are any. -/
theorem selectNames_default (wellFormed : analysis.IsWellFormed) {requested : Value}
    (unasked : requested.truthy = false) :
    (analysis.selectNames requested).outcome.1 =
      if analysis.tags = [] then .error .emptySelection else .ok (analysis.tags.map .text) := by
  unfold selectNames
  rw [unasked, tagNames_eq wellFormed]
  cases analysis.tags with
  | nil => rfl
  | cons name rest => rfl

/-! ## Looking up -/

/-- The elements that a tag name stands for. -/
def bearers (analysis : Analysis) (name : String) : List Value :=
  (analysis.taggedElements.filter fun entry => entry.2 == name).map Prod.fst

/-- A name has as many bearers as it stands among the tags. -/
theorem length_bearers (name : String) :
    (analysis.bearers name).length = analysis.tags.count name := by
  unfold bearers tags
  rw [List.length_map, List.count_eq_countP, List.countP_map, List.countP_eq_length_filter]
  rfl

/-- The elements that are found for a name are its bearers. -/
theorem features_eq_bearers (wellFormed : analysis.IsWellFormed) {name : String}
    (given : name ≠ "") :
    analysis.features .element (.text name) = .ok (analysis.bearers name) := by
  rw [features_identified wellFormed (fun _ record => record.isObject) Value.noConfusion]
  unfold bearers taggedElements
  rw [List.filter_filterMap, List.map_filterMap, ← List.filterMap_eq_filter]
  refine congrArg _ (List.filterMap_congr fun element _ => ?_)
  by_cases found : element.part FeatureKind.element.identifier = .text name
  · have passes := Value.equal_text_iff.mpr found
    rw [Value.label?_eq_some_iff.mpr ⟨found, given⟩, Option.map_some, Option.filter_some,
      if_pos (beq_self_eq_true name), Option.map_some, Option.guard, if_pos passes]
  · rw [Option.guard, if_neg (mt Value.equal_text_iff.mp found)]
    cases label : element.label? FeatureKind.element.identifier with
    | none => rfl
    | some other =>
        have different : ¬ (other == name) = true := by
          intro same
          rw [← beq_iff_eq.mp same] at found
          exact found (Value.label?_eq_some_iff.mp label).1
        rw [Option.map_some, Option.filter_some, if_neg different, Option.map_none]

private theorem recordOf_shared (wellFormed : analysis.IsWellFormed) {name : String}
    (shared : 1 < analysis.tags.count name) :
    analysis.recordOf (.text name) = .error (.ambiguous (.text name)) := by
  have listed : name ∈ analysis.tags := List.count_pos_iff.mp (Nat.lt_of_succ_lt shared)
  unfold recordOf
  rw [features_eq_bearers wellFormed (ne_empty_of_mem_tags listed)]
  rw [← length_bearers] at shared
  match analysis.bearers name, shared with
  | _ :: _ :: _, _ => rfl

private theorem recordOf_single (wellFormed : analysis.IsWellFormed) {element : Value}
    {name : String}
    (member : (element, name) ∈ analysis.taggedElements)
    (single : analysis.tags.count name ≤ 1) :
    analysis.recordOf (.text name) = .ok element := by
  have listed : name ∈ analysis.tags := mem_tags_iff.mpr ⟨element, member⟩
  have bears : element ∈ analysis.bearers name :=
    List.mem_map.mpr ⟨_, List.mem_filter.mpr ⟨member, beq_self_eq_true name⟩, rfl⟩
  unfold recordOf
  rw [features_eq_bearers wellFormed (ne_empty_of_mem_tags listed)]
  rw [← length_bearers] at single
  match analysis.bearers name, single, bears with
  | [found], _, bears =>
      obtain rfl := List.mem_singleton.mp bears
      rfl

/-! ## Selecting -/

/-- The elements of a document can be converted, each by itself under its tag name. -/
def Converts (analysis : Analysis) : Prop :=
  ∀ element name, (element, name) ∈ analysis.taggedElements →
    ∃ component, Component.ofRecord element (.text name) = .ok component

/-- A name that several elements have has no component. -/
theorem component_shared (wellFormed : analysis.IsWellFormed) {name : String}
    (shared : 1 < analysis.tags.count name) :
    analysis.component (.text name) = .error (.ambiguous (.text name)) := by
  unfold component
  rw [recordOf_shared wellFormed shared]
  rfl

/-- A name that one element has stands for the component of that element. -/
theorem component_single (wellFormed : analysis.IsWellFormed) {element : Value} {name : String}
    (member : (element, name) ∈ analysis.taggedElements)
    (single : analysis.tags.count name ≤ 1) :
    analysis.component (.text name) = Component.ofRecord element (.text name) := by
  unfold component
  rw [recordOf_single wellFormed member single]
  rfl

/-- A listed name stands for several elements, or its component is that of its element. -/
theorem component_cases (wellFormed : analysis.IsWellFormed) {name : String}
    (listed : name ∈ analysis.tags) :
    1 < analysis.tags.count name ∧
        analysis.component (.text name) = .error (.ambiguous (.text name)) ∨
      ¬ 1 < analysis.tags.count name ∧ ∃ element, (element, name) ∈ analysis.taggedElements ∧
        analysis.component (.text name) = Component.ofRecord element (.text name) := by
  by_cases shared : 1 < analysis.tags.count name
  · exact .inl ⟨shared, component_shared wellFormed shared⟩
  · obtain ⟨element, member⟩ := mem_tags_iff.mp listed
    exact .inr ⟨shared, element, member,
      component_single wellFormed member (Nat.le_of_not_lt shared)⟩

/-- Each listed name is found. -/
theorem components_ne_notFound (wellFormed : analysis.IsWellFormed) (name : Value) :
    analysis.components (analysis.tags.map .text) ≠ .error (.notFound name) := by
  intro failed
  obtain ⟨_, item, _, divided, _, missing⟩ := mapM_error_iff.mp failed
  have present : item ∈ analysis.tags.map .text :=
    divided ▸ List.mem_append_right _ List.mem_cons_self
  obtain ⟨other, listed, rfl⟩ := List.mem_map.mp present
  rcases component_cases wellFormed listed with ⟨_, ambiguous⟩ | ⟨_, element, _, converted⟩
  · rw [ambiguous] at missing
    exact nomatch missing
  · rw [converted] at missing
    exact nomatch Component.failsAmong_ofRecord element _ _ missing

/-- Where elements can be converted, a listed name has a component unless it is listed again. -/
theorem exists_component_iff (wellFormed : analysis.IsWellFormed) (converts : analysis.Converts)
    {name : String} (listed : name ∈ analysis.tags) :
    (∃ component, analysis.component (.text name) = .ok component) ↔
      ¬ 1 < analysis.tags.count name := by
  rcases component_cases wellFormed listed with ⟨shared, failed⟩ | ⟨single, element, has, made⟩
  · rw [failed]
    exact iff_of_false (fun ⟨_, same⟩ => nomatch same) fun single => single shared
  · rw [made]
    exact iff_of_true (converts element name has) single

/-- Where elements can be converted, the selection is ambiguous exactly over the first listed name
that is listed more than once. -/
theorem components_ambiguous_iff (wellFormed : analysis.IsWellFormed)
    (converts : analysis.Converts) {name : Value} :
    analysis.components (analysis.tags.map .text) = .error (.ambiguous name) ↔
      ∃ first, analysis.firstRepeated? = some first ∧ name = .text first := by
  have settles {listed : String} (present : listed ∈ analysis.tags) :=
    exists_component_iff wellFormed converts present
  unfold components firstRepeated?
  rw [mapM_error_iff]
  constructor
  · rintro ⟨before, item, after, divided, passed, failed⟩
    obtain ⟨earlier, rest, split, rfl, later⟩ := List.map_eq_append_iff.mp divided
    obtain ⟨first, others, rfl, rfl, rfl⟩ := List.map_eq_cons_iff.mp later
    have present : first ∈ analysis.tags := split ▸ List.mem_append_right _ List.mem_cons_self
    refine ⟨first, List.find?_eq_some_iff_append.mpr ⟨?_, earlier, others, split, ?_⟩, ?_⟩
    · by_contra single
      obtain ⟨component, made⟩ := (settles present).mpr (by simpa using single)
      exact nomatch made.symm.trans failed
    · intro other member
      have single := (settles (split ▸ List.mem_append_left _ member)).mp
        (passed _ (List.mem_map_of_mem member))
      simpa using single
    · rcases component_cases wellFormed present with ⟨_, same⟩ | ⟨single, _⟩
      · cases same.symm.trans failed
        rfl
      · obtain ⟨component, made⟩ := (settles present).mpr single
        exact nomatch made.symm.trans failed
  · rintro ⟨first, found, rfl⟩
    obtain ⟨repeated, earlier, others, split, singles⟩ := List.find?_eq_some_iff_append.mp found
    refine ⟨earlier.map .text, .text first, others.map .text, ?_, ?_, ?_⟩
    · rw [split, List.map_append, List.map_cons]
    · intro item member
      obtain ⟨other, listed, rfl⟩ := List.mem_map.mp member
      exact (settles (split ▸ List.mem_append_left _ listed)).mpr (by simpa using singles _ listed)
    · exact component_shared wellFormed (by simpa using repeated)

/-- Where elements can be converted and no name is listed more than once, there is a component for
each element with a tag name. -/
theorem components_of_distinct (wellFormed : analysis.IsWellFormed) (converts : analysis.Converts)
    (distinct : analysis.firstRepeated? = none) :
    ∃ components, analysis.components (analysis.tags.map .text) = .ok components ∧
      List.Forall₂ (fun entry component =>
        Component.ofRecord entry.1 (.text entry.2) = .ok component)
        analysis.taggedElements components := by
  obtain ⟨components, made⟩ := exists_mapM_ok fun (entry : Value × String) member =>
    converts entry.1 entry.2 member
  have each := mapM_eq_ok_iff.mp made
  refine ⟨components, mapM_eq_ok_iff.mpr ?_, each⟩
  unfold tags
  rw [List.map_map, List.forall₂_map_left_iff]
  refine (forall₂_mem_left each).imp fun entry component ⟨member, converted⟩ => ?_
  have single := List.find?_eq_none.mp distinct entry.2 (mem_tags_iff.mpr ⟨_, member⟩)
  exact (component_single wellFormed member (by simpa using single)).trans converted

/-- **Selecting every element.** In a document of elements with at most texts as tag names nothing
is selected without names to go by exactly if no element has a tag name. Otherwise the names that
are listed are all found. Provided that each element can be converted by itself, they are ambiguous
exactly if two elements anywhere share a name, the first listed name that occurs twice being the one
that is told, and if none do there is one component for each element with a tag name, in document
order. -/
theorem default_selection (wellFormed : analysis.IsWellFormed) {requested : Value}
    (unasked : requested.truthy = false) :
    ((analysis.selectNames requested).outcome.1 = .error .emptySelection ↔
      ¬ ∃ place name, analysis.IsTagged place name) ∧
    ((∃ place name, analysis.IsTagged place name) →
      (analysis.selectNames requested).outcome.1 = .ok (analysis.tags.map .text) ∧
      (∀ name, analysis.components (analysis.tags.map .text) ≠ .error (.notFound name)) ∧
      (analysis.Converts →
        ((∃ name, analysis.components (analysis.tags.map .text) = .error (.ambiguous name)) ↔
          ∃ name, analysis.IsShared name) ∧
        (∀ name, analysis.components (analysis.tags.map .text) = .error (.ambiguous name) ↔
          ∃ first, analysis.firstRepeated? = some first ∧ name = .text first) ∧
        ((¬ ∃ name, analysis.IsShared name) →
          ∃ components, analysis.components (analysis.tags.map .text) = .ok components ∧
            List.Forall₂ (fun entry component =>
              Component.ofRecord entry.1 (.text entry.2) = .ok component)
              analysis.taggedElements components))) := by
  refine ⟨?_, fun tagged => ⟨?_, components_ne_notFound wellFormed, fun converts => ⟨?_, ?_, ?_⟩⟩⟩
  · rw [selectNames_default wellFormed unasked, ← tags_ne_nil_iff, not_ne_iff]
    split
    · next none => exact iff_of_true rfl none
    · next some => exact iff_of_false (fun same => nomatch same) some
  · rw [selectNames_default wellFormed unasked, if_neg (tags_ne_nil_iff.mpr tagged)]
  · rw [← exists_firstRepeated_iff]
    constructor
    · rintro ⟨name, failed⟩
      obtain ⟨first, found, _⟩ := (components_ambiguous_iff wellFormed converts).mp failed
      exact ⟨first, found⟩
    · rintro ⟨first, found⟩
      exact ⟨_, (components_ambiguous_iff wellFormed converts).mpr ⟨first, found, rfl⟩⟩
  · exact fun name => components_ambiguous_iff wellFormed converts
  · rw [← exists_firstRepeated_iff, ← Option.isSome_iff_exists, Bool.not_eq_true,
      Option.isSome_eq_false_iff, Option.isNone_iff_eq_none]
    exact components_of_distinct wellFormed converts

/-- The elements of the sample, an inner one before the ones that follow its scope. -/
theorem taggedElements_nestedAnalysis : nestedAnalysis.taggedElements =
    ["x-c", "x-b", "x-a", "x-a"].map fun name => (tagged name, name) := by
  have met : preorder FeatureKind.element.key nestedAnalysis.document = _ :=
    preorder_nestedAnalysis
  unfold taggedElements
  rw [met]
  rfl

/-- Of the nested analysis all elements with tag names are listed, and the name that the third and
the last of them share is ambiguous. -/
theorem default_selection_nested :
    (nestedAnalysis.selectNames .null).outcome.1 =
        .ok (["x-c", "x-b", "x-a", "x-a"].map .text) ∧
      nestedAnalysis.components (["x-c", "x-b", "x-a", "x-a"].map .text) =
        .error (.ambiguous (.text "x-a")) := by
  have labelled (name : String) : IsElementRecord (tagged name) := ⟨⟨_, rfl⟩, .inr ⟨name, rfl⟩⟩
  have wellFormed : nestedAnalysis.IsWellFormed :=
    isScope_nestedAnalysis labelled ⟨⟨_, rfl⟩, .inl rfl⟩
  have listed : nestedAnalysis.tags = ["x-c", "x-b", "x-a", "x-a"] := by
    unfold tags
    rw [taggedElements_nestedAnalysis]
    rfl
  have converts : nestedAnalysis.Converts := by
    intro element name member
    rw [taggedElements_nestedAnalysis] at member
    obtain ⟨other, present, same⟩ := List.mem_map.mp member
    cases same
    have given : ∀ name ∈ ["x-c", "x-b", "x-a", "x-a"], name ≠ "" := by decide
    exact ⟨{ name := .text name }, Component.ofRecord_eq_ok_iff.mpr
      ⟨bne_iff_ne.mpr (given name present), ⟨_, rfl⟩, rfl, rfl, rfl, rfl⟩⟩
  have repeated : nestedAnalysis.firstRepeated? = some "x-a" := by
    unfold firstRepeated?
    rw [listed]
    rfl
  have there : nestedAnalysis.IsTagged ([], 0) "x-c" := ⟨tagged "x-c", rfl, rfl⟩
  have unasked : Value.null.truthy = false := rfl
  obtain ⟨_, selection⟩ := default_selection wellFormed unasked
  obtain ⟨selected, _, outcome⟩ := selection ⟨_, _, there⟩
  rw [listed] at selected outcome
  exact ⟨selected, ((outcome converts).2.1 _).mpr ⟨_, repeated, rfl⟩⟩

end ElementWrap.Analysis
