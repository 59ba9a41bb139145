import ElementWrap.Layout.Assembly
import ElementWrap.Proofs.Lists
import ElementWrap.Proofs.Naming.Folding
import ElementWrap.Proofs.Wrapper.ClassText
import ElementWrap.Proofs.Wrapper.Warnings

/-! # The classes of a list of components

Every component is looked at once. The first of those that share a class name gives the class, and
the others are passed over (`ElementWrap.Layout.answers_renderFrom`). Element names have class names
of their own, so among such components none is passed over but for a repeat, and each repeat is
warned of (`ElementWrap.Layout.renderClasses_elements`).
-/

namespace ElementWrap

/-- A component has the name of an element. -/
def Component.IsElement (component : Component) : Prop :=
  ∃ s, component.name = .text s ∧ Naming.IsElementName s

namespace Wrapper

/-! ## A class text has an answer -/

private theorem settled_renderNamed {config : Config} {template : String}
    {context : Naming Template.Context}
    (settled : Settled CaseMap.WellFormed context) :
    Settled CaseMap.WellFormed (renderNamed config template context) :=
  settled.bind fun context => ⟨_, .lift (renderTemplate config template context)⟩

private theorem settled_eventsContext (component : Component) :
    Settled CaseMap.WellFormed (eventsContext component) := by
  refine .bind (.mapM fun event _ => ?_) fun events =>
    .pure [("events", Template.Datum.list events)]
  exact .bind (.bind (Naming.settled_toCamel event.name false) fun folded => .pure _)
    fun handler => .bind (.bind (Naming.settled_toCamel event.name true) fun folded => .pure _)
    fun callback => .pure _

/-- The sections of a class come to the same from every sound case map. -/
theorem settled_sections (config : Config) (component : Component) :
    ∀ section_ ∈ sections config component, Settled CaseMap.WellFormed (id section_) := by
  have events := settled_eventsContext component
  have opening : Settled CaseMap.WellFormed (header config component.name) :=
    settled_renderNamed <| (Naming.settled_toCamel component.name true).bind fun name =>
      .pure [("class_name", Template.Datum.text name), ("export_default", .bool (!config.isBundle))]
  unfold sections
  simp only [List.forall_mem_cons, id_eq]
  exact ⟨opening, settled_renderNamed events,
    settled_renderNamed (events.bind fun known => .pure _), settled_renderNamed events,
    settled_renderNamed (.pure _), settled_renderNamed events, settled_renderNamed (.pure _),
    settled_renderNamed (.pure _), .pure _, fun _ member => absurd member List.not_mem_nil⟩

/-- The class of a component, or the fault in its place, does not depend on the case map. -/
theorem settled_classText (config : Config) (component : Component) :
    Settled CaseMap.WellFormed (classText config component) :=
  (Settled.mapM (settled_sections config component)).bind fun texts => .pure (String.join texts)

/-- The class of a component as a new generator writes it. -/
def freshClass (config : Config) (component : Component) : Except Fault String :=
  ((classText config component).run.run .empty).1

/-- The text of a class is that from a fresh case map, whichever sound one is used. -/
theorem answers_freshClass (config : Config) (component : Component) :
    Answers CaseMap.WellFormed (classText config component) (freshClass config component) :=
  (settled_classText config component).answers Naming.wellFormed_empty

end Wrapper

namespace Layout

open Log Wrapper

/-- The class name of a component whose name is a text. -/
def classKey (component : Component) : String := Naming.camel true component.name.display

/-- The entry of a component among the classes. -/
def classEntry (config : Config) (component : Component) : Except Fault (String × String) := do
  return (classKey component, ← freshClass config component)

private theorem named_eq {computation : Naming α} {answer : Except Fault α}
    (answers : Answers CaseMap.WellFormed computation answer) {map : CaseMap}
    (sound : map.WellFormed) :
    ∃ after : CaseMap, after.WellFormed ∧
      named map computation = Traced.lift (answer.map fun result => (result, after)) := by
  obtain ⟨after, afterSound, ran⟩ := answers map sound
  refine ⟨after, afterSound, ?_⟩
  unfold named
  rw [ran]
  cases answer <;> rfl

/-- The class name of a component as a new generator makes it. -/
def freshName (component : Component) : Except Fault String :=
  ((Naming.className component.name).run.run .empty).1

/-- Adds the classes of components to those that are there, a class name that is there already being
passed over. What gives a component its class is left open. -/
def classesFrom (text : Component → Except Fault String) :
    (classes : Classes) → List Component → Except Fault Classes
  | classes, [] => .ok classes
  | classes, component :: rest => do
    let className ← freshName component
    if (Ordered.get? className classes).isSome then classesFrom text classes rest
    else
      let written ← text component
      classesFrom text (classes ++ [(className, written)]) rest

/-- **The case map does not show.** Classes are rendered through a case map as new generators would
write them, each through a map of its own. -/
theorem answers_classesFrom (config : Config) (components : List Component) {map : CaseMap}
    (sound : map.WellFormed) (classes : Classes) :
    ∃ after : CaseMap, after.WellFormed ∧
      Answers (fun _ => True) (renderFrom config map classes components)
        ((classesFrom (freshClass config) classes components).map fun found => (found, after)) := by
  induction components generalizing map classes with
  | nil => exact ⟨map, sound, .pure (classes, map)⟩
  | cons component rest ih =>
      obtain ⟨between, betweenSound, converted⟩ := named_eq
        ((Naming.settled_toCamel component.name true).answers Naming.wellFormed_empty) sound
      change named map (Naming.className component.name) =
        Traced.lift ((freshName component).map fun key => (key, between)) at converted
      unfold renderFrom classesFrom
      rw [converted]
      cases made : freshName component with
      | error fault => exact ⟨between, betweenSound, .bind_error (.lift _)⟩
      | ok key =>
          by_cases met : (Ordered.get? key classes).isSome = true
          · obtain ⟨after, afterSound, answers⟩ := ih betweenSound classes
            refine ⟨after, afterSound, .bind_ok (.lift _) ?_⟩
            simp only [bind, Except.bind, if_pos met]
            exact Answers.bind_ok (fun entries _ => ⟨_, trivial, rfl⟩) answers
          · obtain ⟨written, writtenSound, class_eq⟩ :=
              named_eq (answers_freshClass config component) betweenSound
            simp only [bind, Except.bind, if_neg met]
            cases fresh : freshClass config component with
            | error fault =>
                rw [fresh] at class_eq
                refine ⟨written, writtenSound, .bind_ok (.lift _) ?_⟩
                simp only [if_neg met, class_eq]
                exact .bind_error (.lift _)
            | ok text =>
                rw [fresh] at class_eq
                obtain ⟨after, afterSound, answers⟩ :=
                  ih writtenSound (classes ++ [(key, text)])
                refine ⟨after, afterSound, .bind_ok (.lift _) ?_⟩
                simp only [if_neg met, class_eq]
                exact Answers.bind_ok (.lift _) answers

private theorem freshName_eq {component : Component} (named : ∃ s, component.name = .text s) :
    freshName component = .ok (classKey component) := by
  obtain ⟨s, name⟩ := named
  rw [freshName, classKey, name]
  exact ((Naming.answers_className s).eq_from Naming.wellFormed_empty).symm

/-- Only texts have class names. -/
theorem freshName_ok {component : Component} {key : String}
    (made : freshName component = .ok key) :
    ∃ s, component.name = .text s ∧ key = Naming.camel true s := by
  cases name : component.name with
  | text s =>
      rw [freshName_eq ⟨s, name⟩, classKey, name] at made
      exact ⟨s, rfl, (Except.ok.inj made).symm⟩
  | _ =>
      rw [freshName, name] at made
      exact nomatch made

/-- The classes of components have the class names of these, and of none besides. -/
theorem mem_keys_classesFrom {text : Component → Except Fault String}
    {components : List Component} {classes found : Classes}
    (rendered : classesFrom text classes components = .ok found) {key : String} :
    key ∈ found.map Prod.fst ↔ key ∈ classes.map Prod.fst ∨
      ∃ component ∈ components, ∃ s, component.name = .text s ∧ key = Naming.camel true s := by
  induction components generalizing classes with
  | nil =>
      cases rendered
      simp
  | cons component rest ih =>
      obtain ⟨own, made, rendered⟩ := bind_eq_ok_iff.mp rendered
      obtain ⟨s, name, rfl⟩ := freshName_ok made
      have first : (∃ t, component.name = .text t ∧ key = Naming.camel true t) ↔
          key = Naming.camel true s := by
        simp [name]
      rw [List.exists_mem_cons_iff, first]
      split at rendered
      · next met =>
          have known : key = Naming.camel true s → key ∈ classes.map Prod.fst := by
            rintro rfl
            exact Ordered.isSome_get?_iff.mp met
          rw [ih rendered, ← or_assoc, or_iff_left_of_imp known]
      · obtain ⟨written, _, rendered⟩ := bind_eq_ok_iff.mp rendered
        rw [ih rendered, List.map_append, List.mem_append, List.map_singleton,
          List.mem_singleton, or_assoc]

/-- Among components whose names are texts, the classes are those of the first component of each new
class name. -/
theorem classesFrom_eq (config : Config) {components : List Component}
    (named : ∀ component ∈ components, ∃ s, component.name = .text s) {classes : Classes}
    {seen : List String}
    (known : ∀ key, (Ordered.get? key classes).isSome = true ↔ key ∈ seen) :
    classesFrom (freshClass config) classes components =
      ((newcomers classKey seen components).mapM (classEntry config)).map (classes ++ ·) := by
  induction components generalizing classes seen with
  | nil => exact congrArg Except.ok (List.append_nil classes).symm
  | cons component rest ih =>
      have namedRest : ∀ other ∈ rest, ∃ s, other.name = .text s := fun other member =>
        named other (List.mem_cons_of_mem component member)
      unfold classesFrom newcomers
      rw [freshName_eq (named component List.mem_cons_self)]
      simp only [bind, Except.bind]
      by_cases met : classKey component ∈ seen
      · rw [if_pos met, if_pos ((known _).mpr met), ih namedRest known]
      · rw [if_neg met, if_neg (mt (known _).mp met), List.mapM_cons, classEntry]
        cases fresh : freshClass config component with
        | error fault => rfl
        | ok text =>
            have knownNext : ∀ other,
                (Ordered.get? other (classes ++ [(classKey component, text)])).isSome = true ↔
                  other ∈ classKey component :: seen := by
              intro other
              rw [Ordered.isSome_get?_iff, List.map_append, List.mem_append,
                ← Ordered.isSome_get?_iff, known, List.map_singleton, List.mem_singleton,
                List.mem_cons, or_comm]
            simp only [ih namedRest knownNext]
            cases (newcomers classKey (classKey component :: seen) rest).mapM
              (classEntry config) with
            | error fault => rfl
            | ok added =>
                change Except.ok (classes ++ [(classKey component, text)] ++ added) =
                  .ok (classes ++ (classKey component, text) :: added)
                rw [List.append_assoc, List.singleton_append]

/-- From the start, each newcomer among the components has its entry. -/
theorem classesFrom_start (config : Config) {components : List Component}
    (named : ∀ component ∈ components, ∃ s, component.name = .text s) :
    classesFrom (freshClass config) [] components =
      (newcomers classKey [] components).mapM (classEntry config) := by
  have unknown : ∀ key, (Ordered.get? key ([] : Classes)).isSome = true ↔
      key ∈ ([] : List String) :=
    fun key => iff_of_false Bool.false_ne_true List.not_mem_nil
  rw [classesFrom_eq config named unknown]
  cases (newcomers classKey [] components).mapM (classEntry config) <;> rfl

/-- **Each class name is rendered once.** The classes that are added are those of the components
whose class name is new, in order, and the first of these that has none ends the rendering. -/
theorem answers_renderFrom (config : Config) {components : List Component}
    (named : ∀ component ∈ components, ∃ s, component.name = .text s) {map : CaseMap}
    (sound : map.WellFormed) {classes : Classes} {seen : List String}
    (known : ∀ key, (Ordered.get? key classes).isSome = true ↔ key ∈ seen) :
    ∃ after : CaseMap, after.WellFormed ∧
      Answers (fun _ => True) (renderFrom config map classes components)
        (((newcomers classKey seen components).mapM (classEntry config)).map fun added =>
          (classes ++ added, after)) := by
  obtain ⟨after, afterSound, answers⟩ := answers_classesFrom config components sound classes
  rw [classesFrom_eq config named known] at answers
  refine ⟨after, afterSound, ?_⟩
  cases entries : (newcomers classKey seen components).mapM (classEntry config) with
  | error fault => rwa [entries] at answers
  | ok added => rwa [entries] at answers

/-- An entry among the classes is that of the first component that has a name. -/
def IsClassOf (config : Config) (components : List Component) (name : String)
    (entry : String × String) : Prop :=
  entry.1 = Naming.camel true name ∧
    ∃ first, components.find? (·.name.display == name) = some first ∧
      freshClass config first = .ok entry.2

private theorem display_injective_classKey {components : List Component}
    (elements : ∀ component ∈ components, component.IsElement) :
    ∀ a ∈ components, ∀ b ∈ components,
      (classKey a = classKey b ↔ a.name.display = b.name.display) := by
  intro a first b second
  obtain ⟨s, firstName, firstElement⟩ := elements a first
  obtain ⟨t, secondName, secondElement⟩ := elements b second
  rw [classKey, classKey, firstName, secondName]
  exact ⟨Naming.camel_injective firstElement secondElement, congrArg (Naming.camel true)⟩

/-- Among elements the first of each class name are the first of each name. -/
theorem newcomers_classKey {components : List Component}
    (elements : ∀ component ∈ components, component.IsElement) :
    newcomers classKey [] components = newcomers (fun component => component.name.display) []
      components :=
  newcomers_congr (fun _ _ => iff_of_false List.not_mem_nil List.not_mem_nil)
    (display_injective_classKey elements)

/-- Entries of components that are the first of their name are the classes of these names. -/
theorem isClassOf_of_mapM {config : Config} {components firsts : List Component}
    (first : ∀ component ∈ firsts,
      components.find? (·.name.display == component.name.display) = some component)
    {classes : Classes} (rendered : firsts.mapM (classEntry config) = .ok classes) :
    List.Forall₂ (IsClassOf config components) (firsts.map (·.name.display)) classes := by
  induction firsts generalizing classes with
  | nil =>
      obtain rfl := Except.ok.inj rendered
      exact .nil
  | cons component rest ih =>
      rw [List.mapM_cons] at rendered
      obtain ⟨entry, made, rendered⟩ := bind_eq_ok_iff.mp rendered
      obtain ⟨entries, later, rendered⟩ := bind_eq_ok_iff.mp rendered
      obtain rfl := Except.ok.inj rendered
      obtain ⟨text, fresh, made⟩ := bind_eq_ok_iff.mp made
      obtain rfl := Except.ok.inj made
      exact .cons ⟨rfl, component, first component List.mem_cons_self, fresh⟩ <|
        ih (fun other member => first other (List.mem_cons_of_mem component member)) later

/-- A component that can be converted has an entry among the classes. -/
theorem classEntry_eq_ok (config : Config) {component : Component}
    (convertible : component.IsConvertible) :
    ∃ entry, classEntry config component = .ok entry := by
  have text := (answers_indentedSections config convertible).eq_from Naming.wellFormed_empty
  exact ⟨_, by rw [classEntry, freshClass, ← text]; rfl⟩

/-- **No element is lost.** Components with names of elements have one class for each distinct name,
in the order in which the names occur first, and it is the class of the first component of its name.
There are as many warnings of repeats as components without a class of their own. The rendering
succeeds if the events have texts for names. -/
theorem renderClasses_elements (config : Config) {components : List Component}
    (elements : ∀ component ∈ components, component.IsElement) {map : CaseMap}
    (sound : map.WellFormed) (entries : List Entry) :
    ∃ (outcome : Except Fault Classes) (after : CaseMap) (reported : List Entry)
        (messages : List String),
      (renderClasses config map components).run.run entries =
        (outcome.map fun classes => (classes, after), reported) ∧
      Wrapper.warnings components = .ok messages ∧
      (∀ classes, outcome = .ok classes →
        List.Forall₂ (IsClassOf config components)
          (components.map (·.name.display)).eraseDups classes ∧
        messages.countP tellsRepeat + classes.length = components.length) ∧
      ((∀ component ∈ components, ∀ event ∈ component.events, ∃ s, event.name = .text s) →
        ∃ classes, outcome = .ok classes) := by
  have named : ∀ component ∈ components, ∃ s, component.name = .text s := fun component member =>
    (elements component member).imp fun _ element => element.1
  have noClass : ∀ key, (Ordered.get? key ([] : Classes)).isSome = true ↔
      key ∈ ([] : List String) :=
    fun key => iff_of_false Bool.false_ne_true List.not_mem_nil
  have noName : ∀ s, ([] : List Value).any (·.same (.text s)) = true ↔ s ∈ ([] : List String) :=
    fun s => iff_of_false Bool.false_ne_true List.not_mem_nil
  obtain ⟨after, _, answers⟩ := answers_renderFrom config named sound noClass
  rw [newcomers_classKey elements] at answers
  obtain ⟨reported, _, ran⟩ := answers entries trivial
  obtain ⟨messages, warned, counted⟩ := repeats_warningsFrom noName named
  have names : (newcomers (fun component => component.name.display) [] components).map
      (·.name.display) = (components.map (·.name.display)).eraseDups := by
    rw [map_newcomers, List.filter_eq_self.mpr fun _ _ => decide_eq_true List.not_mem_nil]
  have first : ∀ component ∈ newcomers (fun component => component.name.display) [] components,
      components.find? (·.name.display == component.name.display) = some component :=
    fun component member => (find?_of_mem_newcomers member).2
  refine ⟨_, after, reported, messages, ran, warned, fun classes rendered => ?_, fun texts => ?_⟩
  · have entries := isClassOf_of_mapM first rendered
    rw [names] at entries
    refine ⟨entries, ?_⟩
    rw [← entries.length_eq, ← names, List.length_map]
    exact counted
  · refine exists_mapM_ok fun component member => ?_
    have listed := List.mem_of_find?_eq_some (first component member)
    exact classEntry_eq_ok config ⟨named component listed, texts component listed⟩

/-- Two elements, the first of which is listed twice. -/
def repeatingComponents : List Component :=
  [{ name := .text "x-a", events := [⟨.text "tap"⟩] }, { name := .text "x-b" },
    { name := .text "x-a" }]

/-- The repeated element has one class, and one warning tells of the repeat. -/
theorem renderClasses_elements_repeating :
    ∃ classes after reported messages,
      (renderClasses {} .empty repeatingComponents).run.run [] =
        (.ok (classes, after), reported) ∧
      classes.map Prod.fst = ["XA", "XB"] ∧
      Wrapper.warnings repeatingComponents = .ok messages ∧ messages.countP tellsRepeat = 1 := by
  have elements : ∀ component ∈ repeatingComponents, component.IsElement := by
    have first : Naming.IsElementName "x-a" := by decide
    have second : Naming.IsElementName "x-b" := by decide
    simp only [repeatingComponents, List.forall_mem_cons]
    exact ⟨⟨_, rfl, first⟩, ⟨_, rfl, second⟩, ⟨_, rfl, first⟩,
      fun _ member => absurd member List.not_mem_nil⟩
  have texts : ∀ component ∈ repeatingComponents, ∀ event ∈ component.events,
      ∃ s, event.name = .text s := by
    simp [repeatingComponents]
  obtain ⟨outcome, after, reported, messages, ran, warned, found, rendered⟩ :=
    renderClasses_elements {} elements Naming.wellFormed_empty []
  obtain ⟨classes, rfl⟩ := rendered texts
  obtain ⟨entries, counted⟩ := found classes rfl
  have names : (repeatingComponents.map (·.name.display)).eraseDups = ["x-a", "x-b"] := by
    decide
  rw [names] at entries
  refine ⟨classes, after, reported, messages, ran, ?_, warned, ?_⟩
  · have keys : ["x-a", "x-b"].map (Naming.camel true) = classes.map Prod.fst := by
      rw [← List.forall₂_eq_eq_eq, List.forall₂_map_left_iff, List.forall₂_map_right_iff]
      exact entries.imp fun _ _ entry => entry.1.symm
    rw [← keys]
    rfl
  · rw [← entries.length_eq] at counted
    exact Nat.add_right_cancel counted

end Layout
end ElementWrap
