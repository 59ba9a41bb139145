import ElementWrap.Proofs.Layout.Artifacts

/-! # Both layouts hold the same classes

The layout shows in a class only in the words that open it: a module of its own exports its class as
the default, a bundle exports it by name. A bundle is therefore the import, the classes of the
modules with these words exchanged, and the helpers, whatever the components are called
(`ElementWrap.Layout.layouts_agree`).
-/

namespace ElementWrap

namespace Wrapper

open Template

/-! ## The words that open a class -/

/-- A text that stands on one line and does not open with a blank. -/
structure Flush (text : String) : Prop where
  unbroken : '\n' ∉ text.toList
  opens : ∃ c rest, text.toList = c :: rest ∧ c ≠ ' '

private theorem reindentLine_flush (unit : List Char) {c : Char} (solid : c ≠ ' ')
    (rest : List Char) :
    reindentLine unit (c :: rest) = c :: rest :=
  reindentLine_shallow unit (leadingBlanks_lt_of_flush (by simpa using solid))

/-- How a text is indented does not depend on what opens it, as long as that stands flush. -/
theorem exists_indented (unit : String) {rest : String} (ends : '\n' ∈ rest.toList) :
    ∃ indented, ∀ opening : String, Flush opening →
      reindent unit (opening ++ rest) = opening ++ indented := by
  obtain ⟨first, later, divided, unbroken⟩ := List.eq_append_cons_of_mem ends
  refine ⟨String.ofList (first ++ '\n' :: reindentChars unit.toList later),
    fun opening flush => ?_⟩
  obtain ⟨c, tail, same, solid⟩ := flush.opens
  have line : '\n' ∉ opening.toList ++ first := fun member =>
    (List.mem_append.mp member).elim flush.unbroken unbroken
  unfold reindent
  rw [← String.toList_inj, String.toList_ofList, String.toList_append, String.toList_append,
    String.toList_ofList, divided, ← List.append_assoc, reindentChars_line _ line, same,
    List.cons_append, reindentLine_flush _ solid, ← List.cons_append, List.append_assoc]

/-- The words that open a class in a layout. -/
def exportWords (config : Config) : String :=
  if config.isBundle then "export class" else "export default class"

private theorem flush_exportWords (config : Config) : Flush (exportWords config) := by
  unfold exportWords
  split
  · exact ⟨by decide, 'e', _, rfl, by decide⟩
  · exact ⟨by decide, 'e', _, rfl, by decide⟩

private theorem writeLines_header (config : Config) (className : String) :
    writeLines writtenUnit (Lines.header config className) =
      exportWords config ++ (" " ++ className ++ " extends React.Component \x7b\n\n") := by
  unfold Lines.header exportWords
  rw [writeLines_cons, writeLines_cons, writeLines_nil, ← String.toList_inj]
  cases config.isBundle <;> simp [toList_write]

/-- The line that opens a class is its words and a text that the layout does not show in. -/
theorem exists_header (unit : String) (name : Value) :
    ∃ opening : Except Fault String, ∀ config : Config, config.indent = unit →
      Answers CaseMap.WellFormed (header config name)
        (opening.map fun text => exportWords config ++ text) := by
  cases name with
  | text s =>
      have ends : '\n' ∈
          (" " ++ Naming.camel true s ++ " extends React.Component \x7b\n\n").toList := by simp
      obtain ⟨indented, same⟩ := exists_indented unit ends
      refine ⟨.ok indented, fun config width => ?_⟩
      have convertible : Component.IsConvertible { name := .text s } :=
        ⟨⟨s, rfl⟩, fun _ member => absurd member List.not_mem_nil⟩
      have answers := answers_header convertible config
      change Answers _ _ (.ok (sectionText config (Lines.header config (Naming.camel true s))))
        at answers
      rwa [sectionText, writeLines_header, width, same _ (flush_exportWords config)] at answers
  | _ => exact ⟨.error .wrongType, fun config _ => .bind_error (.bind_error (.throw _))⟩

/-! ## The rest of a class -/

private theorem renderNamed_congr {first second : Config} (indent : first.indent = second.indent) :
    renderNamed first = renderNamed second := by
  have rendered : renderTemplate first = renderTemplate second := by
    unfold renderTemplate
    rw [indent]
  unfold renderNamed
  rw [rendered]

/-- Only the first section of a class depends on more of the settings than the indentation. -/
theorem tail_sections_congr {first second : Config} (indent : first.indent = second.indent)
    (component : Component) :
    (sections first component).tail = (sections second component).tail := by
  simp only [sections, List.tail_cons, constructorMethod, mountCallback, unmountCallback,
    updateCallback, eventHandlers, publicInterface, renderMethod, renderNamed_congr indent]

/-- **The layout shows in the words that open a class alone.** -/
theorem exists_body (unit : String) (component : Component) :
    ∃ body : Except Fault String, ∀ config : Config, config.indent = unit →
      freshClass config component = body.map fun text => exportWords config ++ text := by
  obtain ⟨opening, headers⟩ := exists_header unit component.name
  have settled : Settled CaseMap.WellFormed
      ((sections { indent := unit } component).tail.mapM id) :=
    .mapM fun section_ member => settled_sections _ component section_ (List.mem_of_mem_tail member)
  obtain ⟨rest, rests⟩ := settled
  refine ⟨opening >>= fun text => rest.map fun texts => text ++ String.join texts,
    fun config width => ?_⟩
  have divided : sections config component =
      header config component.name :: (sections { indent := unit } component).tail := by
    have same : config.indent = ({ indent := unit } : Config).indent := width
    rw [← tail_sections_congr same component]
    rfl
  have joined : Answers CaseMap.WellFormed (classText config component)
      (opening.map (fun text => exportWords config ++ text) >>= fun text =>
        (rest >>= fun texts => .ok (text :: texts)) >>= fun texts => .ok (String.join texts)) := by
    unfold classText
    rw [divided, List.mapM_cons, bind_assoc]
    exact (headers config width).bind fun text =>
      (rests.bind fun texts => .pure (text :: texts)).bind fun texts => .pure (String.join texts)
  rw [freshClass, ← joined.eq_from Naming.wellFormed_empty]
  cases opening with
  | error fault => rfl
  | ok text =>
      cases rest with
      | error fault => rfl
      | ok texts =>
          simp only [Except.map, bind, Except.bind, String.join_cons, String.append_assoc]

end Wrapper

namespace Layout

open Log Wrapper

/-! ## The classes of a list of components -/

/-- Classes in which something is done to every text are those of components in whose texts it is
done. -/
theorem classesFrom_map {text body : Component → Except Fault String} {change : String → String}
    (texts : ∀ component, text component = (body component).map change) (classes : Classes)
    (components : List Component) :
    classesFrom text (classes.map (Prod.map id change)) components =
      (classesFrom body classes components).map (List.map (Prod.map id change)) := by
  induction components generalizing classes with
  | nil => rfl
  | cons component rest ih =>
      unfold classesFrom
      cases freshName component with
      | error fault => rfl
      | ok key =>
          have known : (Ordered.get? key (classes.map (Prod.map id change))).isSome =
              (Ordered.get? key classes).isSome := by
            rw [Bool.eq_iff_iff, Ordered.isSome_get?_iff, Ordered.isSome_get?_iff, List.map_map]
            rfl
          simp only [bind, Except.bind, known, texts component]
          by_cases met : (Ordered.get? key classes).isSome = true
          · rw [if_pos met, if_pos met, ih]
          · rw [if_neg met, if_neg met]
            cases body component with
            | error fault => rfl
            | ok written =>
                have next := ih (classes ++ [(key, written)])
                rwa [List.map_append, List.map_singleton] at next

/-- The classes of components, told apart from the words that open them. -/
theorem exists_bodies (unit : String) (components : List Component) :
    ∃ bodies : Except Fault Classes, ∀ config : Config, config.indent = unit →
      classesFrom (freshClass config) [] components =
        bodies.map (List.map (Prod.map id fun text => exportWords config ++ text)) := by
  choose body bodies using exists_body unit
  exact ⟨classesFrom body [] components, fun config width =>
    classesFrom_map (fun component => bodies component config width) [] components⟩

/-! ## The files -/

private theorem filter_classFiles (config : Config) (classes : Classes) :
    ((classes.flatMap (classFiles config)).filter fun file => file.kind = .component).map
      (·.content) = classes.map fun entry => importHeader ++ entry.2 := by
  induction classes with
  | nil => rfl
  | cons entry rest ih =>
      rw [List.flatMap_cons, List.filter_append, List.map_append, ih]
      rfl

/-- **The two layouts agree.** Let two generators indent with the same unit, one of them laying out
a bundle and the other a module for each class. For every list of components, their modules open
with the import and an export as the default, and the bundle is the import, then the same classes in
the same order, exported by name, and then the text of the helpers' module. Both generators fail
alike if they fail, and only where the name of a component or an event is not a text. -/
theorem layouts_agree {bundled separate : Config} (bundle : bundled.isBundle = true)
    (apart : separate.isBundle = false) (indent : separate.indent = bundled.indent)
    {first second : CaseMap} (firstSound : first.WellFormed) (secondSound : second.WellFormed)
    (components : List Component) :
    (∃ (bodies : List String) (files : List Artifact) (helpers : Artifact),
      (assemble separate second components).outcome.1 = .ok (files ++ [helpers]) ∧
      helpers.kind = .helpers ∧
      (files.filter fun file => file.kind = .component).map (·.content) =
        bodies.map (fun body => importHeader ++ "export default class" ++ body) ∧
      (assemble bundled first components).outcome.1 =
        .ok [⟨.ofString (bundled.bundleFile extension),
          importHeader ++ String.join (bodies.map fun body => "export class" ++ body ++ "\n\n") ++
            helpers.content, .bundle⟩]) ∨
    ((∃ fault, (assemble separate second components).outcome.1 = .error fault ∧
        (assemble bundled first components).outcome.1 = .error fault) ∧
      ∃ component ∈ components, ¬ component.IsConvertible) := by
  obtain ⟨bodies, classes⟩ := exists_bodies bundled.indent components
  have modules := outcome_assemble separate secondSound components
  have single := outcome_assemble bundled firstSound components
  rw [classes separate indent] at modules
  rw [classes bundled rfl] at single
  have words : exportWords separate = "export default class" := by rw [exportWords, apart]; rfl
  have named : exportWords bundled = "export class" := by rw [exportWords, bundle]; rfl
  cases bodies with
  | error fault =>
      refine .inr ⟨⟨fault, modules, single⟩, ?_⟩
      by_contra convertible
      obtain ⟨artifacts, made⟩ := exists_assemble separate
        (fun component member => by_contra fun plain => convertible ⟨component, member, plain⟩)
        secondSound
      exact nomatch modules.symm.trans made
  | ok bodies =>
      change _ = artifactsOf separate (bodies.map _) at modules
      change _ = artifactsOf bundled (bodies.map _) at single
      rw [artifactsOf_separate apart, words] at modules
      rw [artifactsOf_bundle bundle, named] at single
      refine .inl ⟨bodies.map Prod.snd, _, _, modules, rfl, ?_, ?_⟩
      · rw [filter_classFiles, List.map_map, List.map_map]
        simp only [Function.comp_def, Prod.map_snd, String.append_assoc]
      · have sameHelpers : helpersFile separate = helpersFile bundled := by
          rw [helpersFile, helpersFile, indent]
        rw [single, sameHelpers, List.map_map, List.map_map]
        simp only [Function.comp_def, Prod.map_snd]

/-- Two modules and a bundle hold the classes of three components, of which one is a repeat. -/
theorem layouts_agree_repeating :
    ∃ (bodies : List String) (files : List Artifact) (helpers : Artifact),
      (assemble { indent := "  " } .empty repeatingComponents).outcome.1 =
        .ok (files ++ [helpers]) ∧
      (files.filter fun file => file.kind = .component).map (·.content) =
        bodies.map (fun body => importHeader ++ "export default class" ++ body) ∧
      (assemble { bundle := .bool true, indent := "  " } .empty repeatingComponents).outcome.1 =
        .ok [⟨.ofString "WebComponents.js",
          importHeader ++ String.join (bodies.map fun body => "export class" ++ body ++ "\n\n") ++
            helpers.content, .bundle⟩] := by
  have convertible : ∀ component ∈ repeatingComponents, component.IsConvertible := by
    simp only [repeatingComponents, List.forall_mem_cons]
    exact ⟨⟨⟨_, rfl⟩, List.forall_mem_singleton.mpr ⟨_, rfl⟩⟩,
      ⟨⟨_, rfl⟩, fun _ member => absurd member List.not_mem_nil⟩,
      ⟨⟨_, rfl⟩, fun _ member => absurd member List.not_mem_nil⟩,
      fun _ member => absurd member List.not_mem_nil⟩
  have bundle : ({ bundle := .bool true, indent := "  " } : Config).isBundle = true := rfl
  have apart : ({ indent := "  " } : Config).isBundle = false := rfl
  rcases layouts_agree bundle apart rfl Naming.wellFormed_empty Naming.wellFormed_empty
      repeatingComponents with ⟨bodies, files, helpers, separate, _, contents, bundled⟩ |
      ⟨_, component, member, plain⟩
  · exact ⟨bodies, files, helpers, separate, contents, bundled⟩
  · exact absurd (convertible component member) plain

end Layout

end ElementWrap
