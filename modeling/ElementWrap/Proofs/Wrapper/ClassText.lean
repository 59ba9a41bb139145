import ElementWrap.Proofs.Naming.Recall
import ElementWrap.Proofs.Wrapper.RegularLines
import ElementWrap.Proofs.Wrapper.Sections

/-! # The text of a wrapper class

The class that is generated for a component is the class written out line by line: for every unit of
indentation, for both layouts and through every case map, the templates of the sections, rendered
and indented one by one, give the declaration of `ElementWrap.Wrapper.declaration`. The names have
to be texts on one line, and no method's name may open with a blank, which would count as
indentation. Where the names that are converted are texts there is a class in any case, with each
section indented as it came out.
-/

namespace ElementWrap

/-- The names that are converted, those of the component and of its events, are texts. -/
structure Component.IsConvertible (component : Component) : Prop where
  name : ∃ s, component.name = .text s
  events : ∀ event ∈ component.events, ∃ s, event.name = .text s

/-- A plain component can be converted. -/
theorem Component.IsPlain.isConvertible {component : Component} (plain : component.IsPlain) :
    component.IsConvertible where
  name := plain.name.imp fun _ line => line.1
  events event member := (plain.events event member).imp fun _ line => line.1

namespace Wrapper

open Template

/-- The text of a section: its lines with the blanks of the templates, indented by the unit. -/
def sectionText (config : Config) (lines : List Line) : String :=
  reindent config.indent (writeLines writtenUnit lines)

/-- A template of the directory gives what its body renders as, indented by the unit. -/
theorem renderTemplate_eq (source : String) {config : Config} {template shown : String}
    {body : Body} {context scope : Scope} (found : engine.source? template = some source)
    (compiled : Body.compile source.toList = .ok body)
    (unbound : Scope.binds context selfName = false) (anonymous : body.ownNames = [])
    (ascii : ∀ looked ∈ body.lookups, IsAscii looked)
    (own : (body.lookups.eraseDups.map fun looked =>
      (looked, (Ordered.get? looked (context ++ commonNames)).getD .undefined)) = scope)
    (renders : Renders (context ++ commonNames) scope body shown) :
    renderTemplate config template context = .ok (reindent config.indent shown) := by
  subst own
  unfold renderTemplate
  rw [Engine.render_eq found compiled unbound anonymous ascii renders]
  rfl

private theorem renderTemplate_lines (source : String) {config : Config} {template : String}
    {body : Body}
    {context scope : Scope} {lines : List Line} (found : engine.source? template = some source)
    (compiled : Body.compile source.toList = .ok body)
    (unbound : Scope.binds context selfName = false) (anonymous : body.ownNames = [])
    (ascii : ∀ looked ∈ body.lookups, IsAscii looked)
    (own : (body.lookups.eraseDups.map fun looked =>
      (looked, (Ordered.get? looked (context ++ commonNames)).getD .undefined)) = scope)
    (renders : Renders (context ++ commonNames) scope body (writeLines writtenUnit lines)) :
    renderTemplate config template context = .ok (sectionText config lines) :=
  renderTemplate_eq source found compiled unbound anonymous ascii own renders

/-- What is rendered in a context that takes naming does not depend on the case map. -/
theorem answers_renderNamed {config : Config} {template shown : String} {context : Naming Context}
    {known : Context} (knows : Answers CaseMap.WellFormed context (.ok known))
    (rendered : renderTemplate config template known = .ok shown) :
    Answers CaseMap.WellFormed (renderNamed config template context) (.ok shown) := by
  have answers := knows.bind fun context =>
    Answers.lift (renderTemplate config template context)
  change Answers CaseMap.WellFormed _ (renderTemplate config template known) at answers
  rwa [rendered] at answers

/-! ## What the templates know of a component -/

private theorem answers_eventDatum {event : Event} (named : ∃ s, event.name = .text s) :
    Answers CaseMap.WellFormed (eventDatum event) (.ok (eventEntry event.name.display)) := by
  obtain ⟨s, eq⟩ := named
  unfold eventDatum
  rw [eq]
  exact (Naming.answers_handlerName s).bind fun handler =>
    (Naming.answers_callbackName s).bind fun callback => .pure _

private theorem answers_eventsContext {component : Component}
    (convertible : component.IsConvertible) :
    Answers CaseMap.WellFormed (eventsContext component)
      (.ok [("events", .list ((component.events.map (·.name.display)).map eventEntry))]) := by
  have listed : Answers CaseMap.WellFormed (component.events.mapM eventDatum)
      (.ok (component.events.map fun event => eventEntry event.name.display)) := by
    rw [← mapM_ok_of_forall fun _ _ => rfl]
    exact .mapM fun event member => answers_eventDatum (convertible.events event member)
  rw [List.map_map]
  exact listed.bind fun entries => .pure [("events", Datum.list entries)]

private theorem propertiesContext_eq (component : Component) :
    propertiesContext component =
      [("properties", .list ((component.bindable.map (·.name)).map nameEntry))] := by
  unfold propertiesContext
  rw [List.map_map]
  rfl

private theorem bindable_displays (component : Component) :
    component.bindable.map (·.name.display) =
      (component.bindable.map (·.name)).map (·.display) := by
  rw [List.map_map]
  rfl

private theorem propertyDatum?_eq (property : Property) :
    propertyDatum? property = (memberOfProperty? property).map memberEntry := by
  unfold propertyDatum? memberOfProperty? getterDatum
  split <;> rfl

private theorem methodDatum?_eq (method : Method) :
    methodDatum? method = (memberOfMethod? method).map memberEntry := by
  have entries : method.params.map (fun param => Datum.entity [("name", .ofValue param.name)]) =
      (method.params.map (·.name)).map nameEntry := by
    rw [List.map_map]
    rfl
  unfold methodDatum? memberOfMethod? getterDatum
  rw [entries]
  cases method.isExposed with
  | false => rfl
  | true => cases method.kind <;> rfl

private theorem membersContext_eq (component : Component) :
    membersContext component = [("members", .list ((membersOf component).map memberEntry))] := by
  unfold membersContext membersOf
  rw [List.map_append, List.map_filterMap, List.map_filterMap, funext propertyDatum?_eq,
    funext methodDatum?_eq]

/-! ## Sections -/

section Sections

variable {component : Component} (convertible : component.IsConvertible) (config : Config)

include convertible

/-- The header of a class, from every sound case map. -/
theorem answers_header : Answers CaseMap.WellFormed (header config component.name)
    (.ok (sectionText config
      (Lines.header config (Naming.camel true component.name.display)))) := by
  have named : Answers CaseMap.WellFormed (Naming.className component.name)
      (.ok (Naming.camel true component.name.display)) := by
    obtain ⟨s, eq⟩ := convertible.name
    rw [eq]
    exact Naming.answers_className s
  exact answers_renderNamed (named.bind fun name => .pure [("class_name", Datum.text name),
      ("export_default", .bool (!config.isBundle))]) <|
    renderTemplate_lines Source.classHeader rfl Source.compile_classHeader rfl rfl
      (by decide) rfl (renders_classHeader _ config _)

private theorem answers_constructorMethod :
    Answers CaseMap.WellFormed (constructorMethod config component)
    (.ok (sectionText config (Lines.constructor (component.events.map (·.name.display))))) :=
  answers_renderNamed (answers_eventsContext convertible) <|
    renderTemplate_lines Source.constructor rfl Source.compile_constructor rfl rfl
      (by decide) rfl (renders_constructor _ _)

private theorem answers_mountCallback : Answers CaseMap.WellFormed (mountCallback config component)
    (.ok (sectionText config (Lines.mount (component.events.map (·.name.display))
      (component.bindable.map (·.name.display))))) := by
  have knows : Answers CaseMap.WellFormed
      (do return (← eventsContext component) ++ propertiesContext component)
      (.ok [("events", .list ((component.events.map (·.name.display)).map eventEntry)),
        ("properties", .list ((component.bindable.map (·.name)).map nameEntry))]) := by
    rw [propertiesContext_eq]
    exact (answers_eventsContext convertible).bind fun events => .pure (events ++ _)
  rw [bindable_displays]
  exact answers_renderNamed knows <|
    renderTemplate_lines Source.mount rfl Source.compile_mount rfl rfl (by decide) rfl
      (renders_mount _ _ _)

private theorem answers_unmountCallback :
    Answers CaseMap.WellFormed (unmountCallback config component)
    (.ok (sectionText config (Lines.unmount (component.events.map (·.name.display))))) :=
  answers_renderNamed (answers_eventsContext convertible) <|
    renderTemplate_lines Source.unmount rfl Source.compile_unmount rfl rfl (by decide) rfl
      (renders_unmount _ _)

private theorem answers_eventHandlers : Answers CaseMap.WellFormed (eventHandlers config component)
    (.ok (sectionText config
      ((component.events.map (·.name.display)).flatMap Lines.eventHandler))) :=
  answers_renderNamed (answers_eventsContext convertible) <|
    renderTemplate_lines Source.eventHandlers rfl Source.compile_eventHandlers rfl rfl
      (by decide) rfl (renders_eventHandlers _ _)

omit convertible

private theorem answers_updateCallback :
    Answers CaseMap.WellFormed (updateCallback config component)
    (.ok (sectionText config (Lines.update (component.bindable.map (·.name.display))))) := by
  unfold updateCallback
  rw [propertiesContext_eq, bindable_displays]
  exact answers_renderNamed (.pure _) <|
    renderTemplate_lines Source.update rfl Source.compile_update rfl rfl (by decide) rfl
      (renders_update _ _)

private theorem answers_publicInterface :
    Answers CaseMap.WellFormed (publicInterface config component)
    (.ok (sectionText config ((membersOf component).flatMap Lines.ofMember))) := by
  unfold publicInterface
  rw [membersContext_eq]
  exact answers_renderNamed (.pure _) <|
    renderTemplate_lines Source.api rfl Source.compile_api rfl rfl (by decide) rfl
      (renders_api _ _)

private theorem answers_renderMethod {tagName : String} :
    Answers CaseMap.WellFormed (renderMethod config (.text tagName))
      (.ok (sectionText config (Lines.placement tagName))) :=
  answers_renderNamed (.pure [("tag_name", Datum.text tagName)]) <|
    renderTemplate_lines Source.render rfl Source.compile_render rfl rfl (by decide) rfl
      (renders_render _ _)

end Sections

/-- A component whose converted names are texts has a class: its sections, indented one by one. -/
theorem answers_indentedSections (config : Config) {component : Component}
    (convertible : component.IsConvertible) :
    Answers CaseMap.WellFormed (classText config component)
      (.ok (String.join ((Lines.sections config component).map (sectionText config)) ++
        "\x7d")) := by
  have placed : Answers CaseMap.WellFormed (renderMethod config component.name)
      (.ok (sectionText config (Lines.placement component.name.display))) := by
    obtain ⟨s, eq⟩ := convertible.name
    rw [eq]
    exact answers_renderMethod config
  have answered : Answers CaseMap.WellFormed ((sections config component).mapM id) _ :=
    .sequence <| .cons (answers_header convertible config) <|
      .cons (answers_constructorMethod convertible config) <|
      .cons (answers_mountCallback convertible config) <|
      .cons (answers_unmountCallback convertible config) <|
      .cons (answers_updateCallback config) <| .cons (answers_eventHandlers convertible config) <|
      .cons (answers_publicInterface config) <| .cons placed <| .cons (.pure _) .nil
  have joined := answered.bind fun texts => .pure (String.join texts)
  refine Eq.subst ?_ joined
  simp only [bind, Except.bind, Lines.sections, List.map_cons, List.map_nil, String.join_cons,
    String.join_nil, String.append_assoc, String.append_empty]

/-! ## Plain names -/

private theorem unbroken_displays {items : List α} {name : α → Value}
    (plain : ∀ item ∈ items, (name item).IsLine) :
    ∀ s ∈ items.map fun item => (name item).display, Unbroken s :=
  List.forall_mem_map.mpr fun item member => (plain item member).unbroken

private theorem regular_members {component : Component} (plain : component.IsPlain) :
    AllRegular ((membersOf component).flatMap Lines.ofMember) := by
  refine .flatMap fun member present => ?_
  rcases List.mem_append.mp present with inProperties | inMethods
  · obtain ⟨property, listed, made⟩ := List.mem_filterMap.mp inProperties
    have name := (plain.properties property listed).unbroken
    unfold memberOfProperty? at made
    split at made
    · obtain rfl := Option.some.inj made
      exact Lines.regular_getter name
    · exact nomatch made
  · obtain ⟨method, listed, made⟩ := List.mem_filterMap.mp inMethods
    have name := (plain.methods method listed).unbroken
    unfold memberOfMethod? at made
    split at made
    · split at made
      · obtain rfl := Option.some.inj made
        apply Lines.regular_forward name (plain.unindented method listed)
        exact List.forall_mem_map.mpr fun param member =>
          (plain.params method listed param member).unbroken
      · obtain rfl := Option.some.inj made
        exact Lines.regular_getter name
      · exact nomatch made
    · exact nomatch made

/-- No section of a component with plain names changes beyond its unit of indentation. -/
theorem regular_sections (config : Config) {component : Component} (plain : component.IsPlain) :
    ∀ lines ∈ Lines.sections config component, AllRegular lines := by
  have events := unbroken_displays plain.events
  have bindable : ∀ s ∈ component.bindable.map (·.name.display), Unbroken s :=
    unbroken_displays fun property member =>
      plain.properties property (List.mem_of_mem_filter member)
  simp only [Lines.sections, List.forall_mem_cons]
  exact ⟨Lines.regular_header config (unbroken_camel plain.name.unbroken),
    Lines.regular_constructor events, Lines.regular_mount events bindable,
    Lines.regular_unmount events, Lines.regular_update bindable,
    .flatMap fun event member => Lines.regular_eventHandler (events event member),
    regular_members plain, Lines.regular_placement plain.name.unbroken,
    fun _ member => absurd member List.not_mem_nil⟩

/-- Sections of regular lines, indented one by one, are their lines in the unit of indentation. -/
theorem join_sectionText (config : Config) {sections : List (List Line)}
    (regular : ∀ lines ∈ sections, AllRegular lines) :
    String.join (sections.map (sectionText config)) =
      writeLines config.indent sections.flatten := by
  induction sections with
  | nil => rfl
  | cons lines rest ih =>
      rw [List.map_cons, String.join_cons, List.flatten_cons, writeLines_append,
        ih fun other member => regular other (List.mem_cons_of_mem lines member), sectionText,
        reindent_writeLines config.indent (regular lines List.mem_cons_self)]

/-- **The class of a component, written out.** Through every case map that remembers nothing wrong,
a component with plain names gets the declaration that its names spell line by line. -/
theorem answers_classText (config : Config) (component : Component) (plain : component.IsPlain) :
    Answers CaseMap.WellFormed (classText config component)
      (.ok (declaration config component)) := by
  have indented := answers_indentedSections config plain.isConvertible
  rwa [join_sectionText config (regular_sections config plain)] at indented

/-- An element that fires one event, holds one value and offers one method. -/
def sampleComponent : Component where
  name := .text "x-foo"
  events := [⟨.text "a-b"⟩]
  properties := [{ name := .text "value", visibility := .visible }]
  methods :=
    [{ name := .text "open", visibility := .visible, params := [⟨.text "at"⟩, ⟨.text "by"⟩] }]

/-- The declaration of the sample in a bundle that is indented with two blanks. -/
def sampleText : String :=
  "export class XFoo extends React.Component \x7b\n\n" ++
  "  constructor(props) \x7b\n    super(props);\n" ++
  "    this._aBEvent = this._aBEvent.bind(this);\n  \x7d\n\n" ++
  "  componentDidMount() \x7b\n" ++
  "    this._refElement.addEventListener('a-b', this._aBEvent);\n" ++
  "    if (this.props.value) \x7b\n      this._refElement.value = this.props.value;\n    \x7d\n" ++
  "  \x7d\n\n" ++
  "  componentWillUnmount() \x7b\n" ++
  "    this._refElement.removeEventListener('a-b', this._aBEvent);\n  \x7d\n\n" ++
  "  componentDidUpdate(pp) \x7b\n    if (pp.value !== this.props.value) \x7b\n" ++
  "      this._refElement.value = this.props.value;\n    \x7d\n  \x7d\n\n" ++
  "  _aBEvent(e) \x7b\n    if (this.props.onAB) \x7b\n      this.props.onAB(e.detail, e);\n" ++
  "    \x7d\n  \x7d\n\n" ++
  "  open(at, by) \x7b\n    this._refElement.open(at, by);\n  \x7d\n\n" ++
  "  render() \x7b\n    return (\n      <div>\n        <x-foo\n" ++
  "          ref=\x7b(element) => \x7bthis._refElement = element;\x7d\x7d/>\n      </div>\n" ++
  "    );\n  \x7d\n\x7d"

private theorem isPlain_sampleComponent : sampleComponent.IsPlain where
  name := ⟨_, rfl, by decide⟩
  events := by
    intro event member
    obtain rfl := List.mem_singleton.mp member
    exact ⟨_, rfl, by decide⟩
  properties := by
    intro property member
    obtain rfl := List.mem_singleton.mp member
    exact ⟨_, rfl, by decide⟩
  methods := by
    intro method member
    obtain rfl := List.mem_singleton.mp member
    exact ⟨_, rfl, by decide⟩
  params := by
    intro method member param listed
    obtain rfl := List.mem_singleton.mp member
    rcases List.mem_pair.mp listed with rfl | rfl
    · exact ⟨_, rfl, by decide⟩
    · exact ⟨_, rfl, by decide⟩
  unindented := by
    intro method member
    obtain rfl := List.mem_singleton.mp member
    decide

/-- The class of the sample in a bundle. -/
theorem answers_classText_sample :
    Answers CaseMap.WellFormed (classText { bundle := .bool true, indent := "  " } sampleComponent)
      (.ok sampleText) := by
  have written :
      declaration { bundle := .bool true, indent := "  " } sampleComponent = sampleText := by
    decide +kernel
  exact written ▸ answers_classText _ sampleComponent isPlain_sampleComponent

end Wrapper
end ElementWrap
