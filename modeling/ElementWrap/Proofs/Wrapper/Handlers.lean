import ElementWrap.Proofs.Naming.Folding
import ElementWrap.Proofs.Wrapper.ClassText

/-! # The handlers of a class

The events of an element come with names that open with a letter and hold no capitals. As folding
loses nothing of such names, different events have different handlers and different callbacks
(`ElementWrap.Wrapper.nodup_handlers`, `ElementWrap.Wrapper.nodup_callbacks`). A class consists of
its definitions (`ElementWrap.Wrapper.flatten_sections`), and among these there is one handler for
each event. Only the public interface, which takes its names from the element, can define a handler
over again (`ElementWrap.Wrapper.handlers_of_events`).
-/

namespace ElementWrap

/-- The events of a component have different names that open with a letter from `a` to `z` and hold
none from `A` to `Z`. -/
structure Component.HasDistinctEvents (component : Component) : Prop where
  texts : ∀ event ∈ component.events, ∃ s, event.name = .text s ∧ Naming.IsElementName s
  distinct : (component.events.map (·.name)).Nodup

namespace Wrapper

/-- The names of the events, as they are written into a class. -/
def eventNames (component : Component) : List String := component.events.map (·.name.display)

/-- The methods that every class has. -/
def lifecycleNames : List String :=
  ["constructor", "componentDidMount", "componentWillUnmount", "componentDidUpdate", "render"]

variable {component : Component} {event other : String}

/-! ## Names -/

private theorem isElementName_of_mem (events : component.HasDistinctEvents)
    (member : event ∈ eventNames component) : Naming.IsElementName event := by
  obtain ⟨fired, listed, rfl⟩ := List.mem_map.mp member
  obtain ⟨s, named, element⟩ := events.texts fired listed
  rw [named]
  exact element

private theorem nodup_eventNames (events : component.HasDistinctEvents) :
    (eventNames component).Nodup := by
  have split : eventNames component = (component.events.map (·.name)).map (·.display) := by
    unfold eventNames
    rw [List.map_map]
    rfl
  rw [split]
  refine events.distinct.map_on ?_
  intro first firstListed second secondListed same
  obtain ⟨firstEvent, firstFired, rfl⟩ := List.mem_map.mp firstListed
  obtain ⟨secondEvent, secondFired, rfl⟩ := List.mem_map.mp secondListed
  obtain ⟨s, firstNamed, _⟩ := events.texts firstEvent firstFired
  obtain ⟨t, secondNamed, _⟩ := events.texts secondEvent secondFired
  rw [firstNamed, secondNamed] at same ⊢
  exact congrArg Value.text same

/-- Handlers tell the names of events apart. -/
theorem handlerOf_injective (element : Naming.IsElementName event)
    (another : Naming.IsElementName other) (same : handlerOf event = handlerOf other) :
    event = other := by
  unfold handlerOf Naming.camel at same
  have folded := congrArg String.toList same
  simp only [String.toList_append, List.append_cancel_left_eq, List.append_cancel_right_eq,
    String.toList_ofList, Naming.camelChars, Bool.false_eq_true, ↓reduceIte] at folded
  exact String.toList_inj.mp (Naming.foldDashes_injective element.2 another.2 folded)

/-- So do callbacks. -/
theorem callbackOf_injective (element : Naming.IsElementName event)
    (another : Naming.IsElementName other) (same : callbackOf event = callbackOf other) :
    event = other := by
  unfold callbackOf at same
  exact Naming.camel_injective element another ((String.append_right_inj "on").mp same)

/-- Events that are told apart have handlers of their own. -/
theorem nodup_handlers (events : component.HasDistinctEvents) :
    ((eventNames component).map handlerOf).Nodup :=
  (nodup_eventNames events).map_on fun _ first _ second =>
    handlerOf_injective (isElementName_of_mem events first) (isElementName_of_mem events second)

/-- They have callbacks of their own. -/
theorem nodup_callbacks (events : component.HasDistinctEvents) :
    ((eventNames component).map callbackOf).Nodup :=
  (nodup_eventNames events).map_on fun _ first _ second =>
    callbackOf_injective (isElementName_of_mem events first) (isElementName_of_mem events second)

/-- A handler opens with an underscore, which none of the methods that every class has does. -/
theorem handlerOf_not_lifecycle (event : String) : handlerOf event ∉ lifecycleNames := by
  have plain : ∀ name ∈ lifecycleNames, name.toList.head? ≠ some '_' := by decide
  intro member
  apply plain _ member
  simp [handlerOf]

/-! ## Definitions -/

/-- What a class defines: a method, or a getter, with its parameters and its statements. -/
structure Definition where
  getter : Bool := false
  name : String
  params : String := ""
  statements : List Line
  deriving DecidableEq, Repr

namespace Definition

/-- The lines of a definition, and the blank line behind it. -/
def lines (definition : Definition) : List Line :=
  Lines.method ((if definition.getter then "get " else "") ++ definition.name ++ "(" ++
    definition.params ++ ")") definition.statements

/-- A definition calls a callback with the detail of an event and the event. -/
def Forwards (definition : Definition) (callback : String) : Prop :=
  ⟨3, "this.props." ++ callback ++ "(e.detail, e);"⟩ ∈ definition.statements

end Definition

/-- The name of a member of the public interface. -/
def Member.label : Member → String
  | .getter name => name.display
  | .forward name _ => name.display

/-- What a member of the public interface is defined as. -/
def definitionOfMember : Member → Definition
  | .getter name =>
    { getter := true, name := name.display,
      statements := [⟨2, "return this._refElement." ++ name.display ++ ";"⟩] }
  | .forward name params =>
    let listed := ", ".intercalate (params.map (·.display))
    { name := name.display, params := listed,
      statements := [⟨2, "this._refElement." ++ name.display ++ "(" ++ listed ++ ");"⟩] }

/-- The handler of an event. -/
def handlerDefinition (event : String) : Definition where
  name := handlerOf event
  params := "e"
  statements :=
    [⟨2, "if (this.props." ++ callbackOf event ++ ") \x7b"⟩,
      ⟨3, "this.props." ++ callbackOf event ++ "(e.detail, e);"⟩, ⟨2, "\x7d"⟩]

/-- The definitions that every class opens with. -/
def openingDefinitions (events properties : List String) : List Definition :=
  [{ name := "constructor", params := "props",
     statements := ⟨2, "super(props);"⟩ :: events.map fun event =>
      ⟨2, "this." ++ handlerOf event ++ " = this." ++ handlerOf event ++ ".bind(this);"⟩ },
    { name := "componentDidMount",
      statements := Lines.listeners "addEventListener" events ++
        properties.flatMap fun property => Lines.copyIf ("this.props." ++ property) property },
    { name := "componentWillUnmount",
      statements := Lines.listeners "removeEventListener" events },
    { name := "componentDidUpdate", params := "pp",
      statements := properties.flatMap fun property =>
        Lines.copyIf ("pp." ++ property ++ " !== this.props." ++ property) property }]

/-- The definition that every class ends with. -/
def closingDefinition (tagName : String) : Definition where
  name := "render"
  statements :=
    [⟨2, "return ("⟩, ⟨3, "<div>"⟩, ⟨4, "<" ++ tagName⟩,
      ⟨4, "  ref=\x7b(element) => \x7bthis._refElement = element;\x7d\x7d/>"⟩, ⟨3, "</div>"⟩,
      ⟨2, ");"⟩]

/-- What the class of a component defines, in order. -/
def definitionsOf (component : Component) : List Definition :=
  openingDefinitions (eventNames component) (component.bindable.map (·.name.display)) ++
    (eventNames component).map handlerDefinition ++
    (membersOf component).map definitionOfMember ++ [closingDefinition component.name.display]

private theorem lines_handlerDefinition (event : String) :
    (handlerDefinition event).lines = Lines.eventHandler event := by
  unfold Definition.lines Lines.eventHandler
  simp [handlerDefinition, String.append_assoc]

private theorem lines_definitionOfMember (member : Member) :
    (definitionOfMember member).lines = Lines.ofMember member := by
  unfold Definition.lines Lines.ofMember
  cases member with
  | getter name => simp [definitionOfMember, String.append_assoc]
  | forward name params => simp [definitionOfMember, String.append_assoc]

private theorem lines_openingDefinitions (events properties : List String) :
    (openingDefinitions events properties).flatMap Definition.lines =
      Lines.constructor events ++ Lines.mount events properties ++ Lines.unmount events ++
        Lines.update properties := by
  simp [openingDefinitions, Definition.lines, Lines.constructor, Lines.mount, Lines.unmount,
    Lines.update, Lines.method]

private theorem lines_closingDefinition (tagName : String) :
    (closingDefinition tagName).lines = Lines.placement tagName ++ [⟨0, ""⟩] := by
  simp [closingDefinition, Definition.lines, Lines.method, Lines.placement]

/-- A class is the line that opens it and its definitions, without the blank line at the end. -/
theorem flatten_sections (config : Config) (component : Component) :
    (Lines.sections config component).flatten ++ [⟨0, ""⟩] =
      Lines.header config (Naming.camel true component.name.display) ++
        (definitionsOf component).flatMap Definition.lines := by
  have handlers : ((eventNames component).map handlerDefinition).flatMap Definition.lines =
      (eventNames component).flatMap Lines.eventHandler := by
    rw [List.flatMap_map]
    exact List.flatMap_congr fun event _ => lines_handlerDefinition event
  have members : ((membersOf component).map definitionOfMember).flatMap Definition.lines =
      (membersOf component).flatMap Lines.ofMember := by
    rw [List.flatMap_map]
    exact List.flatMap_congr fun member _ => lines_definitionOfMember member
  unfold definitionsOf
  rw [List.flatMap_append, List.flatMap_append, List.flatMap_append, lines_openingDefinitions,
    handlers, members, List.flatMap_singleton, lines_closingDefinition]
  simp only [Lines.sections, List.flatten_cons, List.flatten_nil, List.append_assoc,
    List.nil_append, eventNames]

/-! ## Handlers among the definitions -/

private theorem name_definitionOfMember (member : Member) :
    (definitionOfMember member).name = member.label := by
  cases member with
  | getter name => rfl
  | forward name params => rfl

private theorem mem_definitionsOf_iff {definition : Definition} :
    definition ∈ definitionsOf component ↔
      definition ∈ openingDefinitions (eventNames component)
          (component.bindable.map (·.name.display)) ∨
        (∃ event ∈ eventNames component, handlerDefinition event = definition) ∨
        (∃ member ∈ membersOf component, definitionOfMember member = definition) ∨
        definition = closingDefinition component.name.display := by
  unfold definitionsOf
  simp only [List.mem_append, List.mem_map, List.mem_singleton, or_assoc]

private theorem name_mem_lifecycleNames {definition : Definition} {events properties : List String}
    (member : definition ∈ openingDefinitions events properties) :
    definition.name ∈ lifecycleNames := by
  have names : (openingDefinitions events properties).map (·.name) = lifecycleNames.take 4 := rfl
  have listed : definition.name ∈ lifecycleNames.take 4 := names ▸ List.mem_map_of_mem member
  exact List.mem_of_mem_take listed

/-- Of the definitions that a class consists of the handlers alone have the names of handlers, but
for those of the public interface. -/
theorem filter_name_eq (events : component.HasDistinctEvents)
    (fired : event ∈ eventNames component)
    (free : ∀ member ∈ membersOf component, member.label ≠ handlerOf event) :
    (definitionsOf component).filter (fun definition => definition.name = handlerOf event) =
      [handlerDefinition event] := by
  have notLifecycle := handlerOf_not_lifecycle event
  have opening : (openingDefinitions (eventNames component)
      (component.bindable.map (·.name.display))).filter
        (fun definition => definition.name = handlerOf event) = [] := by
    apply List.filter_eq_nil_iff.mpr
    intro definition member same
    exact notLifecycle (of_decide_eq_true same ▸ name_mem_lifecycleNames member)
  have handlers : ((eventNames component).map handlerDefinition).filter
      (fun definition => definition.name = handlerOf event) = [handlerDefinition event] := by
    have told : (eventNames component).filter (fun other => handlerOf other = handlerOf event) =
        (eventNames component).filter fun other => other = event := by
      apply List.filter_congr
      intro other listed
      rw [decide_eq_decide]
      constructor
      · exact handlerOf_injective (isElementName_of_mem events listed)
          (isElementName_of_mem events fired)
      · rintro rfl
        rfl
    have single : (eventNames component).count event = 1 :=
      List.count_eq_one_of_mem (nodup_eventNames events) fired
    rw [List.filter_map]
    change ((eventNames component).filter fun other => handlerOf other = handlerOf event).map _ = _
    rw [told, List.filter_eq, single]
    rfl
  have members : ((membersOf component).map definitionOfMember).filter
      (fun definition => definition.name = handlerOf event) = [] := by
    apply List.filter_eq_nil_iff.mpr
    intro definition listed same
    obtain ⟨member, present, rfl⟩ := List.mem_map.mp listed
    rw [name_definitionOfMember] at same
    exact free member present (of_decide_eq_true same)
  have closing : [closingDefinition component.name.display].filter
      (fun definition => definition.name = handlerOf event) = [] := by
    apply List.filter_eq_nil_iff.mpr
    intro definition listed same
    obtain rfl := List.mem_singleton.mp listed
    have ends : "render" ∈ lifecycleNames := by decide
    exact notLifecycle (of_decide_eq_true same ▸ ends)
  unfold definitionsOf
  rw [List.filter_append, List.filter_append, List.filter_append, opening, handlers, members,
    closing]
  rfl

/-- A line calls a property from within a condition. -/
def Line.IsCall (line : Line) : Prop := ∃ call, line = ⟨3, "this.props." ++ call⟩

private theorem Line.not_isCall_of_level {level : Nat} {text : String} (other : level ≠ 3) :
    ¬ (⟨level, text⟩ : Line).IsCall := by
  rintro ⟨_, same⟩
  exact other (congrArg Line.level same)

/-- A copying line sets a property of the element. -/
theorem not_isCall_copyIf {condition property : String} :
    ∀ line ∈ Lines.copyIf condition property, ¬ line.IsCall := by
  simp only [Lines.copyIf, List.forall_mem_cons]
  refine ⟨Line.not_isCall_of_level (by decide), ?_, Line.not_isCall_of_level (by decide),
    fun _ member => absurd member List.not_mem_nil⟩
  rintro ⟨call, same⟩
  have texts := congrArg (fun line : Line => line.text.toList) same
  simp at texts

private theorem not_isCall_listeners {call : String} {events : List String} :
    ∀ line ∈ Lines.listeners call events, ¬ line.IsCall :=
  List.forall_mem_map.mpr fun _ _ => Line.not_isCall_of_level (by decide)

/-- Nothing but the handlers calls a property. -/
def Definition.IsSilent (definition : Definition) : Prop :=
  ∀ line ∈ definition.statements, ¬ line.IsCall

private theorem isSilent_opening {events properties : List String} :
    ∀ definition ∈ openingDefinitions events properties, definition.IsSilent := by
  have copies {condition : String → String} : ∀ line ∈ properties.flatMap fun property =>
      Lines.copyIf (condition property) property, ¬ line.IsCall := by
    intro line member
    obtain ⟨property, _, inside⟩ := List.mem_flatMap.mp member
    exact not_isCall_copyIf line inside
  simp only [openingDefinitions, Definition.IsSilent, List.forall_mem_cons, List.forall_mem_append]
  exact ⟨⟨Line.not_isCall_of_level (by decide),
      List.forall_mem_map.mpr fun _ _ => Line.not_isCall_of_level (by decide)⟩,
    ⟨not_isCall_listeners, copies⟩, not_isCall_listeners, copies,
    fun _ member => absurd member List.not_mem_nil⟩

private theorem isSilent_definitionOfMember (member : Member) :
    (definitionOfMember member).IsSilent := by
  cases member with
  | getter name =>
      exact List.forall_mem_singleton.mpr (Line.not_isCall_of_level (by decide))
  | forward name params =>
      exact List.forall_mem_singleton.mpr (Line.not_isCall_of_level (by decide))

private theorem isSilent_closing (tagName : String) : (closingDefinition tagName).IsSilent := by
  have tag {text : String} (other : text.toList.head? ≠ some 't') :
      ¬ (⟨3, text⟩ : Line).IsCall := by
    rintro ⟨call, same⟩
    have shown : text = "this.props." ++ call := congrArg Line.text same
    apply other
    rw [shown]
    simp
  simp only [Definition.IsSilent, closingDefinition, List.forall_mem_cons]
  exact ⟨Line.not_isCall_of_level (by decide), tag (by decide),
    Line.not_isCall_of_level (by decide), Line.not_isCall_of_level (by decide), tag (by decide),
    Line.not_isCall_of_level (by decide), fun _ member => absurd member List.not_mem_nil⟩

/-- The callback of an event is called by its handler and nowhere else. -/
theorem forwards_iff (events : component.HasDistinctEvents) (fired : event ∈ eventNames component)
    {definition : Definition} (member : definition ∈ definitionsOf component) :
    definition.Forwards (callbackOf event) ↔ definition = handlerDefinition event := by
  constructor
  · intro forwards
    have calls : ¬ definition.IsSilent := fun silent =>
      silent _ forwards ⟨_, by rw [String.append_assoc]⟩
    rcases mem_definitionsOf_iff.mp member with opening | ⟨other, listed, rfl⟩ | ⟨_, _, rfl⟩ | rfl
    · exact absurd (isSilent_opening definition opening) calls
    · have same : callbackOf event = callbackOf other := by
        simpa [Definition.Forwards, handlerDefinition] using forwards
      rw [callbackOf_injective (isElementName_of_mem events fired)
        (isElementName_of_mem events listed) same]
    · exact absurd (isSilent_definitionOfMember _) calls
    · exact absurd (isSilent_closing _) calls
  · rintro rfl
    exact List.mem_cons_of_mem _ List.mem_cons_self

/-- **The handlers of a class.** Where the events of a component have different names that open
with a letter and hold no capitals, they have different handlers, none of which is a method that
every class has, and different callbacks. The class that is generated, through every case map that
remembers nothing wrong, consists of its definitions. Among these the handler of an event is there
exactly once, unless a member of the public interface has its name, and it alone calls the callback
of the event. -/
theorem handlers_of_events (config : Config) (named : ∃ s, component.name = .text s)
    (events : component.HasDistinctEvents) :
    ((eventNames component).map handlerOf).Nodup ∧
    (∀ event ∈ eventNames component, handlerOf event ∉ lifecycleNames) ∧
    ((eventNames component).map callbackOf).Nodup ∧
    (∀ event ∈ component.events,
      Answers CaseMap.WellFormed (Naming.handlerName event.name)
        (.ok (handlerOf event.name.display)) ∧
      Answers CaseMap.WellFormed (Naming.callbackName event.name)
        (.ok (callbackOf event.name.display))) ∧
    Answers CaseMap.WellFormed (classText config component)
      (.ok (String.join ((Lines.sections config component).map (sectionText config)) ++ "\x7d")) ∧
    (Lines.sections config component).flatten ++ [⟨0, ""⟩] =
      Lines.header config (Naming.camel true component.name.display) ++
        (definitionsOf component).flatMap Definition.lines ∧
    (∀ event ∈ eventNames component,
      (∀ member ∈ membersOf component, member.label ≠ handlerOf event) →
        (definitionsOf component).filter (fun definition => definition.name = handlerOf event) =
          [handlerDefinition event]) ∧
    ∀ event ∈ eventNames component, ∀ definition ∈ definitionsOf component,
      definition.Forwards (callbackOf event) ↔ definition = handlerDefinition event := by
  have convertible : component.IsConvertible :=
    ⟨named, fun event member => (events.texts event member).imp fun _ text => text.1⟩
  refine ⟨nodup_handlers events, fun event _ => handlerOf_not_lifecycle event,
    nodup_callbacks events, ?_, answers_indentedSections config convertible,
    flatten_sections config component, fun _ => filter_name_eq events,
    fun _ fired _ => forwards_iff events fired⟩
  intro event member
  obtain ⟨s, text, _⟩ := events.texts event member
  rw [text]
  exact ⟨Naming.answers_handlerName s, Naming.answers_callbackName s⟩

/-- An element with two events whose names begin alike. -/
def twoEvents : Component where
  name := .text "x-a"
  events := [⟨.text "a"⟩, ⟨.text "a-b"⟩]
  methods := [{ name := .text "open", visibility := .visible }]

/-- The same element with a method that is named like the handler of its first event. -/
def overridden : Component :=
  { twoEvents with methods := [{ name := .text "_aEvent", visibility := .visible }] }

private theorem hasDistinctEvents_twoEvents : twoEvents.HasDistinctEvents where
  texts := by
    intro event member
    rcases List.mem_pair.mp member with rfl | rfl
    · exact ⟨"a", rfl, by decide⟩
    · exact ⟨"a-b", rfl, by decide⟩
  distinct := by simp [twoEvents]

/-- Each of the two events has one handler, and its callback is called there. -/
theorem handlers_of_events_two :
    (definitionsOf twoEvents).filter (fun definition => definition.name = "_aEvent") =
        [handlerDefinition "a"] ∧
      (definitionsOf twoEvents).filter (fun definition => definition.name = "_aBEvent") =
        [handlerDefinition "a-b"] ∧
      ∀ definition ∈ definitionsOf twoEvents,
        definition.Forwards "onAB" ↔ definition = handlerDefinition "a-b" := by
  have names : eventNames twoEvents = ["a", "a-b"] := rfl
  have first : handlerOf "a" = "_aEvent" := by decide +kernel
  have second : handlerOf "a-b" = "_aBEvent" := by decide +kernel
  have callback : callbackOf "a-b" = "onAB" := by decide +kernel
  obtain ⟨_, _, _, _, _, _, single, told⟩ :=
    handlers_of_events {} ⟨"x-a", rfl⟩ hasDistinctEvents_twoEvents
  rw [names] at single told
  refine ⟨?_, ?_, ?_⟩
  · rw [← first]
    exact single "a" List.mem_cons_self (by decide +kernel)
  · rw [← second]
    exact single "a-b" (List.mem_cons_of_mem _ List.mem_cons_self) (by decide +kernel)
  · rw [← callback]
    exact told "a-b" (List.mem_cons_of_mem _ List.mem_cons_self)

/-- A method of the element can define a handler over again: its class has two methods of the
handler's name, of which the latter calls the element. -/
theorem overridden_twice :
    overridden.HasDistinctEvents ∧
      (definitionsOf overridden).filter (fun definition => definition.name = handlerOf "a") =
        [handlerDefinition "a",
          { name := "_aEvent", statements := [⟨2, "this._refElement._aEvent();"⟩] }] :=
  ⟨⟨hasDistinctEvents_twoEvents.texts, hasDistinctEvents_twoEvents.distinct⟩, by decide +kernel⟩

end Wrapper
end ElementWrap
