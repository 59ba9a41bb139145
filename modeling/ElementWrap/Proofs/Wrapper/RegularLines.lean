import ElementWrap.Proofs.Naming.Folding
import ElementWrap.Proofs.Wrapper.ClassLines

/-! # The lines of a class can be indented

If the names of a component are texts on one line, none of the lines of its class breaks off, and if
no method's name opens with a blank, none of them opens with more blanks than its level has.
-/

namespace ElementWrap

/-- A value is a text on one line. -/
def Value.IsLine (value : Value) : Prop := ∃ s, value = .text s ∧ '\n' ∉ s.toList

/-- Every name of a component is a text on one line, and no method's name opens with a blank. -/
structure Component.IsPlain (component : Component) : Prop where
  name : component.name.IsLine
  events : ∀ event ∈ component.events, event.name.IsLine
  properties : ∀ property ∈ component.properties, property.name.IsLine
  methods : ∀ method ∈ component.methods, method.name.IsLine
  params : ∀ method ∈ component.methods, ∀ param ∈ method.params, param.name.IsLine
  unindented : ∀ method ∈ component.methods, method.name.display.toList.head? ≠ some ' '

/-- A component that has nothing but events is plain if its name and theirs are on one line. -/
theorem Component.isPlain_of_events {name : String} {events : List Event}
    (unbroken : '\n' ∉ name.toList) (lines : ∀ event ∈ events, event.name.IsLine) :
    ({ name := .text name, events } : Component).IsPlain where
  name := ⟨name, rfl, unbroken⟩
  events := lines
  properties _ member := absurd member List.not_mem_nil
  methods _ member := absurd member List.not_mem_nil
  params _ member := absurd member List.not_mem_nil
  unindented _ member := absurd member List.not_mem_nil

/-- A value on one line has no line feed. -/
theorem Value.IsLine.unbroken {value : Value} (line : value.IsLine) :
    '\n' ∉ value.display.toList := by
  obtain ⟨s, rfl, unbroken⟩ := line
  exact unbroken

namespace Wrapper

private theorem Line.Regular.of_head {level : Nat} {text : String} (unbroken : '\n' ∉ text.toList)
    (head : text.toList.head? ≠ some ' ') : Line.Regular ⟨level, text⟩ :=
  ⟨unbroken, leadingBlanks_lt_of_flush head⟩

/-- Every one of some lines is regular. -/
def AllRegular (lines : List Line) : Prop := ∀ line ∈ lines, line.Regular

namespace AllRegular

private theorem nil : AllRegular [] := fun _ member => absurd member List.not_mem_nil

private theorem cons {line : Line} {rest : List Line} (head : line.Regular)
    (tail : AllRegular rest) :
    AllRegular (line :: rest) := List.forall_mem_cons.mpr ⟨head, tail⟩

private theorem append {first second : List Line} (left : AllRegular first)
    (right : AllRegular second) :
    AllRegular (first ++ second) := fun line member =>
  (List.mem_append.mp member).elim (left line) (right line)

private theorem map {items : List α} {line : α → Line}
    (each : ∀ item ∈ items, (line item).Regular) :
    AllRegular (items.map line) := List.forall_mem_map.mpr each

/-- Lines of many items are regular if those of each item are. -/
theorem flatMap {items : List α} {lines : α → List Line}
    (each : ∀ item ∈ items, AllRegular (lines item)) : AllRegular (items.flatMap lines) := by
  intro line member
  obtain ⟨item, present, inside⟩ := List.mem_flatMap.mp member
  exact each item present line inside

private theorem method {opening : String} {statements : List Line}
    (unbroken : '\n' ∉ opening.toList)
    (head : (opening ++ " \x7b").toList.head? ≠ some ' ') (inner : AllRegular statements) :
    AllRegular (Lines.method opening statements) :=
  (cons (.of_head (by simpa using unbroken) head) inner).append <|
    cons (.of_head (by simp) (by simp)) <| cons (.of_head (by simp) (by simp)) nil

end AllRegular

/-! ## Names -/

/-- A text on one line. -/
def Unbroken (s : String) : Prop := '\n' ∉ s.toList

/-- No line feed comes into a name with its camel case. -/
theorem unbroken_camel {upperFirst : Bool} {name : String} (unbroken : Unbroken name) :
    Unbroken (Naming.camel upperFirst name) := fun member =>
  (Naming.mem_or_le_of_mem_camel member).elim unbroken (by decide)

private theorem unbroken_handlerOf {event : String} (unbroken : Unbroken event) :
    Unbroken (handlerOf event) := by
  have folded : Unbroken (Naming.camel false event) := unbroken_camel unbroken
  simpa [Unbroken, handlerOf] using folded

private theorem unbroken_callbackOf {event : String} (unbroken : Unbroken event) :
    Unbroken (callbackOf event) := by
  have folded : Unbroken (Naming.camel true event) := unbroken_camel unbroken
  simpa [Unbroken, callbackOf] using folded

private theorem unbroken_intercalate {params : List String}
    (unbroken : ∀ param ∈ params, Unbroken param) :
    Unbroken (", ".intercalate params) := by
  induction params with
  | nil => simp [Unbroken]
  | cons param rest ih =>
      have tail := ih fun other member => unbroken other (List.mem_cons_of_mem param member)
      have head := unbroken param List.mem_cons_self
      cases rest with
      | nil => simpa [Unbroken] using head
      | cons other rest =>
          rw [String.intercalate_cons_cons]
          simp only [Unbroken] at head tail ⊢
          simp [-String.toList_intercalate, head, tail]

/-! ## Sections -/

namespace Lines

variable {events properties : List String}

/-- The opening of a class has regular lines. -/
theorem regular_header (config : Config) {className : String} (unbroken : Unbroken className) :
    AllRegular (header config className) := by
  unfold Unbroken at unbroken
  refine .cons (.of_head ?_ (by simp)) (.cons (.of_head (by simp) (by simp)) .nil)
  cases config.isBundle <;> simp [unbroken]

/-- So has a constructor. -/
theorem regular_constructor (unbroken : ∀ event ∈ events, Unbroken event) :
    AllRegular (constructor events) := by
  refine .method (by simp) (by simp) (.cons (.of_head (by simp) (by simp)) (.map ?_))
  intro event member
  have handler := unbroken_handlerOf (unbroken event member)
  unfold Unbroken at handler
  exact .of_head (by simp [handler]) (by simp)

private theorem regular_listeners {call : String} (callUnbroken : Unbroken call)
    (unbroken : ∀ event ∈ events, Unbroken event) : AllRegular (listeners call events) := by
  refine .map fun event member => ?_
  have handler := unbroken_handlerOf (unbroken event member)
  have name := unbroken event member
  unfold Unbroken at handler name callUnbroken
  exact .of_head (by simp [handler, name, callUnbroken]) (by simp)

private theorem regular_copyIf {condition property : String}
    (conditionUnbroken : Unbroken condition)
    (unbroken : Unbroken property) : AllRegular (copyIf condition property) := by
  unfold Unbroken at conditionUnbroken unbroken
  exact .cons (.of_head (by simp [conditionUnbroken]) (by simp)) <|
    .cons (.of_head (by simp [unbroken]) (by simp)) <| .cons (.of_head (by simp) (by simp)) .nil

/-- So has the method after mounting. -/
theorem regular_mount (eventsUnbroken : ∀ event ∈ events, Unbroken event)
    (unbroken : ∀ property ∈ properties, Unbroken property) :
    AllRegular (mount events properties) := by
  refine .method (by simp) (by simp) (.append (regular_listeners (by simp [Unbroken])
    eventsUnbroken) (.flatMap fun property member => ?_))
  have name := unbroken property member
  exact regular_copyIf (by unfold Unbroken at name ⊢; simp [name]) name

/-- So has the method before unmounting. -/
theorem regular_unmount (unbroken : ∀ event ∈ events, Unbroken event) :
    AllRegular (unmount events) :=
  .method (by simp) (by simp) (regular_listeners (by simp [Unbroken]) unbroken)

/-- So has the method after an update. -/
theorem regular_update (unbroken : ∀ property ∈ properties, Unbroken property) :
    AllRegular (update properties) := by
  refine .method (by simp) (by simp) (.flatMap fun property member => ?_)
  have name := unbroken property member
  exact regular_copyIf (by unfold Unbroken at name ⊢; simp [name]) name

/-- So has a handler. -/
theorem regular_eventHandler {event : String} (unbroken : Unbroken event) :
    AllRegular (eventHandler event) := by
  have handler := unbroken_handlerOf unbroken
  have callback := unbroken_callbackOf unbroken
  unfold Unbroken at handler callback
  refine .method (by simp [handler]) (by simp [handlerOf]) ?_
  exact .cons (.of_head (by simp [callback]) (by simp)) <|
    .cons (.of_head (by simp [callback]) (by simp)) <| .cons (.of_head (by simp) (by simp)) .nil

/-- So has a getter. -/
theorem regular_getter {name : Value} (unbroken : Unbroken name.display) :
    AllRegular (ofMember (.getter name)) := by
  unfold Unbroken at unbroken
  exact .method (by simp [unbroken]) (by simp)
    (.cons (.of_head (by simp [unbroken]) (by simp)) .nil)

/-- So has a method that forwards its call. -/
theorem regular_forward {name : Value} {params : List Value} (unbroken : Unbroken name.display)
    (unindented : name.display.toList.head? ≠ some ' ')
    (paramsUnbroken : ∀ param ∈ params, Unbroken param.display) :
    AllRegular (ofMember (.forward name params)) := by
  have listed := unbroken_intercalate (List.forall_mem_map.mpr paramsUnbroken)
  unfold Unbroken at unbroken listed
  refine .method (by simp [-String.toList_intercalate, unbroken, listed]) ?_
    (.cons (.of_head (by simp [-String.toList_intercalate, unbroken, listed]) (by simp)) .nil)
  cases chars : name.display.toList with
  | nil => simp [chars]
  | cons c rest => simpa [chars] using unindented

/-- So has the rendering. -/
theorem regular_placement {tagName : String} (unbroken : Unbroken tagName) :
    AllRegular (placement tagName) := by
  unfold Unbroken at unbroken
  have reference : Line.Regular
      ⟨4, "  ref=\x7b(element) => \x7bthis._refElement = element;\x7d\x7d/>"⟩ :=
    ⟨by decide, by decide⟩
  exact .cons (.of_head (by simp) (by simp)) <| .cons (.of_head (by simp) (by simp)) <|
    .cons (.of_head (by simp) (by simp)) <| .cons (.of_head (by simp [unbroken]) (by simp)) <|
    .cons reference <| .cons (.of_head (by simp) (by simp)) <|
    .cons (.of_head (by simp) (by simp)) <| .cons (.of_head (by simp) (by simp)) .nil

end Lines

end Wrapper
end ElementWrap
