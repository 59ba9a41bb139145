import ElementWrap.Proofs.Template.Rendering
import ElementWrap.Proofs.Wrapper.Bodies
import ElementWrap.Proofs.Wrapper.ClassLines

/-! # The templates write the lines of a class

In a scope that knows the names of a component, the body of each template of a class renders as the
lines that `ElementWrap.Wrapper.Lines` writes out, at the levels that templates are written with.
-/

namespace ElementWrap.Wrapper

open Template Template.Renders

/-! ## What the templates know -/

/-- What a template knows of an event whose name is a text. -/
def eventEntry (event : String) : Datum :=
  .table [("name", .text event), ("handler", .text (handlerOf event)),
    ("callback", .text (callbackOf event))]

/-- What a template knows of something of which it needs the name alone. -/
def nameEntry (name : Value) : Datum := .entity [("name", .ofValue name)]

/-- What a template knows of a member of the public interface. -/
def memberEntry : Member → Datum
  | .getter name => .table [("name", .ofValue name), ("getter", .bool true)]
  | .forward name params =>
    .table [("name", .ofValue name), ("getter", .bool false),
      ("params", .list (params.map nameEntry))]

section Fields

variable {scope : Scope}

private theorem evaluate_event_name (event : String) :
    (Source.fieldOf "event" "name").evaluate (("event", eventEntry event) :: scope) =
      .ok (.text event) :=
  evaluate_member evaluate_name (Datum.member?_table (by decide) (by decide) rfl)

private theorem evaluate_event_handler (event : String) :
    (Source.fieldOf "event" "handler").evaluate (("event", eventEntry event) :: scope) =
      .ok (.text (handlerOf event)) :=
  evaluate_member evaluate_name (Datum.member?_table (by decide) (by decide) rfl)

private theorem evaluate_event_callback (event : String) :
    (Source.fieldOf "event" "callback").evaluate (("event", eventEntry event) :: scope) =
      .ok (.text (callbackOf event)) :=
  evaluate_member evaluate_name (Datum.member?_table (by decide) (by decide) rfl)

private theorem evaluate_property_name (property : Value) :
    (Source.fieldOf "property" "name").evaluate (("property", nameEntry property) :: scope) =
      .ok (.ofValue property) :=
  evaluate_member evaluate_name (Datum.member?_entity rfl)

private theorem evaluate_forward_name (name : Value) (params : List Value) :
    (Source.fieldOf "member" "name").evaluate
      (("member", memberEntry (.forward name params)) :: scope) = .ok (.ofValue name) :=
  evaluate_member evaluate_name (Datum.member?_table (by decide) (by decide) rfl)

private theorem evaluate_forward_params (name : Value) (params : List Value) :
    Source.paramNames.evaluate (("member", memberEntry (.forward name params)) :: scope) =
      .ok (.text (", ".intercalate (params.map (·.display)))) :=
  evaluate_joinNames <|
    evaluate_member evaluate_name (Datum.member?_table (by decide) (by decide) rfl)

private theorem evaluate_getter_name (name : Value) :
    (Source.fieldOf "member" "name").evaluate (("member", memberEntry (.getter name)) :: scope) =
      .ok (.ofValue name) :=
  evaluate_member evaluate_name (Datum.member?_table (by decide) (by decide) rfl)

end Fields

/-! ## Sections -/

section Sections

variable (context : Scope)

/-- A text is displayed as it is. -/
@[simp]
theorem display_text (s : String) : (Datum.text s).display = s := rfl

/-- The opening of a class renders as its lines. -/
theorem renders_classHeader (config : Config) (className : String) :
    Renders context
      [("export_default", .bool (!config.isBundle)), ("class_name", .text className)]
      Source.classHeaderBody (writeLines writtenUnit (Lines.header config className)) := by
  have class_name : (Expression.name "class_name").evaluate
      [("export_default", .bool (!config.isBundle)), ("class_name", .text className)] =
        .ok (.text className) := by
    simp only [Expression.evaluate, Ordered.get?, ↓reduceIte, String.reduceEq, Option.getD_some]
  have opening : Renders context
      [("export_default", .bool (!config.isBundle)), ("class_name", .text className)]
      (if (Datum.bool (!config.isBundle)).truthy then .text "default " .done else .done)
      (if config.isBundle then "" else "default ") := by
    cases config.isBundle
    · exact .text _ .done
    · exact .done
  refine congr (.text _ <| .cond evaluate_name opening <| .text _ <| .output class_name <|
    .text _ .done) ?_
  rw [← String.toList_inj]
  simp [Lines.header, Line.write, writeLines]

/-- A constructor renders as its lines. -/
theorem renders_constructor (events : List String) :
    Renders context [("events", .list (events.map eventEntry))] Source.constructorBody
      (writeLines writtenUnit (Lines.constructor events)) := by
  refine congr (.text _ <| .loop evaluate_name (by decide) (by decide) (by decide)
    (fun event _ => .text _ <| .output (evaluate_event_handler event) <|
      .text _ <| .output (evaluate_event_handler event) <| .text _ .done) <|
    .text _ .done) ?_
  rw [← String.toList_inj]
  simp [Lines.constructor, Lines.method, Line.write, writtenUnit, writeLines, String.toList_join,
    List.flatMap_map]

/-- The method after mounting renders as its lines. -/
theorem renders_mount (events : List String) (properties : List Value) :
    Renders context [("events", .list (events.map eventEntry)),
        ("properties", .list (properties.map nameEntry))] Source.mountBody
      (writeLines writtenUnit (Lines.mount events (properties.map (·.display)))) := by
  have listed : (Expression.name "properties").evaluate
      [("events", .list (events.map eventEntry)),
        ("properties", .list (properties.map nameEntry))] =
        .ok (.list (properties.map nameEntry)) := by
    simp only [Expression.evaluate, Ordered.get?, ↓reduceIte, String.reduceEq, Option.getD_some]
  refine congr (.text _ <| .loop evaluate_name (by decide) (by decide) (by decide)
    (fun event _ => .text _ <| .output (evaluate_event_name event) <|
      .text _ <| .output (evaluate_event_handler event) <| .text _ .done) <|
    .text _ <| .loop listed (by decide) (by decide) (by decide)
    (fun property _ => .text _ <| .output (evaluate_property_name property) <|
      .text _ <| .output (evaluate_property_name property) <|
      .text _ <| .output (evaluate_property_name property) <| .text _ .done) <|
    .text _ .done) ?_
  rw [← String.toList_inj]
  simp [Lines.mount, Lines.method, Lines.listeners, Lines.copyIf, Line.write, writtenUnit,
    writeLines, String.toList_join, List.flatMap_map, List.map_flatMap, List.flatMap_assoc]

/-- The method before unmounting renders as its lines. -/
theorem renders_unmount (events : List String) :
    Renders context [("events", .list (events.map eventEntry))] Source.unmountBody
      (writeLines writtenUnit (Lines.unmount events)) := by
  refine congr (.text _ <| .loop evaluate_name (by decide) (by decide) (by decide)
    (fun event _ => .text _ <| .output (evaluate_event_name event) <|
      .text _ <| .output (evaluate_event_handler event) <| .text _ .done) <|
    .text _ .done) ?_
  rw [← String.toList_inj]
  simp [Lines.unmount, Lines.method, Lines.listeners, Line.write, writtenUnit, writeLines,
    String.toList_join, List.flatMap_map]

/-- The method after an update renders as its lines. -/
theorem renders_update (properties : List Value) :
    Renders context [("properties", .list (properties.map nameEntry))] Source.updateBody
      (writeLines writtenUnit (Lines.update (properties.map (·.display)))) := by
  refine congr (.text _ <| .loop evaluate_name (by decide) (by decide) (by decide)
    (fun property _ => .text _ <| .output (evaluate_property_name property) <|
      .text _ <| .output (evaluate_property_name property) <|
      .text _ <| .output (evaluate_property_name property) <|
      .text _ <| .output (evaluate_property_name property) <| .text _ .done) <|
    .text _ .done) ?_
  rw [← String.toList_inj]
  simp [Lines.update, Lines.method, Lines.copyIf, Line.write, writtenUnit, writeLines,
    String.toList_join, List.flatMap_map, List.map_flatMap, List.flatMap_assoc]

/-- Handlers render as their lines. -/
theorem renders_eventHandlers (events : List String) :
    Renders context [("events", .list (events.map eventEntry))] Source.eventHandlersBody
      (writeLines writtenUnit (events.flatMap Lines.eventHandler)) := by
  refine congr (.text _ <| .loop evaluate_name (by decide) (by decide) (by decide)
    (fun event _ => .text _ <| .output (evaluate_event_handler event) <|
      .text _ <| .output (evaluate_event_callback event) <|
      .text _ <| .output (evaluate_event_callback event) <| .text _ .done) <|
    .text _ .done) ?_
  rw [← String.toList_inj]
  simp [Lines.eventHandler, Lines.method, Line.write, writtenUnit, writeLines,
    String.toList_join, List.flatMap_map, List.map_flatMap, List.flatMap_assoc]

private theorem renders_member (scope : Scope) (member : Member) :
    Renders context (("member", memberEntry member) :: scope)
      (.text "" <| .cond (Source.fieldOf "member" "getter") Source.getterBody Source.forwardBody <|
        .text "\n" .done)
      (writeLines writtenUnit (Lines.ofMember member)) := by
  cases member with
  | getter name =>
      have isGetter : (Source.fieldOf "member" "getter").evaluate
          (("member", memberEntry (.getter name)) :: scope) = .ok (.bool true) :=
        evaluate_member evaluate_name (Datum.member?_table (by decide) (by decide) rfl)
      refine congr (.text _ <| .cond isGetter (.text _ <| .output (evaluate_getter_name name) <|
        .text _ <| .output (evaluate_getter_name name) <| .text _ .done) <| .text _ .done) ?_
      rw [← String.toList_inj]
      simp [Lines.ofMember, Lines.method, Line.write, writtenUnit, writeLines]
  | forward name params =>
      have isGetter : (Source.fieldOf "member" "getter").evaluate
          (("member", memberEntry (.forward name params)) :: scope) = .ok (.bool false) :=
        evaluate_member evaluate_name (Datum.member?_table (by decide) (by decide) rfl)
      refine congr (.text _ <| .cond isGetter
        (.text _ <| .output (evaluate_forward_name name params) <|
          .text _ <| .output (evaluate_forward_params name params) <|
          .text _ <| .output (evaluate_forward_name name params) <|
          .text _ <| .output (evaluate_forward_params name params) <| .text _ .done) <|
        .text _ .done) ?_
      rw [← String.toList_inj]
      simp [Lines.ofMember, Lines.method, Line.write, writtenUnit, writeLines]

/-- The public interface renders as its lines. -/
theorem renders_api (members : List Member) :
    Renders context [("members", .list (members.map memberEntry))] Source.apiBody
      (writeLines writtenUnit (members.flatMap Lines.ofMember)) := by
  refine congr (.text _ <| .loop evaluate_name (by decide) (by decide) (by decide)
    (fun member _ => renders_member context _ member) <| .text _ .done) ?_
  rw [writeLines_flatMap, String.empty_append, String.append_empty, String.append_empty]

/-- The rendering renders as its lines. -/
theorem renders_render (tagName : String) :
    Renders context [("tag_name", .text tagName)] Source.renderBody
      (writeLines writtenUnit (Lines.placement tagName)) := by
  refine congr (.text _ <| .output evaluate_name <| .text _ .done) ?_
  rw [← String.toList_inj]
  simp [Lines.placement, Line.write, writtenUnit, writeLines]

end Sections

end ElementWrap.Wrapper
