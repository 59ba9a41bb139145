import ElementWrap.Wrapper.Sections

/-! # The bodies of the wrapper templates

What each template of a class is made of once it is read: its texts with the blanks and line feeds
that remain around its tags, its outputs, loops and conditionals. Every template can be used, and
has the body given here.
-/

namespace ElementWrap.Wrapper.Source

open Template

/-- A member of what a loop's variable stands for. -/
def fieldOf (item field : String) : Expression := .member (.name item) field

/-- The body of the line that opens the class. -/
def classHeaderBody : Body :=
  .text "export " <|
  .cond (.name "export_default") (.text "default " .done) .done <|
  .text "class " <|
  .output (.name "class_name") <|
  .text " extends React.Component \x7b\n\n" .done

/-- The body of the constructor. -/
def constructorBody : Body :=
  .text "    constructor(props) \x7b\n        super(props);\n" <|
  .loop "event" (.name "events")
    (.text "        this." <|
      .output (fieldOf "event" "handler") <|
      .text " = this." <|
      .output (fieldOf "event" "handler") <|
      .text ".bind(this);\n" .done)
    .done <|
  .text "    \x7d\n\n" .done

/-- What a listener is added or removed with, for each event. -/
def listenersBody (call : String) : Body :=
  .text call <|
  .output (fieldOf "event" "name") <|
  .text "', this." <|
  .output (fieldOf "event" "handler") <|
  .text ");\n" .done

/-- The part of a property's block that copies its value. -/
def copyBody (opening : String) : Body :=
  .text opening <|
  .output (fieldOf "property" "name") <|
  .text " = this.props." <|
  .output (fieldOf "property" "name") <|
  .text ";\n        \x7d\n" .done

/-- The body of the callback of the insertion. -/
def mountBody : Body :=
  .text "    componentDidMount() \x7b\n" <|
  .loop "event" (.name "events")
    (listenersBody "        this._refElement.addEventListener('") .done <|
  .text "" <|
  .loop "property" (.name "properties")
    (.text "        if (this.props." <|
      .output (fieldOf "property" "name") <|
      copyBody ") \x7b\n            this._refElement.")
    .done <|
  .text "    \x7d\n\n" .done

/-- The body of the callback of the removal. -/
def unmountBody : Body :=
  .text "    componentWillUnmount() \x7b\n" <|
  .loop "event" (.name "events")
    (listenersBody "        this._refElement.removeEventListener('") .done <|
  .text "    \x7d\n\n" .done

/-- The body of the callback of an update. -/
def updateBody : Body :=
  .text "    componentDidUpdate(pp) \x7b\n" <|
  .loop "property" (.name "properties")
    (.text "        if (pp." <|
      .output (fieldOf "property" "name") <|
      .text " !== this.props." <|
      .output (fieldOf "property" "name") <|
      copyBody ") \x7b\n            this._refElement.")
    .done <|
  .text "    \x7d\n\n" .done

/-- The body of the event handlers. -/
def eventHandlersBody : Body :=
  .text "" <|
  .loop "event" (.name "events")
    (.text "    " <|
      .output (fieldOf "event" "handler") <|
      .text "(e) \x7b\n        if (this.props." <|
      .output (fieldOf "event" "callback") <|
      .text ") \x7b\n            this.props." <|
      .output (fieldOf "event" "callback") <|
      .text "(e.detail, e);\n        \x7d\n    \x7d\n\n" .done)
    .done <|
  .text "" .done

/-- The body of a getter. -/
def getterBody : Body :=
  .text "    get " <|
  .output (fieldOf "member" "name") <|
  .text "() \x7b\n        return this._refElement." <|
  .output (fieldOf "member" "name") <|
  .text ";\n    \x7d\n" .done

/-- The names of the parameters of a method. -/
def paramNames : Expression := .filter (fieldOf "member" "params") "join_names" []

/-- The body of a forwarding method. -/
def forwardBody : Body :=
  .text "    " <|
  .output (fieldOf "member" "name") <|
  .text "(" <|
  .output paramNames <|
  .text ") \x7b\n        this._refElement." <|
  .output (fieldOf "member" "name") <|
  .text "(" <|
  .output paramNames <|
  .text ");\n    \x7d\n" .done

/-- The body of the public interface. -/
def apiBody : Body :=
  .text "" <|
  .loop "member" (.name "members")
    (.text "" <|
      .cond (fieldOf "member" "getter") getterBody forwardBody <|
      .text "\n" .done)
    .done <|
  .text "" .done

/-- The body of the method that places the element. -/
def renderBody : Body :=
  .text "    render() \x7b\n        return (\n            <div>\n                <" <|
  .output (.name "tag_name") <|
  .text
    ("\n                  ref=\x7b(element) => \x7bthis._refElement = element;\x7d\x7d/>\n" ++
      "            </div>\n        );\n    \x7d\n") .done

/-- The body of the module that exports a class. -/
def indexBody : Body :=
  .text "import " <|
  .output (.name "class_name") <|
  .text " from './" <|
  .output (.name "class_name") <|
  .text "';\n\nexport default " <|
  .output (.name "class_name") <|
  .text ";\n" .done

private theorem compile_eq {source : List Char} {body : Body}
    (read : Body.ofChars? source = some body)
    (sound : body.defect? = none) : Body.compile source = .ok body := by
  simp only [Body.compile, read, sound]

private theorem cutText_eq_self {cs : List Char} (uncut : (cutText cs).2 = none) :
    cutText cs = (cs, none) := by
  induction cs with
  | nil => rfl
  | cons c rest ih =>
      unfold cutText at uncut ⊢
      simp only at uncut ⊢
      split at uncut
      · exact nomatch uncut
      · next shut => rw [ih uncut]

/-- A template without an opening is its own text. -/
theorem compile_verbatim {source : String} (uncut : (cutText source.toList).2 = none)
    (unified : Text.unifyNewlines source.toList = source.toList) :
    Body.compile source.toList = .ok (.text source .done) := by
  have segments : segments? source.toList = some [.text source] := by
    unfold segments?
    rw [unified]
    unfold cut
    simp only [cutText_eq_self uncut, String.ofList_toList]
  have read : Body.ofChars? source.toList = some (.text source .done) := by
    unfold Body.ofChars?
    rw [segments]
    rfl
  exact compile_eq read rfl

section Templates

-- Reading a template recurses once for each of its characters.
set_option maxRecDepth 10000

/-- The template of the file header is a text. -/
theorem compile_fileHeader : Body.compile fileHeader.toList = .ok (.text fileHeader .done) := by
  apply compile_verbatim <;>
    simp only [fileHeader, lines, String.join_cons, String.join_nil, List.map_cons, List.map_nil,
      String.toList_append] <;>
    repeat rw [String.toList_ofList]
  · rfl
  · rfl

/-- The body of the template of an index. -/
theorem compile_index : Body.compile index.toList = .ok indexBody := by
  refine compile_eq ?_ rfl
  simp only [index, lines, slot, String.join_cons, String.join_nil, List.map_cons, List.map_nil,
    String.toList_append]
  repeat rw [String.toList_ofList]
  rfl

/-- The template of the helpers is a text. -/
theorem compile_helpers : Body.compile helpers.toList = .ok (.text helpers .done) := by
  apply compile_verbatim <;>
    simp only [helpers, lines, String.join_cons, String.join_nil, List.map_cons, List.map_nil,
      String.toList_append] <;>
    repeat rw [String.toList_ofList]
  · rfl
  · rfl

/-- The body of the template that opens a class. -/
theorem compile_classHeader : Body.compile classHeader.toList = .ok classHeaderBody := by
  refine compile_eq ?_ rfl
  simp only [classHeader, lines, slot, tag, String.join_cons, String.join_nil, List.map_cons,
    List.map_nil, String.toList_append]
  repeat rw [String.toList_ofList]
  rfl

/-- The body of the template of a constructor. -/
theorem compile_constructor : Body.compile constructor.toList = .ok constructorBody := by
  refine compile_eq ?_ rfl
  simp only [constructor, lines, slot, tag, String.join_cons, String.join_nil, List.map_cons,
    List.map_nil, String.toList_append]
  repeat rw [String.toList_ofList]
  rfl

/-- The body of the template of the method after mounting. -/
theorem compile_mount : Body.compile mount.toList = .ok mountBody := by
  refine compile_eq ?_ rfl
  simp only [mount, lines, slot, tag, String.join_cons, String.join_nil, List.map_cons,
    List.map_nil, String.toList_append]
  repeat rw [String.toList_ofList]
  rfl

/-- The body of the template of the method before unmounting. -/
theorem compile_unmount : Body.compile unmount.toList = .ok unmountBody := by
  refine compile_eq ?_ rfl
  simp only [unmount, lines, slot, tag, String.join_cons, String.join_nil, List.map_cons,
    List.map_nil, String.toList_append]
  repeat rw [String.toList_ofList]
  rfl

/-- The body of the template of the method after an update. -/
theorem compile_update : Body.compile update.toList = .ok updateBody := by
  refine compile_eq ?_ rfl
  simp only [update, lines, slot, tag, String.join_cons, String.join_nil, List.map_cons,
    List.map_nil, String.toList_append]
  repeat rw [String.toList_ofList]
  rfl

/-- The body of the template of the handlers. -/
theorem compile_eventHandlers : Body.compile eventHandlers.toList = .ok eventHandlersBody := by
  refine compile_eq ?_ rfl
  simp only [eventHandlers, lines, slot, tag, String.join_cons, String.join_nil, List.map_cons,
    List.map_nil, String.toList_append]
  repeat rw [String.toList_ofList]
  rfl

/-- The body of the template of the public interface. -/
theorem compile_api : Body.compile api.toList = .ok apiBody := by
  refine compile_eq ?_ rfl
  simp only [api, lines, slot, tag, String.join_cons, String.join_nil, List.map_cons,
    List.map_nil, String.toList_append]
  repeat rw [String.toList_ofList]
  rfl

/-- The body of the template of the rendering. -/
theorem compile_render : Body.compile render.toList = .ok renderBody := by
  refine compile_eq ?_ rfl
  simp only [render, lines, slot, String.join_cons, String.join_nil, List.map_cons, List.map_nil,
    String.toList_append]
  repeat rw [String.toList_ofList]
  rfl

end Templates

end ElementWrap.Wrapper.Source
