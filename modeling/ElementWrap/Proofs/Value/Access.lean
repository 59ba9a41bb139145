import ElementWrap.Value.Access

/-! # What an object holds under a name

Reading an object does not fail, and where nothing stands under a name it meets null. A name under
which a list belongs may also be left out, or be given what does not count as given: then the object
lists nothing under it. A label is a text that is not empty. A text equals itself alone.
-/

namespace ElementWrap.Value

/-- The value is an object. -/
def IsObject (value : Value) : Prop := ∃ fields, value = object fields

/-- What stands under a name of an object, null where nothing does. -/
def part (value : Value) (name : String) : Value :=
  match value with
  | object fields => (Ordered.get? name fields).getD null
  | _ => null

/-- Only objects have fields, and a field is the part under its name. -/
theorem field_eq_ok_iff {value found : Value} {name : String} :
    value.field name = .ok found ↔ value.IsObject ∧ value.part name = found := by
  cases value with
  | object fields =>
      constructor
      · intro read
        exact ⟨⟨fields, rfl⟩, Except.ok.inj read⟩
      · rintro ⟨_, same⟩
        exact congrArg Except.ok same
  | _ => exact iff_of_false (fun read => nomatch read) fun ⟨⟨_, same⟩, _⟩ => nomatch same

/-- A field of an object is the part under its name. -/
theorem IsObject.field {value : Value} (isObject : value.IsObject) (name : String) :
    value.field name = .ok (value.part name) :=
  field_eq_ok_iff.mpr ⟨isObject, rfl⟩

/-- A part that was required is the part under its name. -/
theorem part_of_require {value found : Value} {name : String}
    (required : value.require name = .ok found) : value.part name = found := by
  cases value with
  | object fields =>
      dsimp only [require] at required
      dsimp only [part]
      cases held : Ordered.get? name fields with
      | none =>
          rw [held] at required
          exact nomatch required
      | some other =>
          rw [held] at required
          exact Except.ok.inj required
  | _ => exact nomatch required

/-- Only an object has parts. -/
theorem isObject_of_part {value : Value} {name : String} (found : value.part name ≠ null) :
    value.IsObject := by
  cases value with
  | object fields => exact ⟨fields, rfl⟩
  | _ => exact absurd rfl found

/-- What does not count as given holds nothing under any name. -/
theorem part_of_not_truthy {value : Value} (blank : value.truthy = false) (name : String) :
    value.part name = null := by
  cases value with
  | object fields =>
      cases fields with
      | nil => rfl
      | cons field rest => exact nomatch blank
  | _ => rfl

/-- An object lists items under a name: they are the list that stands there, or there are none as
nothing that counts as given stands there. -/
inductive Lists (value : Value) (name : String) : List Value → Prop
  | unset (isObject : value.IsObject) (blank : (value.part name).truthy = false) :
    Lists value name []
  | listed {items : List Value} (isObject : value.IsObject)
    (found : value.part name = list items) : Lists value name items

/-- The items that a value lists under a name; where no list stands there are none. -/
def listed (value : Value) (name : String) : List Value :=
  match value.part name with
  | list items => items
  | _ => []

namespace Lists

variable {value : Value} {name : String} {items : List Value}

/-- What lists items under a name is an object. -/
theorem isObject (lists : value.Lists name items) : value.IsObject := by
  cases lists with
  | unset isObject => exact isObject
  | listed isObject => exact isObject

/-- What it lists are these items. -/
theorem listed_eq (lists : value.Lists name items) : value.listed name = items := by
  unfold Value.listed
  cases lists with
  | unset _ blank =>
      split
      · next items found =>
          rw [found] at blank
          simpa [truthy] using blank
      · rfl
  | listed _ found => rw [found]

/-- The items can be gone through. -/
theorem itemsOrNone_eq (lists : value.Lists name items) :
    (value.part name).itemsOrNone = .ok items := by
  unfold itemsOrNone
  cases lists with
  | unset _ blank => rw [blank, if_neg Bool.false_ne_true]
  | listed _ found =>
      rw [found]
      cases items with
      | nil => rfl
      | cons item rest => rfl

end Lists

/-- The object that lists items under a name and is otherwise the same. -/
def relist (value : Value) (name : String) (items : List Value) : Value :=
  match value with
  | object fields => object (Ordered.put name (list items) fields)
  | other => other

/-- An object stays one when items are listed in it. -/
theorem IsObject.relist {value : Value} (isObject : value.IsObject) (name : String)
    (items : List Value) : (value.relist name items).IsObject := by
  obtain ⟨fields, rfl⟩ := isObject
  exact ⟨_, rfl⟩

/-- The items are listed under their name, and other parts stay. -/
theorem IsObject.part_relist {value : Value} (isObject : value.IsObject) (name other : String)
    (items : List Value) :
    (value.relist name items).part other =
      if name = other then list items else value.part other := by
  obtain ⟨fields, rfl⟩ := isObject
  rw [Value.relist, part, part, Ordered.get?_put]
  split
  · rfl
  · rfl

/-! ## Texts -/

/-- A value is a text exactly if it is that text. -/
theorem isText_iff {value : Value} {s : String} : value.isText s = true ↔ value = text s := by
  cases value with
  | text t =>
      rw [isText, beq_iff_eq, Value.text.injEq]
      exact eq_comm
  | _ => exact iff_of_false Bool.false_ne_true fun same => nomatch same

/-- A value is the same as a text exactly if it is that text. -/
theorem same_text_iff {value : Value} {s : String} :
    value.same (text s) = true ↔ value = text s := by
  cases value with
  | text t =>
      rw [same, beq_iff_eq, Value.text.injEq]
  | _ => exact iff_of_false Bool.false_ne_true fun same => nomatch same

/-- A text is the same as a value exactly if the value is that text. -/
theorem text_same_iff {value : Value} {s : String} :
    (text s).same value = true ↔ value = text s := by
  cases value with
  | text t =>
      rw [same, beq_iff_eq, Value.text.injEq]
      exact eq_comm
  | _ => exact iff_of_false Bool.false_ne_true fun same => nomatch same

/-- A value equals a text exactly if it is that text. -/
theorem equal_text_iff {value : Value} {s : String} :
    value.equal (text s) = true ↔ value = text s := by
  rw [← same_text_iff]
  cases value with
  | real x => cases x <;> rfl
  | _ => rfl

/-! ## Labels -/

/-- The text that stands under a name, unless it is empty. -/
def label? (value : Value) (name : String) : Option String :=
  match value.part name with
  | text s => if s = "" then none else some s
  | _ => none

/-- The label under a name is the text there, if that is not empty. -/
theorem label?_eq_some_iff {value : Value} {name s : String} :
    value.label? name = some s ↔ value.part name = text s ∧ s ≠ "" := by
  unfold label?
  split
  · next t found =>
      rw [found]
      by_cases blank : t = ""
      · rw [if_pos blank]
        refine iff_of_false (fun same => nomatch same) ?_
        rintro ⟨same, given⟩
        exact given (Value.text.inj same ▸ blank)
      · rw [if_neg blank, Option.some.injEq, Value.text.injEq]
        exact ⟨fun same => ⟨same, same ▸ blank⟩, And.left⟩
  · next other =>
      exact iff_of_false (fun same => nomatch same) fun ⟨same, _⟩ => other s same

/-- An object that has at most a text under a name. -/
structure IsLabelled (value : Value) (name : String) : Prop where
  isObject : value.IsObject
  label : value.part name = null ∨ ∃ s, value.part name = text s

/-- Under the name of its label, an object holds the label or what does not count as given. -/
theorem IsLabelled.part_cases {value : Value} {name : String} (labelled : value.IsLabelled name) :
    (∃ s, value.label? name = some s ∧ value.part name = text s) ∨
      value.label? name = none ∧ (value.part name).truthy = false := by
  rcases labelled.label with found | ⟨s, found⟩
  · exact .inr ⟨by rw [label?, found], by rw [found]; rfl⟩
  · by_cases blank : s = ""
    · exact .inr ⟨by rw [label?, found]; exact if_pos blank, by rw [found, blank]; rfl⟩
    · exact .inl ⟨s, label?_eq_some_iff.mpr ⟨found, blank⟩, found⟩

/-- Among labelled objects, what stands under the name and counts as given are the labels. -/
theorem filter_truthy_parts {name : String} {values : List Value}
    (labelled : ∀ value ∈ values, value.IsLabelled name) :
    (values.map (·.part name)).filter truthy =
      (values.filterMap (·.label? name)).map text := by
  induction values with
  | nil => rfl
  | cons value rest ih =>
      obtain ⟨first, others⟩ := List.forall_mem_cons.mp labelled
      rcases first.part_cases with ⟨s, label, found⟩ | ⟨label, blank⟩
      · have given : (text s).truthy = true := bne_iff_ne.mpr (label?_eq_some_iff.mp label).2
        rw [List.map_cons, found, List.filter_cons_of_pos given, ih others,
          List.filterMap_cons, label, List.map_cons]
      · rw [List.map_cons, List.filter_cons_of_neg (Bool.eq_false_iff.mp blank), ih others,
          List.filterMap_cons, label]

end ElementWrap.Value
