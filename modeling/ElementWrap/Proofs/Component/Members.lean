import ElementWrap.Proofs.Component.Conversion
import ElementWrap.Proofs.Ordered

/-! # The members of a component

Of the records in a section those without a name are dropped, and those that share a name make up
one member. It stands where the name occurs first, and all that is known of it is what the last
record of the name says (`ElementWrap.Component.ofRecord_members`).
-/

namespace ElementWrap.Component

/-- The names in a list of records, one for each record that has one. -/
def memberNames (records : List Value) : List String := records.filterMap (·.label? "name")

/-- The last record of a name. -/
def lastNamed? (records : List Value) (name : String) : Option Value :=
  records.reverse.find? fun record => record.label? "name" = some name

/-! ## Records by name -/

/-- The records that have a name, each with it. -/
def namedRecords (records : List Value) : List (String × Value) :=
  records.filterMap fun record => (record.label? "name").map fun name => (name, record)

/-- The entry of a dictionary whose keys are texts. -/
def textEntry (entry : String × Value) : Value × Value := (.text entry.1, entry.2)

private theorem putBy_same_text (name : String) (record : Value) (entries : List (String × Value)) :
    Ordered.putBy Value.same (.text name) record (entries.map textEntry) =
      (Ordered.put name record entries).map textEntry := by
  unfold Ordered.put
  induction entries with
  | nil => rfl
  | cons entry rest ih =>
      obtain ⟨k, v⟩ := entry
      rw [List.map_cons, textEntry, Ordered.putBy, Ordered.putBy, ih]
      by_cases same : k = name
      · rw [if_pos (Value.same_text_iff.mpr (congrArg _ same)), if_pos (decide_eq_true same)]
        rfl
      · rw [if_neg fun equal => same (Value.text.inj (Value.same_text_iff.mp equal)),
          if_neg (by simpa using same)]
        rfl

/-- Records are kept under their names, one after the other. -/
theorem byName_labelled {records : List Value}
    (labelled : ∀ record ∈ records, record.IsLabelled "name") (entries : List (String × Value)) :
    byName (entries.map textEntry) records =
      .ok (((namedRecords records).foldl (fun kept entry => Ordered.put entry.1 entry.2 kept)
        entries).map textEntry) := by
  induction records generalizing entries with
  | nil => rfl
  | cons record rest ih =>
      obtain ⟨first, others⟩ := List.forall_mem_cons.mp labelled
      unfold namedRecords
      rw [List.filterMap_cons]
      refine byName_cons_eq_ok_iff.mpr ⟨first.isObject, ?_⟩
      rcases first.part_cases with ⟨s, label, found⟩ | ⟨label, blank⟩
      · have given : (record.part "name").truthy = true := by
          rw [found]
          exact bne_iff_ne.mpr (Value.label?_eq_some_iff.mp label).2
        have isKey : (record.part "name").isKey = true := by rw [found]; rfl
        refine ⟨_, .put given isKey, ?_⟩
        rw [label, found, putBy_same_text]
        exact ih others _
      · rw [label]
        exact ⟨_, .dropped blank, ih others entries⟩

private theorem uniqueRecords_labelled {records : List Value}
    (labelled : ∀ record ∈ records, record.IsLabelled "name") :
    uniqueRecords records = .ok ((Ordered.ofList (namedRecords records)).map Prod.snd) := by
  have kept := byName_labelled labelled []
  rw [List.map_nil] at kept
  unfold uniqueRecords
  rw [kept]
  change Except.ok (List.map _ (List.map _ _)) = _
  rw [List.map_map]
  rfl

private theorem keys_namedRecords (records : List Value) :
    (Ordered.ofList (namedRecords records)).map Prod.fst = (memberNames records).eraseDups := by
  rw [Ordered.keys_ofList]
  unfold namedRecords memberNames
  rw [List.map_filterMap]
  refine congrArg _ (List.filterMap_congr fun record _ => ?_)
  rw [Option.map_map]
  exact congrFun Option.map_id _

private theorem get?_namedRecords (records : List Value) (name : String) :
    Ordered.get? name (Ordered.ofList (namedRecords records)) = lastNamed? records name := by
  rw [Ordered.get?_ofList]
  unfold namedRecords lastNamed?
  rw [← List.filterMap_reverse]
  induction records.reverse with
  | nil => rfl
  | cons record rest ih =>
      cases label : record.label? "name" with
      | none =>
          rw [List.filterMap_cons, List.find?_cons_of_neg (by simp [label]), ← ih, label,
            Option.map_none]
      | some other =>
          rw [List.filterMap_cons, label, Option.map_some]
          by_cases same : other = name
          · rw [List.find?_cons_of_pos (by simpa using same),
              List.find?_cons_of_pos (by simpa [label] using same), Option.map_some]
          · rw [List.find?_cons_of_neg (by simpa using same),
              List.find?_cons_of_neg (by simpa [label] using same), ih]

/-! ## Sections -/

/-- The members of a section are the conversions of the last records of their names, in the order of
the first. -/
theorem forall₂_members {convert : Value → Except Fault α} {record : Value} {key : String}
    {records : List Value} (lists : record.Lists key records)
    (labelled : ∀ record ∈ records, record.IsLabelled "name") {members : List α}
    (made : membersOf convert (record.part key) = .ok members) :
    List.Forall₂ (fun name member => ∃ record, lastNamed? records name = some record ∧
      convert record = .ok member) (memberNames records).eraseDups members := by
  obtain ⟨_, unique, made⟩ := (membersOf_eq_ok_iff lists).mp made
  obtain rfl := Except.ok.inj ((uniqueRecords_labelled labelled).symm.trans unique)
  have distinct : ((Ordered.ofList (namedRecords records)).map Prod.fst).Nodup :=
    keys_namedRecords records ▸ nodup_eraseDups _
  have each := List.forall₂_map_left_iff.mp (mapM_eq_ok_iff.mp made)
  rw [← keys_namedRecords, List.forall₂_map_left_iff]
  refine (forall₂_mem_left each).imp fun entry member ⟨present, converted⟩ =>
    ⟨entry.2, ?_, converted⟩
  rw [← get?_namedRecords]
  exact Ordered.get?_of_mem distinct present

/-! ## Finding members -/

/-- Members represent the records of a section. They have the distinct names of the records, in the
order in which these occur first, and each of them is found under its name and converted from the
last record of that name. Under other names nothing is found. -/
structure Represents (convert : Value → Except Fault α) (nameOf : α → Value)
    (find : Value → Option α) (records : List Value) (members : List α) : Prop where
  names : members.map nameOf = (memberNames records).eraseDups.map .text
  distinct : (members.map nameOf).Nodup
  given : ∀ member ∈ members, (nameOf member).truthy = true
  converted : List.Forall₂ (fun name member => find (.text name) = some member ∧
    ∃ record, lastNamed? records name = some record ∧ convert record = .ok member)
    (memberNames records).eraseDups members
  absent : ∀ name ∉ memberNames records, find (.text name) = none

private theorem label?_of_lastNamed? {records : List Value} {name : String} {record : Value}
    (last : lastNamed? records name = some record) : record.label? "name" = some name := by
  simpa using List.find?_some last

private theorem find?_of_distinct {items : List α} {key : α → Value}
    (distinct : (items.map key).Nodup)
    {item : α} (member : item ∈ items) {s : String} (named : key item = .text s) :
    items.find? (fun other => (key other).equal (.text s)) = some item := by
  have passes : (key item).equal (.text s) = true := Value.equal_text_iff.mpr named
  have isSome : (items.find? fun other => (key other).equal (.text s)).isSome = true :=
    List.find?_isSome.mpr ⟨item, member, passes⟩
  obtain ⟨found, first⟩ := Option.isSome_iff_exists.mp isSome
  have met : (key found).equal (.text s) = true :=
    List.find?_some (p := fun other => (key other).equal (.text s)) first
  have same : key found = .text s := Value.equal_text_iff.mp met
  rw [first, List.inj_on_of_nodup_map distinct (List.mem_of_find?_eq_some first) member
    (same.trans named.symm)]

private theorem represents {convert : Value → Except Fault α} {nameOf : α → Value}
    (keeps : ∀ record member, convert record = .ok member → nameOf member = record.part "name")
    {record : Value} {key : String} {records : List Value} (lists : record.Lists key records)
    (labelled : ∀ record ∈ records, record.IsLabelled "name") {members : List α}
    (made : membersOf convert (record.part key) = .ok members) :
    Represents convert nameOf (fun name => members.find? fun member => (nameOf member).equal name)
      records members := by
  have each := forall₂_members lists labelled made
  have named {name : String} {member : α} (last : ∃ record, lastNamed? records name = some record ∧
      convert record = .ok member) : nameOf member = .text name := by
    obtain ⟨record, found, converted⟩ := last
    rw [keeps record member converted]
    exact (Value.label?_eq_some_iff.mp (label?_of_lastNamed? found)).1
  have names : members.map nameOf = (memberNames records).eraseDups.map .text := by
    refine List.forall₂_eq_eq_eq ▸ List.forall₂_map_left_iff.mpr (List.forall₂_map_right_iff.mpr ?_)
    exact each.flip.imp fun member name last => named last
  have distinct : (members.map nameOf).Nodup :=
    names ▸ (nodup_eraseDups _).map fun _ _ => Value.text.inj
  have nameIn (member : α) (present : member ∈ members) :
      ∃ name ∈ memberNames records, nameOf member = .text name := by
    have listed : nameOf member ∈ members.map nameOf := List.mem_map_of_mem present
    rw [names] at listed
    obtain ⟨name, known, same⟩ := List.mem_map.mp listed
    exact ⟨name, List.mem_eraseDups.mp known, same.symm⟩
  refine ⟨names, distinct, ?_, ?_, ?_⟩
  · intro member present
    obtain ⟨name, known, same⟩ := nameIn member present
    obtain ⟨record, _, label⟩ := List.mem_filterMap.mp known
    rw [same]
    exact bne_iff_ne.mpr (Value.label?_eq_some_iff.mp label).2
  · exact (forall₂_mem_left each.flip).flip.imp fun name member ⟨present, last⟩ =>
      ⟨find?_of_distinct distinct present (named last), last⟩
  · intro name unknown
    refine List.find?_eq_none.mpr fun member present passes => ?_
    obtain ⟨other, known, same⟩ := nameIn member present
    have equal := same.symm.trans (Value.equal_text_iff.mp passes)
    exact unknown (Value.text.inj equal ▸ known)

/-! ## Properties -/

/-- A record marks its property as read-only, by its own mark or by that of the element library. -/
def marksReadOnly (record : Value) : Bool :=
  (record.part "readOnly").truthy ||
    (((record.part "metadata").part "polymer").part "readOnly").truthy

/-- A record declares a property to be copied onto the element: it is public, holds no function and
is not marked as read-only. -/
def declaresBindable (record : Value) : Bool :=
  (record.part "privacy").isText "public" && !(record.part "type").isText functionType &&
    !marksReadOnly record

private theorem marksReadOnly_of_isReadOnly {record : Value} {readOnly : Bool}
    (read : isReadOnly record = .ok readOnly) : readOnly = marksReadOnly record := by
  obtain ⟨mark, own, read⟩ := bind_eq_ok_iff.mp read
  obtain ⟨_, rfl⟩ := Value.field_eq_ok_iff.mp own
  unfold marksReadOnly
  split at read
  · next marked =>
      rw [marked, Bool.true_or]
      exact (Except.ok.inj read).symm
  · next unmarked =>
      rw [Bool.eq_false_iff.mpr unmarked, Bool.false_or]
      obtain ⟨metadata, inside, read⟩ := bind_eq_ok_iff.mp read
      obtain ⟨_, rfl⟩ := Value.field_eq_ok_iff.mp inside
      dsimp only at read
      split at read
      · obtain ⟨library, within, read⟩ := bind_eq_ok_iff.mp read
        obtain ⟨_, rfl⟩ := Value.field_eq_ok_iff.mp within
        split at read
        · obtain ⟨mark, there, read⟩ := bind_eq_ok_iff.mp read
          obtain ⟨_, rfl⟩ := Value.field_eq_ok_iff.mp there
          exact (Except.ok.inj read).symm
        · next blank =>
            rw [Value.part_of_not_truthy (Bool.eq_false_iff.mpr blank)]
            exact (Except.ok.inj read).symm
      · next blank =>
          rw [Value.part_of_not_truthy (Bool.eq_false_iff.mpr blank)]
          exact (Except.ok.inj read).symm

/-- All that is known of a property is what its record says. -/
theorem propertyOf_ok {record : Value} {property : Property}
    (converted : propertyOf record = .ok property) :
    property = {
      name := record.part "name"
      type := record.part "type"
      visibility := visibilityOf (record.part "privacy")
      readOnly := marksReadOnly record
      kind := if (record.part "type").isText functionType then .function else .other
      reserved := isReserved reservedProperties (record.part "name") } := by
  obtain ⟨type, typed, converted⟩ := bind_eq_ok_iff.mp converted
  obtain ⟨name, named, converted⟩ := bind_eq_ok_iff.mp converted
  obtain ⟨privacy, seen, converted⟩ := bind_eq_ok_iff.mp converted
  obtain ⟨readOnly, marked, converted⟩ := bind_eq_ok_iff.mp converted
  obtain ⟨_, rfl⟩ := Value.field_eq_ok_iff.mp typed
  obtain ⟨_, rfl⟩ := Value.field_eq_ok_iff.mp seen
  obtain rfl := Value.part_of_require named
  obtain rfl := marksReadOnly_of_isReadOnly marked
  exact (Except.ok.inj converted).symm

private theorem name_of_propertyOf {record : Value} {property : Property}
    (converted : propertyOf record = .ok property) : property.name = record.part "name" :=
  congrArg Property.name (propertyOf_ok converted)

private theorem isReserved_text (inherited : List String) (name : String) :
    isReserved inherited (.text name) = decide (name ∈ inherited) := by
  unfold isReserved
  rw [Bool.eq_iff_iff, List.any_eq_true, decide_eq_true_eq]
  constructor
  · rintro ⟨reserved, member, same⟩
    exact Value.text.inj (Value.isText_iff.mp same) ▸ member
  · intro member
    exact ⟨name, member, Value.isText_iff.mpr rfl⟩

/-- A property is copied onto the element if its record says so and its name is not inherited. -/
theorem isBindable_of_propertyOf {record : Value} {property : Property} {name : String}
    (converted : propertyOf record = .ok property) (named : record.part "name" = .text name) :
    property.isBindable = (declaresBindable record && decide (name ∉ reservedProperties)) := by
  rw [propertyOf_ok converted, Property.isBindable, named, isReserved_text, decide_not]
  unfold declaresBindable visibilityOf
  cases (record.part "privacy").isText "public" <;>
    cases (record.part "type").isText functionType <;> rfl

private theorem name_of_methodOf {record : Value} {method : Method}
    (converted : methodOf record = .ok method) : method.name = record.part "name" := by
  obtain ⟨_, _, converted⟩ := bind_eq_ok_iff.mp converted
  obtain ⟨_, _, converted⟩ := bind_eq_ok_iff.mp converted
  obtain ⟨_, _, converted⟩ := bind_eq_ok_iff.mp converted
  obtain ⟨_, _, converted⟩ := bind_eq_ok_iff.mp converted
  obtain ⟨name, named, converted⟩ := bind_eq_ok_iff.mp converted
  obtain ⟨_, _, converted⟩ := bind_eq_ok_iff.mp converted
  obtain ⟨_, _, converted⟩ := bind_eq_ok_iff.mp converted
  obtain rfl := Except.ok.inj converted
  exact (Value.part_of_require named).symm

/-! ## Components -/

/-- **The members of a component.** Where a section of a converted record lists objects with at most
texts as names, the members of the component are the names of the section in the order in which they
occur first, each of them converted from the last record of its name, and they are found under these
names alone. The properties that are copied onto the element are those whose last record declares
it and whose name is not inherited. -/
theorem ofRecord_members {record name : Value} {component : Component}
    (converted : ofRecord record name = .ok component) :
    (∀ records, record.Lists "properties" records →
      (∀ member ∈ records, member.IsLabelled "name") →
      Represents propertyOf Property.name component.property? records component.properties ∧
      List.Forall₂ (fun name property => component.property? (.text name) = some property)
        ((memberNames records).eraseDups.filter fun name =>
          (lastNamed? records name).any declaresBindable && decide (name ∉ reservedProperties))
        component.bindable) ∧
    (∀ records, record.Lists "methods" records →
      (∀ member ∈ records, member.IsLabelled "name") →
      Represents methodOf Method.name component.method? records component.methods) := by
  obtain ⟨_, _, _, _, properties, methods⟩ := ofRecord_eq_ok_iff.mp converted
  constructor
  · intro records lists labelled
    have shown := represents (fun _ _ => name_of_propertyOf) lists labelled properties
    have declared (name : String) (property : Property)
        (known : component.property? (.text name) = some property ∧
          ∃ record, lastNamed? records name = some record ∧ propertyOf record = .ok property) :
        ((lastNamed? records name).any declaresBindable && decide (name ∉ reservedProperties)) =
          true ↔ property.isBindable = true := by
      obtain ⟨_, last, found, made⟩ := known
      have named := (Value.label?_eq_some_iff.mp (label?_of_lastNamed? found)).1
      rw [isBindable_of_propertyOf made named, found, Option.any_some]
    exact ⟨shown, (List.rel_filter declared shown.converted).imp fun _ _ => And.left⟩
  · intro records lists labelled
    exact represents (fun _ _ => name_of_methodOf) lists labelled methods

/-- The record of a member with a name and further fields. -/
def memberRecord (name : String) (fields : List (String × Value)) : Value :=
  .object (("name", .text name) :: fields)

/-- Records of properties that repeat names or have none. -/
def repeatingProperties : List Value := [
  memberRecord "b" [("privacy", .text "public"), ("readOnly", .bool true)],
  memberRecord "a" [("privacy", .text "public")],
  .object [("privacy", .text "public")],
  memberRecord "b" [("privacy", .text "public"), ("type", .text "String")],
  memberRecord "a" [("privacy", .text "public"),
    ("metadata", .object [("polymer", .object [("readOnly", .bool true)])])],
  memberRecord "root" [("privacy", .text "public")]]

/-- Records of a method, the later of which does not make it public. -/
def repeatingMethods : List Value :=
  [memberRecord "go" [("privacy", .text "public")], memberRecord "go" []]

/-- The record of an element with these members. -/
def repeatingRecord : Value :=
  .object [("properties", .list repeatingProperties), ("methods", .list repeatingMethods)]

/-- What the record is converted to. -/
def repeatingComponent : Component where
  name := .text "x-a"
  properties := [
    { name := .text "b", type := .text "String", visibility := .visible },
    { name := .text "a", visibility := .visible, readOnly := true },
    { name := .text "root", visibility := .visible, reserved := true }]
  methods := [{ name := .text "go" }]

/-- The last records count where the first ones stood, and the property whose last record is free
of marks is the one that is copied onto the element. -/
theorem ofRecord_members_repeating :
    ofRecord repeatingRecord (.text "x-a") = .ok repeatingComponent ∧
      repeatingComponent.properties.map (·.name) = ["b", "a", "root"].map .text ∧
      List.Forall₂ (fun name property => repeatingComponent.property? (.text name) = some property)
        ["b"] repeatingComponent.bindable ∧
      repeatingComponent.property? (.text "c") = none ∧
      repeatingComponent.methods.map (·.name) = [.text "go"] := by
  have converted : ofRecord repeatingRecord (.text "x-a") = .ok repeatingComponent := rfl
  have named (name : String) (fields : List (String × Value)) :
      (memberRecord name fields).IsLabelled "name" := ⟨⟨_, rfl⟩, .inr ⟨name, rfl⟩⟩
  have nameless : (Value.object [("privacy", .text "public")]).IsLabelled "name" :=
    ⟨⟨_, rfl⟩, .inl rfl⟩
  have propertiesLabelled : ∀ member ∈ repeatingProperties, member.IsLabelled "name" := by
    simp [repeatingProperties, named, nameless]
  have methodsLabelled : ∀ member ∈ repeatingMethods, member.IsLabelled "name" := by
    simp [repeatingMethods, named]
  obtain ⟨properties, methods⟩ := ofRecord_members converted
  obtain ⟨shown, bindable⟩ := properties _ (.listed ⟨_, rfl⟩ rfl) propertiesLabelled
  exact ⟨converted, shown.names, bindable, shown.absent "c" (by decide),
    (methods _ (.listed ⟨_, rfl⟩ rfl) methodsLabelled).names⟩

end ElementWrap.Component
