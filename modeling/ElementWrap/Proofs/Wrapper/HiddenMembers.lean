import ElementWrap.Proofs.Component.Members
import ElementWrap.Wrapper.Sections

/-! # Hidden members do not show in a class

What the sections of a class know of a component are its name, its events, the properties that are
copied onto the element and the members of the public interface. A member that is none of these
leaves every section as it is. So a record may be given such a member anywhere in a section, under
a name that is free there, and the class of its component stays what it was
(`ElementWrap.Wrapper.classText_of_hidden`).
-/

namespace ElementWrap

namespace Component

/-! ## One record more -/

section Insertion

variable {label : String}

/-- A name that no record has is not among those under which records are kept. -/
theorem byName_new {records : List Value} {kept result : List (Value × Value)}
    (unused : ∀ record ∈ records, record.part "name" ≠ .text label)
    (new : .text label ∉ kept.map Prod.fst) (ran : byName kept records = .ok result) :
    .text label ∉ result.map Prod.fst := by
  induction records generalizing kept with
  | nil =>
      cases ran
      exact new
  | cons record rest ih =>
      obtain ⟨other, others⟩ := List.forall_mem_cons.mp unused
      obtain ⟨_, next, keeps, ran⟩ := byName_cons_eq_ok_iff.mp ran
      refine ih others ?_ ran
      cases keeps with
      | dropped => exact new
      | put =>
          intro known
          obtain ⟨entry, member, named⟩ := List.mem_map.mp known
          rcases Ordered.fst_of_mem_putBy member with same | earlier
          · exact other (same.symm.trans named)
          · exact new (named ▸ earlier)

/-- Records are kept around the entry of a name that none of them has as they are without it. -/
theorem byName_insert (hidden : Value) {records : List Value}
    {before after result : List (Value × Value)}
    (unused : ∀ record ∈ records, record.part "name" ≠ .text label)
    (ran : byName (before ++ after) records = .ok result) :
    ∃ first last, result = first ++ last ∧
      byName (before ++ (.text label, hidden) :: after) records =
        .ok (first ++ (.text label, hidden) :: last) := by
  -- Each record is kept before or after the entry, so both sides vary along the way.
  induction records generalizing before after with
  | nil =>
      cases ran
      exact ⟨before, after, rfl, rfl⟩
  | cons record rest ih =>
      obtain ⟨other, others⟩ := List.forall_mem_cons.mp unused
      obtain ⟨isObject, next, keeps, ran⟩ := byName_cons_eq_ok_iff.mp ran
      cases keeps with
      | dropped nameless =>
          obtain ⟨first, last, divided, extended⟩ := ih others ran
          exact ⟨first, last, divided,
            byName_cons_eq_ok_iff.mpr ⟨isObject, _, .dropped nameless, extended⟩⟩
      | put given isKey =>
          have apart : Value.same (.text label) (record.part "name") = false :=
            Bool.eq_false_iff.mpr fun same => other (Value.text_same_iff.mp same)
          obtain ⟨earlier, later, without, around⟩ :
              ∃ earlier later : List (Value × Value), _ ∧ _ = earlier ++ (_, hidden) :: later :=
            Ordered.exists_putBy_insert apart record before after
          rw [without] at ran
          obtain ⟨first, last, divided, extended⟩ := ih others ran
          refine ⟨first, last, divided,
            byName_cons_eq_ok_iff.mpr ⟨isObject, _, .put given isKey, ?_⟩⟩
          rwa [around]

/-- A record under a new name is kept behind the earlier ones, and the later ones around it. -/
theorem byName_cons_insert {hidden : Value} {records : List Value}
    {kept result : List (Value × Value)} (named : hidden.part "name" = .text label)
    (given : label ≠ "") (new : .text label ∉ kept.map Prod.fst)
    (unused : ∀ record ∈ records, record.part "name" ≠ .text label)
    (ran : byName kept records = .ok result) :
    ∃ first last, result = first ++ last ∧
      byName kept (hidden :: records) = .ok (first ++ (.text label, hidden) :: last) := by
  have isObject : hidden.IsObject :=
    Value.isObject_of_part fun absent => nomatch named.symm.trans absent
  have truthy : (hidden.part "name").truthy = true := by
    rw [named]
    exact bne_iff_ne.mpr given
  have isKey : (hidden.part "name").isKey = true := by rw [named]; rfl
  have placed : Ordered.putBy Value.same (hidden.part "name") hidden kept =
      kept ++ [(.text label, hidden)] := by
    rw [named]
    refine Ordered.putBy_of_new fun entry member => Bool.eq_false_iff.mpr fun same => new ?_
    rw [← Value.same_text_iff.mp same]
    exact List.mem_map_of_mem member
  rw [← List.append_nil kept] at ran
  obtain ⟨first, last, divided, extended⟩ := byName_insert hidden unused ran
  rw [← placed] at extended
  exact ⟨first, last, divided,
    byName_cons_eq_ok_iff.mpr ⟨isObject, _, .put truthy isKey, extended⟩⟩

/-- A record with a name that no other has is kept in its place among the others, or it is dropped
if the name is empty. -/
theorem uniqueRecords_insert {hidden : Value} {before after records : List Value}
    (named : hidden.part "name" = .text label)
    (unused : ∀ other ∈ before ++ after, other.part "name" ≠ .text label)
    (unique : uniqueRecords (before ++ after) = .ok records) :
    ∃ first more last, records = first ++ last ∧ (∀ record ∈ more, record = hidden) ∧
      uniqueRecords (before ++ hidden :: after) = .ok (first ++ (more ++ last)) := by
  obtain ⟨kept, ran, made⟩ := bind_eq_ok_iff.mp unique
  cases made
  rw [byName_append] at ran
  obtain ⟨earlier, begun, ended⟩ := bind_eq_ok_iff.mp ran
  obtain ⟨unusedBefore, unusedAfter⟩ := List.forall_mem_append.mp unused
  have continued {result : List (Value × Value)}
      (rest : byName earlier (hidden :: after) = .ok result) :
      uniqueRecords (before ++ hidden :: after) = .ok (result.map Prod.snd) := by
    unfold uniqueRecords
    rw [byName_append, begun]
    exact bind_eq_ok_iff.mpr ⟨result, rest, rfl⟩
  by_cases blank : label = ""
  · have isObject : hidden.IsObject :=
      Value.isObject_of_part fun absent => nomatch named.symm.trans absent
    have nameless : (hidden.part "name").truthy = false := by rw [named, blank]; rfl
    have dropped : byName earlier (hidden :: after) = .ok kept :=
      byName_cons_eq_ok_iff.mpr ⟨isObject, earlier, .dropped nameless, ended⟩
    exact ⟨[], [], _, rfl, fun _ member => absurd member List.not_mem_nil, continued dropped⟩
  · have new := byName_new unusedBefore List.not_mem_nil begun
    obtain ⟨first, last, rfl, inserted⟩ := byName_cons_insert named blank new unusedAfter ended
    refine ⟨first.map Prod.snd, [hidden], last.map Prod.snd, List.map_append,
      fun _ => List.mem_singleton.mp, ?_⟩
    rw [continued inserted, List.map_append, List.map_cons, List.singleton_append]

/-- In a section one record more, with a name of its own, makes up at most one member more, and it
leaves the others as they are. -/
theorem membersOf_insert {convert : Value → Except Fault α} {record hidden : Value} {key : String}
    {before after : List Value} {member : α} {members : List α}
    (lists : record.Lists key (before ++ after)) (converted : convert hidden = .ok member)
    (named : hidden.part "name" = .text label)
    (unused : ∀ other ∈ before ++ after, other.part "name" ≠ .text label)
    (made : membersOf convert (record.part key) = .ok members) :
    ∃ first more last, members = first ++ last ∧ (∀ other ∈ more, other = member) ∧
      membersOf convert ((record.relist key (before ++ hidden :: after)).part key) =
        .ok (first ++ (more ++ last)) := by
  obtain ⟨records, unique, made⟩ := (membersOf_eq_ok_iff lists).mp made
  obtain ⟨first, more, last, rfl, alike, inserted⟩ := uniqueRecords_insert named unused unique
  obtain ⟨early, late, rfl, begun, ended⟩ := mapM_append_eq_ok_iff.mp made
  have added : more.mapM convert = .ok (more.map fun _ => member) :=
    mapM_ok_of_forall fun other present => (alike other present).symm ▸ converted
  have relisted : (record.relist key (before ++ hidden :: after)).Lists key
      (before ++ hidden :: after) := by
    refine .listed (lists.isObject.relist key _) ?_
    rw [lists.isObject.part_relist, if_pos rfl]
  refine ⟨early, more.map fun _ => member, late, rfl, ?_, ?_⟩
  · intro other present
    obtain ⟨_, _, same⟩ := List.mem_map.mp present
    exact same.symm
  · refine (membersOf_eq_ok_iff relisted).mpr ⟨_, inserted, ?_⟩
    exact mapM_append_eq_ok_iff.mpr ⟨early, _, rfl, begun,
      mapM_append_eq_ok_iff.mpr ⟨_, late, rfl, added, ended⟩⟩

end Insertion

end Component

/-! ## Members that do not show -/

/-- The property is not copied onto the element, and it is not read as a function that the element
adds to what it inherits. -/
def Property.IsUnseen (property : Property) : Prop :=
  property.isBindable = false ∧ (property.isFunction = false ∨ property.reserved = true)

/-- The method is not public, or it is inherited, or it can neither be called nor read. -/
def Method.IsUnseen (method : Method) : Prop :=
  method.visibility ≠ .visible ∨ method.reserved = true ∨
    (method.kind ≠ .function ∧ method.kind ≠ .accessor)

namespace Wrapper

private theorem propertyDatum?_unseen {property : Property} (unseen : property.IsUnseen) :
    propertyDatum? property = none := by
  unfold propertyDatum?
  rcases unseen.2 with value | inherited
  · rw [value, Bool.false_and, if_neg Bool.false_ne_true]
  · rw [inherited, Bool.not_true, Bool.and_false, if_neg Bool.false_ne_true]

private theorem methodDatum?_unseen {method : Method} (unseen : method.IsUnseen) :
    methodDatum? method = none := by
  unfold methodDatum?
  by_cases exposed : method.isExposed = true
  · obtain ⟨visible, own⟩ := Bool.and_eq_true_iff.mp exposed
    rw [exposed, Bool.not_true, if_neg Bool.false_ne_true]
    rcases unseen with hidden | inherited | ⟨uncalled, unread⟩
    · exact absurd (beq_iff_eq.mp visible) hidden
    · rw [inherited] at own
      exact absurd own Bool.false_ne_true
    · split
      · next called => exact absurd called uncalled
      · next read => exact absurd read unread
      · rfl
  · rw [Bool.eq_false_iff.mpr exposed, Bool.not_false, if_pos rfl]

/-- The class of a component depends on its name, its events, the properties that are copied onto
the element and the members of the public interface alone. -/
theorem classText_congr {first second : Component} (name : first.name = second.name)
    (events : first.events = second.events) (bindable : first.bindable = second.bindable)
    (members : membersContext first = membersContext second) (config : Config) :
    classText config first = classText config second := by
  have fired : eventsContext first = eventsContext second := by
    unfold eventsContext
    rw [events]
  have copied : propertiesContext first = propertiesContext second := by
    unfold propertiesContext
    rw [bindable]
  unfold classText sections constructorMethod mountCallback unmountCallback updateCallback
    eventHandlers publicInterface
  rw [name, fired, copied, members]

private theorem filterMap_insert {show? : α → Option β} {more : List α}
    (unseen : ∀ item ∈ more, show? item = none) (first last : List α) :
    (first ++ (more ++ last)).filterMap show? = (first ++ last).filterMap show? := by
  rw [List.filterMap_append, List.filterMap_append, List.filterMap_eq_nil_iff.mpr unseen,
    List.nil_append, List.filterMap_append]

/-- Properties that do not show may stand among the others. -/
theorem classText_insert_properties {component : Component} {first more last : List Property}
    (divided : component.properties = first ++ last) (unseen : ∀ other ∈ more, other.IsUnseen)
    (config : Config) :
    classText config { component with properties := first ++ (more ++ last) } =
      classText config component := by
  have unbound : more.filter Property.isBindable = [] := List.filter_eq_nil_iff.mpr
    fun other present => Bool.eq_false_iff.mp (unseen other present).1
  apply classText_congr
  · rfl
  · rfl
  · unfold Component.bindable
    rw [divided, List.filter_append, List.filter_append, unbound, List.nil_append,
      List.filter_append]
  · unfold membersContext
    rw [divided, filterMap_insert fun other present => propertyDatum?_unseen (unseen other present)]

/-- Methods that do not show may stand among the others. -/
theorem classText_insert_methods {component : Component} {first more last : List Method}
    (divided : component.methods = first ++ last) (unseen : ∀ other ∈ more, other.IsUnseen)
    (config : Config) :
    classText config { component with methods := first ++ (more ++ last) } =
      classText config component := by
  apply classText_congr
  · rfl
  · rfl
  · rfl
  · unfold membersContext
    rw [divided, filterMap_insert fun other present => methodDatum?_unseen (unseen other present)]

/-- The record of a section converts to a member that does not show. -/
inductive IsHidden (record : Value) : (key : String) → Prop
  | property {property : Property} (converted : Component.propertyOf record = .ok property)
    (unseen : property.IsUnseen) : IsHidden record "properties"
  | method {method : Method} (converted : Component.methodOf record = .ok method)
    (unseen : method.IsUnseen) : IsHidden record "methods"

/-- **Hidden members do not show.** Where the record of an element that converts lists members in a
section, one more record may stand anywhere in the list if it converts to a member that does not
show and no other record of the section has its name. The element still converts, and the class of
its component is the same in every layout and with every indentation. -/
theorem classText_of_hidden {record hidden name : Value} {component : Component}
    (converted : Component.ofRecord record name = .ok component) {key : String}
    {before after : List Value} (lists : record.Lists key (before ++ after))
    (isHidden : IsHidden hidden key) {label : String} (named : hidden.part "name" = .text label)
    (unused : ∀ other ∈ before ++ after, other.part "name" ≠ .text label) :
    ∃ extended,
      Component.ofRecord (record.relist key (before ++ hidden :: after)) name = .ok extended ∧
        ∀ config, classText config extended = classText config component := by
  obtain ⟨given, isObject, rfl, events, properties, methods⟩ :=
    Component.ofRecord_eq_ok_iff.mp converted
  have relisted := isObject.relist key (before ++ hidden :: after)
  cases isHidden with
  | property shown unseen =>
      obtain ⟨first, more, last, divided, alike, inserted⟩ :=
        Component.membersOf_insert lists shown named unused properties
      refine ⟨{ component with properties := first ++ (more ++ last) },
        Component.ofRecord_eq_ok_iff.mpr ⟨given, relisted, rfl, ?_, inserted, ?_⟩,
        classText_insert_properties divided fun other present => ?_⟩
      · rwa [isObject.part_relist, if_neg (by decide)]
      · rwa [isObject.part_relist, if_neg (by decide)]
      · rwa [alike other present]
  | method shown unseen =>
      obtain ⟨first, more, last, divided, alike, inserted⟩ :=
        Component.membersOf_insert lists shown named unused methods
      refine ⟨{ component with methods := first ++ (more ++ last) },
        Component.ofRecord_eq_ok_iff.mpr ⟨given, relisted, rfl, ?_, ?_, inserted⟩,
        classText_insert_methods divided fun other present => ?_⟩
      · rwa [isObject.part_relist, if_neg (by decide)]
      · rwa [isObject.part_relist, if_neg (by decide)]
      · rwa [alike other present]

/-- The record of an element that declares two properties and no methods. -/
def plainRecord : Value :=
  .object [("properties", .list [
    Component.memberRecord "a" [("privacy", .text "public")],
    Component.memberRecord "b" [("type", .text functionType)]])]

/-- What the record is converted to. -/
def plainComponent : Component where
  name := .text "x-a"
  properties := [
    { name := .text "a", visibility := .visible },
    { name := .text "b", type := .text functionType, kind := .function }]

/-- A property between the two that is not public does not show, nor does a public method that every
element inherits. -/
theorem classText_of_hidden_plain :
    (∃ extended,
      Component.ofRecord (plainRecord.relist "properties" [
        Component.memberRecord "a" [("privacy", .text "public")],
        Component.memberRecord "c" [("type", .text "Object")],
        Component.memberRecord "b" [("type", .text functionType)]]) (.text "x-a") =
          .ok extended ∧
        ∀ config, classText config extended = classText config plainComponent) ∧
    ∃ extended,
      Component.ofRecord (plainRecord.relist "methods" [
        Component.memberRecord "set" [("privacy", .text "public")]]) (.text "x-a") =
          .ok extended ∧
        ∀ config, classText config extended = classText config plainComponent := by
  have converted : Component.ofRecord plainRecord (.text "x-a") = .ok plainComponent := rfl
  have isObject : plainRecord.IsObject := ⟨_, rfl⟩
  constructor
  · have listed : plainRecord.Lists "properties" (
        [Component.memberRecord "a" [("privacy", .text "public")]] ++
          [Component.memberRecord "b" [("type", .text functionType)]]) := .listed isObject rfl
    refine classText_of_hidden converted listed (.property rfl ⟨rfl, .inl rfl⟩) rfl ?_
    intro other present
    rcases List.mem_append.mp present with first | last
    · rw [List.mem_singleton.mp first]
      exact fun same => absurd (Value.text.inj same) (by decide)
    · rw [List.mem_singleton.mp last]
      exact fun same => absurd (Value.text.inj same) (by decide)
  · have unset : plainRecord.Lists "methods" ([] ++ []) := .unset isObject rfl
    exact classText_of_hidden converted unset (.method rfl (.inr (.inl rfl))) rfl
      fun _ present => absurd present List.not_mem_nil

end Wrapper

end ElementWrap
