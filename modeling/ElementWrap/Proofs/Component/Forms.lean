import ElementWrap.Proofs.Component.Conversion
import ElementWrap.Proofs.Ordered

/-! # Sections as lists and as mappings

A section of a record lists its members, or it maps their names to them. A member under its name
need not repeat the name, since it is read with the name put behind its other entries, and where an
entry of an object stands makes no difference to a conversion. So both forms of a section come to
the same (`ElementWrap.Component.ofRecord_regrouped`).
-/

namespace ElementWrap

/-! ## Objects that read the same -/

namespace Value

private theorem holds_object (name : String) (fields : List (String × Value)) :
    (object fields).holds name = .ok (Ordered.get? name fields).isSome := by
  refine congrArg Except.ok ?_
  rw [Bool.eq_iff_iff, Ordered.isSome_get?_iff]
  simp

/-- Two objects have the same under every name. -/
inductive Alike : Value → Value → Prop
  | object {fields others : List (String × Value)}
    (same : ∀ key, Ordered.get? key fields = Ordered.get? key others) :
    Alike (.object fields) (.object others)

namespace Alike

variable {first second : Value}

private theorem field (alike : Alike first second) (name : String) :
    first.field name = second.field name := by
  cases alike with
  | object same => simp only [Value.field, same]

private theorem field? (alike : Alike first second) (name : String) :
    first.field? name = second.field? name := by
  cases alike with
  | object same => simp only [Value.field?, same]

private theorem require (alike : Alike first second) (name : String) :
    first.require name = second.require name := by
  cases alike with
  | object same => simp only [Value.require, same]

end Alike
end Value

namespace Component

open Value

section Alike

variable {first second : Value}

private theorem eventOf_alike (alike : Alike first second) : eventOf first = eventOf second := by
  simp only [eventOf, alike.require]

private theorem isReadOnly_alike (alike : Alike first second) :
    isReadOnly first = isReadOnly second := by
  simp only [isReadOnly, alike.field]

private theorem propertyOf_alike (alike : Alike first second) :
    propertyOf first = propertyOf second := by
  simp only [propertyOf, alike.field, alike.require, isReadOnly_alike alike]

private theorem kindOf_alike (alike : Alike first second) (type : Value) :
    kindOf first type = kindOf second type := by
  simp only [kindOf, alike.field]

private theorem methodOf_alike (alike : Alike first second) : methodOf first = methodOf second := by
  simp only [methodOf, alike.field, alike.field?, alike.require, kindOf_alike alike]

end Alike

/-! ## Records that read the same -/

section Records

variable {records others : List Value}

private theorem mapM_alike {convert : Value → Except Fault α}
    (same : ∀ {first second}, Alike first second → convert first = convert second)
    (alike : List.Forall₂ Alike records others) : records.mapM convert = others.mapM convert := by
  induction alike with
  | nil => rfl
  | cons first _ ih => rw [List.mapM_cons, List.mapM_cons, same first, ih]

/-- Records are kept under one name, and they read the same. -/
def KeptAlike (entry other : Value × Value) : Prop :=
  entry.1 = other.1 ∧ Alike entry.2 other.2

private theorem putBy_alike {kept entries : List (Value × Value)} {record other : Value}
    (keptAlike : List.Forall₂ KeptAlike kept entries) (alike : Alike record other) (name : Value) :
    List.Forall₂ KeptAlike (Ordered.putBy Value.same name record kept)
      (Ordered.putBy Value.same name other entries) := by
  induction keptAlike with
  | nil => exact .cons ⟨rfl, alike⟩ .nil
  | @cons entry later kept entries first rest ih =>
      obtain ⟨key, value⟩ := entry
      obtain ⟨_, value'⟩ := later
      obtain ⟨rfl, valueAlike⟩ := first
      rw [Ordered.putBy, Ordered.putBy]
      split
      · exact .cons ⟨rfl, alike⟩ rest
      · exact .cons ⟨rfl, valueAlike⟩ ih

/-- Whatever follows the records by name is the same if it does not tell apart what reads the
same. -/
theorem bind_byName_alike {following : List (Value × Value) → Except Fault α}
    (same : ∀ {kept entries}, List.Forall₂ KeptAlike kept entries →
      following kept = following entries)
    (alike : List.Forall₂ Alike records others) {kept entries : List (Value × Value)}
    (keptAlike : List.Forall₂ KeptAlike kept entries) :
    byName kept records >>= following = byName entries others >>= following := by
  -- What was kept so far is not the same either, it only reads the same, and it grows on the way.
  induction alike generalizing kept entries with
  | nil => exact same keptAlike
  | cons first _ ih =>
      rw [byName, byName, bind_assoc, bind_assoc, first.field]
      refine bind_congr fun name => ?_
      split
      · split
        · exact ih (putBy_alike keptAlike first name)
        · rfl
      · exact ih keptAlike

private theorem bind_uniqueRecords_alike {convert : Value → Except Fault α}
    (same : ∀ {first second}, Alike first second → convert first = convert second)
    (alike : List.Forall₂ Alike records others) :
    uniqueRecords records >>= List.mapM convert = uniqueRecords others >>= List.mapM convert := by
  unfold uniqueRecords
  rw [bind_assoc, bind_assoc]
  refine bind_byName_alike (fun keptAlike => mapM_alike same ?_) alike .nil
  exact List.forall₂_map_left_iff.mpr
    (List.forall₂_map_right_iff.mpr (keptAlike.imp fun _ _ => And.right))

end Records

/-! ## Members under their names -/

/-- An object stands under its name, as it is or without its own entry for the name. -/
inductive UnderName : Value → String × Value → Prop
  | whole {name : String} {fields : List (String × Value)}
    (named : Ordered.get? "name" fields = some (.text name)) :
    UnderName (.object fields) (name, .object fields)
  | nameless {name : String} {fields : List (String × Value)}
    (named : Ordered.get? "name" fields = some (.text name)) :
    UnderName (.object fields) (name, .object (Ordered.erase "name" fields))

private theorem namedRecord_object (name : String) (fields : List (String × Value)) :
    namedRecord name (.object fields) =
      .ok (if (Ordered.get? "name" fields).isSome then .object fields
        else .object (fields ++ [("name", .text name)])) := by
  unfold namedRecord
  rw [holds_object]
  cases (Ordered.get? "name" fields).isSome <;> rfl

/-- A member is read under its name as it would be read by itself. -/
theorem namedRecord_underName {record : Value} {entry : String × Value}
    (under : UnderName record entry) :
    ∃ other, namedRecord entry.1 entry.2 = .ok other ∧ Alike record other := by
  cases under with
  | whole named =>
      refine ⟨_, namedRecord_object _ _, ?_⟩
      rw [named]
      exact .object fun _ => rfl
  | @nameless name fields named =>
      refine ⟨_, namedRecord_object _ _, ?_⟩
      rw [Ordered.get?_erase_self]
      refine .object fun key => ?_
      rw [Ordered.get?_append]
      -- Only under the name itself do the entries that were put in and taken out count.
      by_cases own : key = "name"
      · rw [own, named, Ordered.get?_erase_self]
        rfl
      · rw [Ordered.get?_erase_of_ne own, Ordered.get?, if_neg (Ne.symm own)]
        exact (Option.or_none).symm

private theorem memberRecords_underNames {records : List Value} {entries : List (String × Value)}
    (under : List.Forall₂ UnderName records entries) :
    ∃ others, memberRecords (.object entries) = .ok others ∧
      List.Forall₂ Alike records others := by
  rw [memberRecords_object]
  induction under with
  | nil => exact ⟨[], rfl, .nil⟩
  | cons first _ ih =>
      obtain ⟨other, read, alike⟩ := namedRecord_underName first
      obtain ⟨others, readRest, rest⟩ := ih
      refine ⟨other :: others, ?_, .cons alike rest⟩
      rw [List.mapM_cons, read, readRest]
      rfl

/-! ## Sections -/

/-- A section is left as it is, or instead of listing its members it maps their names to them, in
the same order. -/
inductive Regrouped : Value → Value → Prop
  | kept (members : Value) : Regrouped members members
  | mapped {records : List Value} {entries : List (String × Value)}
    (under : List.Forall₂ UnderName records entries) :
    Regrouped (.list records) (.object entries)

variable {members others : Value}

private theorem eventsOf_regrouped (regrouped : Regrouped members others) :
    eventsOf members = eventsOf others := by
  cases regrouped with
  | kept => rfl
  | mapped under =>
      obtain ⟨_, read, alike⟩ := memberRecords_underNames under
      unfold eventsOf
      rw [memberRecords_list, read]
      exact mapM_alike eventOf_alike alike

private theorem membersOf_regrouped {convert : Value → Except Fault α}
    (same : ∀ {first second}, Alike first second → convert first = convert second)
    (regrouped : Regrouped members others) :
    membersOf convert members = membersOf convert others := by
  cases regrouped with
  | kept => rfl
  | mapped under =>
      obtain ⟨_, read, alike⟩ := memberRecords_underNames under
      unfold membersOf
      rw [memberRecords_list, read]
      exact bind_uniqueRecords_alike same alike

/-! ## Records -/

/-- A field keeps its name, and what stands under it may be regrouped. -/
def RegroupedField (field other : String × Value) : Prop :=
  field.1 = other.1 ∧ Regrouped field.2 other.2

variable {fields regroupedFields : List (String × Value)}

private theorem part_regrouped (regrouped : List.Forall₂ RegroupedField fields regroupedFields)
    (key : String) :
    Regrouped ((object fields).part key) ((object regroupedFields).part key) := by
  unfold part
  dsimp only
  induction regrouped with
  | nil => exact .kept .null
  | @cons field other _ _ first _ ih =>
      obtain ⟨name, value⟩ := field
      obtain ⟨_, value'⟩ := other
      obtain ⟨rfl, valueRegrouped⟩ := first
      rw [Ordered.get?, Ordered.get?]
      split
      · exact valueRegrouped
      · exact ih

/-- **Lists and mappings agree.** Where sections of a record map the names of their members to them
instead of listing them, in the same order and with or without the members' own names, the record
is converted to the same component, or its conversion fails with the same fault. That the names
differ, as they must for one mapping to hold them all, and that they are not empty is not needed. -/
theorem ofRecord_regrouped (regrouped : List.Forall₂ RegroupedField fields regroupedFields)
    (name : Value) :
    ofRecord (.object fields) name = ofRecord (.object regroupedFields) name := by
  by_cases named : name.truthy = true
  · rw [ofRecord_eq ⟨_, rfl⟩ named, ofRecord_eq ⟨_, rfl⟩ named,
      eventsOf_regrouped (part_regrouped regrouped "events"),
      membersOf_regrouped propertyOf_alike (part_regrouped regrouped "properties"),
      membersOf_regrouped methodOf_alike (part_regrouped regrouped "methods")]
  · unfold ofRecord
    rw [Bool.eq_false_iff.mpr named]
    rfl

/-- A record that lists its properties and its methods. -/
def listingFields : List (String × Value) :=
  [("events", .list [.object [("name", .text "value-changed")]]),
    ("properties", .list [.object [("name", .text "value"), ("privacy", .text "public")],
      .object [("type", .text "string"), ("name", .text "label")]]),
    ("methods", .list [.object [("name", .text "reset"), ("params", .list [])]])]

/-- The record with its properties and methods under their names, which one of them repeats. -/
def mappingFields : List (String × Value) :=
  [("events", .list [.object [("name", .text "value-changed")]]),
    ("properties", .object [("value", .object [("privacy", .text "public")]),
      ("label", .object [("type", .text "string"), ("name", .text "label")])]),
    ("methods", .object [("reset", .object [("params", .list [])])])]

private theorem forall₂_mappingFields : List.Forall₂ RegroupedField listingFields mappingFields :=
  .cons ⟨rfl, .kept _⟩ <|
    .cons ⟨rfl, .mapped <| .cons (.nameless rfl) <| .cons (.whole rfl) .nil⟩ <|
      .cons ⟨rfl, .mapped <| .cons (.nameless rfl) .nil⟩ .nil

theorem ofRecord_regrouped_mappingFields :
    List.Forall₂ RegroupedField listingFields mappingFields ∧
      ofRecord (.object listingFields) (.text "x-el") =
        ofRecord (.object mappingFields) (.text "x-el") :=
  ⟨forall₂_mappingFields, ofRecord_regrouped forall₂_mappingFields (.text "x-el")⟩

end Component
end ElementWrap
