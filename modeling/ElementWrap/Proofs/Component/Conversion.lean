import ElementWrap.Component.Record
import ElementWrap.Proofs.Running
import ElementWrap.Proofs.Value.Access

/-! # Converting a record

A record is converted section by section (`ElementWrap.Component.ofRecord_eq_ok_iff`). What stops a
conversion is the shape of the record, or that there is no name to give
(`ElementWrap.Component.failsAmong_ofRecord`).
-/

namespace ElementWrap.Component

/-! ## Records by name -/

/-- A record is kept under its name, in place of an earlier one, or it is dropped as it has none. -/
inductive Keeps (kept : List (Value × Value)) (record : Value) : List (Value × Value) → Prop
  | dropped (nameless : (record.part "name").truthy = false) : Keeps kept record kept
  | put (given : (record.part "name").truthy = true) (isKey : (record.part "name").isKey = true) :
    Keeps kept record (Ordered.putBy Value.same (record.part "name") record kept)

/-- Records are kept by their names one after the other, and the first has to be an object. -/
theorem byName_cons_eq_ok_iff {kept result : List (Value × Value)} {record : Value}
    {rest : List Value} :
    byName kept (record :: rest) = .ok result ↔
      record.IsObject ∧ ∃ next, Keeps kept record next ∧ byName next rest = .ok result := by
  rw [byName]
  constructor
  · intro ran
    obtain ⟨_, read, ran⟩ := bind_eq_ok_iff.mp ran
    obtain ⟨isObject, rfl⟩ := Value.field_eq_ok_iff.mp read
    refine ⟨isObject, ?_⟩
    split at ran
    · next given =>
        split at ran
        · next isKey => exact ⟨_, .put given isKey, ran⟩
        · exact nomatch ran
    · next nameless => exact ⟨kept, .dropped (Bool.eq_false_iff.mpr nameless), ran⟩
  · rintro ⟨isObject, next, keeps, ran⟩
    refine bind_eq_ok_iff.mpr ⟨_, isObject.field "name", ?_⟩
    cases keeps with
    | dropped nameless => rwa [if_neg (Bool.eq_false_iff.mp nameless)]
    | put given isKey => rwa [if_pos given, if_pos isKey]

/-- Records are kept by their names in two goes as in one. -/
theorem byName_append (kept : List (Value × Value)) (records others : List Value) :
    byName kept (records ++ others) = byName kept records >>= fun kept => byName kept others := by
  induction records generalizing kept with
  | nil => rfl
  | cons record rest ih =>
      rw [List.cons_append, byName, byName, bind_assoc]
      refine bind_congr fun name => ?_
      split
      · split
        · exact ih _
        · rfl
      · exact ih kept

/-! ## Sections -/

/-- The events of a section. -/
def eventsOf (members : Value) : Except Fault (List Event) := do
  (← memberRecords members).mapM eventOf

/-- The members of a section in which names tell them apart. -/
def membersOf (convert : Value → Except Fault α) (members : Value) : Except Fault (List α) := do
  (← uniqueRecords (← memberRecords members)).mapM convert

/-- A list of records is taken as it is. -/
theorem memberRecords_list (records : List Value) :
    memberRecords (.list records) = .ok records := by
  cases records with
  | nil => rfl
  | cons record rest => rfl

/-- An object of records is taken as the list of these, each with its name. -/
theorem memberRecords_object (entries : List (String × Value)) :
    memberRecords (.object entries) =
      entries.mapM fun entry => namedRecord entry.1 entry.2 := by
  cases entries with
  | nil => rfl
  | cons entry rest => rfl

private theorem memberRecords_of_lists {record : Value} {key : String} {records : List Value}
    (lists : record.Lists key records) : memberRecords (record.part key) = .ok records := by
  cases lists with
  | unset _ blank =>
      unfold memberRecords
      rw [blank, if_neg Bool.false_ne_true]
  | listed _ found => rw [found, memberRecords_list]

/-- Members are converted from the last record of each name. -/
theorem membersOf_eq_ok_iff {convert : Value → Except Fault α} {record : Value} {key : String}
    {records : List Value} (lists : record.Lists key records) {members : List α} :
    membersOf convert (record.part key) = .ok members ↔
      ∃ unique, uniqueRecords records = .ok unique ∧ unique.mapM convert = .ok members := by
  unfold membersOf
  rw [memberRecords_of_lists lists]
  change uniqueRecords records >>= (List.mapM convert ·) = _ ↔ _
  exact bind_eq_ok_iff

/-- A record with a name is converted section by section. -/
theorem ofRecord_eq {record name : Value} (isObject : record.IsObject)
    (named : name.truthy = true) :
    ofRecord record name = do
      let events ← eventsOf (record.part "events")
      let properties ← membersOf propertyOf (record.part "properties")
      let methods ← membersOf methodOf (record.part "methods")
      return { name, events, properties, methods } := by
  unfold ofRecord eventsOf membersOf
  rw [named, isObject.field, isObject.field, isObject.field]
  simp only [bind_assoc]
  rfl

/-- A component is made of the sections of an object and of a name that is given. -/
theorem ofRecord_eq_ok_iff {record name : Value} {component : Component} :
    ofRecord record name = .ok component ↔
      name.truthy = true ∧ record.IsObject ∧ component.name = name ∧
        eventsOf (record.part "events") = .ok component.events ∧
        membersOf propertyOf (record.part "properties") = .ok component.properties ∧
        membersOf methodOf (record.part "methods") = .ok component.methods := by
  by_cases named : name.truthy = true
  · by_cases isObject : record.IsObject
    · rw [ofRecord_eq isObject named]
      constructor
      · intro converted
        obtain ⟨events, fired, converted⟩ := bind_eq_ok_iff.mp converted
        obtain ⟨properties, declared, converted⟩ := bind_eq_ok_iff.mp converted
        obtain ⟨methods, offered, converted⟩ := bind_eq_ok_iff.mp converted
        obtain rfl := Except.ok.inj converted
        exact ⟨named, isObject, rfl, fired, declared, offered⟩
      · rintro ⟨_, _, rfl, fired, declared, offered⟩
        rw [fired, declared, offered]
        rfl
    · refine iff_of_false (fun converted => ?_) fun parts => isObject parts.2.1
      unfold ofRecord at converted
      rw [named] at converted
      obtain ⟨_, read, _⟩ := bind_eq_ok_iff.mp converted
      exact isObject (Value.field_eq_ok_iff.mp read).1
  · refine iff_of_false (fun converted => ?_) fun parts => named parts.1
    unfold ofRecord at converted
    rw [Bool.eq_false_iff.mpr named] at converted
    exact nomatch converted

/-! ## Failures -/

/-- A fault over the shape of a record, or over a name that is missing. -/
inductive IsShapeFault : Fault → Prop
  | wrongType : IsShapeFault .wrongType
  | noAttribute : IsShapeFault .noAttribute
  | missingKey (key : String) : IsShapeFault (.missingKey key)
  | emptyName : IsShapeFault .emptyName

open FailsAmong

private theorem failsAmong_field (value : Value) (name : String) :
    FailsAmong IsShapeFault (value.field name) := by
  unfold Value.field
  split
  · exact ok _
  · exact error .noAttribute

private theorem failsAmong_require (value : Value) (name : String) :
    FailsAmong IsShapeFault (value.require name) := by
  unfold Value.require
  split
  · split
    · exact ok _
    · exact error (.missingKey name)
  · exact error .wrongType

private theorem failsAmong_items (value : Value) : FailsAmong IsShapeFault value.items := by
  unfold Value.items
  split
  · exact ok _
  · exact error .wrongType

private theorem failsAmong_memberRecords (members : Value) :
    FailsAmong IsShapeFault (memberRecords members) := by
  have named (name : String) (record : Value) :
      FailsAmong IsShapeFault (namedRecord name record) := by
    have holds : FailsAmong IsShapeFault (record.holds "name") := by
      unfold Value.holds
      split
      · exact ok _
      · exact ok _
      · exact ok _
      · exact error .wrongType
    refine holds.bind fun isNamed => ?_
    split
    · exact ok _
    · split
      · exact ok _
      · exact error .wrongType
  unfold memberRecords
  split
  · split
    · exact .mapM fun entry => named entry.1 entry.2
    · exact failsAmong_items _
  · exact ok _

private theorem failsAmong_byName (kept : List (Value × Value)) (records : List Value) :
    FailsAmong IsShapeFault (byName kept records) := by
  induction records generalizing kept with
  | nil => exact ok kept
  | cons record rest ih =>
      unfold byName
      refine (failsAmong_field record "name").bind fun name => ?_
      split
      · split
        · exact ih _
        · exact error .wrongType
      · exact ih kept

private theorem failsAmong_uniqueRecords (records : List Value) :
    FailsAmong IsShapeFault (uniqueRecords records) :=
  (failsAmong_byName [] records).bind fun _ => ok _

private theorem failsAmong_isReadOnly (record : Value) :
    FailsAmong IsShapeFault (isReadOnly record) := by
  unfold isReadOnly
  refine (failsAmong_field record _).bind fun mark => ?_
  split
  · exact ok true
  · refine (failsAmong_field record _).bind fun metadata => ?_
    dsimp only
    split
    · refine (failsAmong_field metadata _).bind fun library => ?_
      split
      · exact (failsAmong_field library _).bind fun _ => ok _
      · exact ok _
    · exact ok _

private theorem failsAmong_propertyOf (record : Value) :
    FailsAmong IsShapeFault (propertyOf record) :=
  (failsAmong_field record _).bind fun _ => (failsAmong_require record _).bind fun _ =>
    (failsAmong_field record _).bind fun _ => (failsAmong_isReadOnly record).bind fun _ => ok _

private theorem failsAmong_kindOf (record type : Value) :
    FailsAmong IsShapeFault (kindOf record type) := by
  unfold kindOf
  split
  · exact ok _
  · refine (failsAmong_field record _).bind fun accessor => ?_
    split
    · exact ok _
    · exact (failsAmong_field record _).bind fun _ => ok _

private theorem failsAmong_methodOf (record : Value) :
    FailsAmong IsShapeFault (methodOf record) := by
  have declared : FailsAmong IsShapeFault (record.field? "type") := by
    unfold Value.field?
    split
    · exact ok _
    · exact error .noAttribute
  have listed (value : Value) : FailsAmong IsShapeFault value.itemsOrNone := by
    unfold Value.itemsOrNone
    split
    · exact failsAmong_items value
    · exact ok _
  have param (value : Value) : FailsAmong IsShapeFault (do
      return Parameter.mk (← value.require "name")) :=
    (failsAmong_require value _).bind fun _ => ok _
  refine declared.bind fun _ => (failsAmong_field record _).bind fun params => ?_
  refine (listed params).bind fun _ => (FailsAmong.mapM param).bind fun _ => ?_
  refine (failsAmong_require record _).bind fun _ => (failsAmong_field record _).bind fun _ => ?_
  exact (failsAmong_kindOf record _).bind fun _ => ok _

/-- Only the shape of a record, or the want of a name, stops a conversion. -/
theorem failsAmong_ofRecord (record name : Value) :
    FailsAmong IsShapeFault (ofRecord record name) := by
  have event (value : Value) : FailsAmong IsShapeFault (eventOf value) :=
    (failsAmong_require value _).bind fun _ => ok _
  unfold ofRecord
  split
  · exact error .emptyName
  · refine (failsAmong_field record _).bind fun events => ?_
    refine (failsAmong_memberRecords events).bind fun _ => (FailsAmong.mapM event).bind fun _ => ?_
    refine (failsAmong_field record _).bind fun properties => ?_
    refine (failsAmong_memberRecords properties).bind fun _ => ?_
    refine (failsAmong_uniqueRecords _).bind fun _ => ?_
    refine (FailsAmong.mapM failsAmong_propertyOf).bind fun _ => ?_
    refine (failsAmong_field record _).bind fun methods => ?_
    refine (failsAmong_memberRecords methods).bind fun _ => ?_
    refine (failsAmong_uniqueRecords _).bind fun _ => ?_
    exact (FailsAmong.mapM failsAmong_methodOf).bind fun _ => ok _

end ElementWrap.Component
