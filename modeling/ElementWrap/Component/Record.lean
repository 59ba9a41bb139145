import ElementWrap.Component.Basic
import ElementWrap.Value.Access

/-! # Components from analysis records

A record lists members or maps their names to them. Nameless properties and methods are dropped, and
of those that share a name the last one counts, where the first one stood. What every element
inherits is marked as reserved. The first value of an unsuitable shape stops the conversion.
-/

namespace ElementWrap.Component

/-- The properties that every element inherits. -/
def reservedProperties : List String := ["$", "rootPath", "importPath", "root"]

/-- The methods that every element inherits. -/
def reservedMethods : List String :=
  ["attributeChangedCallback", "setProperties", "linkPaths", "unlinkPaths", "notifySplices", "get",
    "set", "push", "pop", "splice", "shift", "unshift", "notifyPath", "connectedCallback",
    "disconnectedCallback", "updateStyles", "resolveUrl"]

/-- The record of a member that stands under a name; it need not repeat the name. -/
def namedRecord (name : String) (record : Value) : Except Fault Value := do
  if ← record.holds "name" then return record
  else
    match record with
    | .object fields => return .object (fields ++ [("name", .text name)])
    | _ => throw .wrongType

/-- The records of a section, in order. -/
def memberRecords (members : Value) : Except Fault (List Value) :=
  if members.truthy then
    match members with
    | .object fields => fields.mapM fun field => namedRecord field.1 field.2
    | other => other.items
  else .ok []

/-- The records by name: nameless ones are dropped and a later one replaces an earlier one of its
name in place. -/
def byName : (kept : List (Value × Value)) → List Value → Except Fault (List (Value × Value))
  | kept, [] => .ok kept
  | kept, record :: rest => do
    let name ← record.field "name"
    if name.truthy then
      if name.isKey then byName (Ordered.putBy Value.same name record kept) rest
      else throw .wrongType
    else byName kept rest

/-- The records with pairwise distinct names, in the order of their first occurrence. -/
def uniqueRecords (records : List Value) : Except Fault (List Value) := do
  return (← byName [] records).map Prod.snd

/-- Only the text `public` makes a member public. -/
def visibilityOf (value : Value) : Visibility :=
  if value.isText "public" then .visible else .hidden

/-- A property is read-only by its own mark or by that of the element library. -/
def isReadOnly (record : Value) : Except Fault Bool := do
  if (← record.field "readOnly").truthy then return true
  let metadata ← record.field "metadata"
  let library ← if metadata.truthy then metadata.field "polymer" else pure .null
  let mark ← if library.truthy then library.field "readOnly" else pure .null
  return mark.truthy

/-- The kind of a member of a type: callable, declared as a property, or neither. -/
def kindOf (record type : Value) : Except Fault MemberKind := do
  if type.isText functionType then return .function
  if (← record.field "accessor").truthy then return .accessor
  return if (← record.field "astNodeType").isText "Property" then .accessor else .other

/-- A name is among the inherited ones. -/
def isReserved (inherited : List String) (name : Value) : Bool :=
  inherited.any fun reserved => name.isText reserved

/-- Converts the record of an event. -/
def eventOf (record : Value) : Except Fault Event := do
  return ⟨← record.require "name"⟩

/-- Converts the record of a property. -/
def propertyOf (record : Value) : Except Fault Property := do
  let type ← record.field "type"
  let name ← record.require "name"
  let visibility := visibilityOf (← record.field "privacy")
  let readOnly ← isReadOnly record
  return {
    name, type, visibility, readOnly
    kind := if type.isText functionType then .function else .other
    reserved := isReserved reservedProperties name }

/-- Converts the record of a method. Only callables are declared as methods, so a missing type is
that of a function. -/
def methodOf (record : Value) : Except Fault Method := do
  let type := (← record.field? "type").getD (.text functionType)
  let params ← (← (← record.field "params").itemsOrNone).mapM fun param => do
    return Parameter.mk (← param.require "name")
  let name ← record.require "name"
  let visibility := visibilityOf (← record.field "privacy")
  let kind ← kindOf record type
  return { name, type, visibility, kind, params, reserved := isReserved reservedMethods name }

/-- Converts the record of an element to the component of a name. -/
def ofRecord (record name : Value) : Except Fault Component := do
  if !name.truthy then throw .emptyName
  let events ← (← memberRecords (← record.field "events")).mapM eventOf
  let properties ←
    (← uniqueRecords (← memberRecords (← record.field "properties"))).mapM propertyOf
  let methods ← (← uniqueRecords (← memberRecords (← record.field "methods"))).mapM methodOf
  return { name, events, properties, methods }

end ElementWrap.Component
