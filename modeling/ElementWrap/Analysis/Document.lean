import ElementWrap.Value.Access

/-! # Analysis documents

A document is a scope: it holds features of several kinds and namespaces, which are scopes
themselves. `features` collects the features of a kind over all scopes, a scope's own before those
of its namespaces. It works off a list of pending scopes, in front of which the namespaces of each
are put.
-/

namespace ElementWrap

namespace Analysis

/-- A kind of feature: the name it is asked for by, the name its features stand under in a scope and
the name of their identifiers. -/
structure FeatureKind where
  name : String
  key : String
  identifier : String
  deriving DecidableEq, Repr

/-- The kind of the elements. -/
def FeatureKind.element : FeatureKind := ⟨"element", "elements", "tagName"⟩

/-- The kind of the mixins. -/
def FeatureKind.mixin : FeatureKind := ⟨"mixin", "mixins", "name"⟩

/-- The kind of a name. -/
def FeatureKind.ofName (name : Value) : Except Fault FeatureKind :=
  if !name.isKey then .error .wrongType
  else if name.isText FeatureKind.element.name then .ok .element
  else if name.isText FeatureKind.mixin.name then .ok .mixin
  else .error (.unsupportedKind name)

/-- The number of parts that a list of values has in all. -/
noncomputable def weight : List Value → Nat
  | [] => 0
  | value :: rest => sizeOf value + weight rest

private theorem weight_append (xs ys : List Value) : weight (xs ++ ys) = weight xs + weight ys := by
  induction xs with
  | nil => rw [List.nil_append, weight, Nat.zero_add]
  | cons value rest ih => rw [List.cons_append, weight, weight, ih, Nat.add_assoc]

/-- The value under a name is a part of the object. -/
theorem sizeOf_get?_lt {fields : List (String × Value)} {name : String} {value : Value}
    (found : Ordered.get? name fields = some value) : sizeOf value < sizeOf fields := by
  induction fields with
  | nil => simp [Ordered.get?] at found
  | cons entry rest ih =>
    obtain ⟨key, held⟩ := entry
    rw [Ordered.get?] at found
    split at found
    · cases found
      simp
      omega
    · have := ih found
      simp
      omega

private theorem weight_lt_sizeOf (items : List Value) : weight items < sizeOf items := by
  induction items with
  | nil => simp [weight]
  | cons item rest ih =>
    simp [weight] at ih ⊢
    omega

/-- No fields weigh less than an object. -/
theorem weight_nil_lt_sizeOf (fields : List (String × Value)) :
    weight [] < sizeOf (Value.object fields) := by
  rw [Value.object.sizeOf_spec]
  exact Nat.lt_of_lt_of_le Nat.zero_lt_one (Nat.le_add_right 1 _)

/-- The scopes directly within a scope. Where its namespaces are a text or an object, the first
character or name is met in place of a scope. -/
def subscopes (scope : Value) :
    Except Fault { inner : List Value // weight inner < sizeOf scope } :=
  match scope with
  | .object fields =>
    match found : Ordered.get? "namespaces" fields with
    | none => .ok ⟨[], weight_nil_lt_sizeOf fields⟩
    | some (.list items) => .ok ⟨items, by
        have := sizeOf_get?_lt found
        have := weight_lt_sizeOf items
        simp only [Value.list.sizeOf_spec, Value.object.sizeOf_spec] at *
        omega⟩
    | some other =>
      if !other.truthy then .ok ⟨[], weight_nil_lt_sizeOf fields⟩
      else if other.items?.isSome then .error .noAttribute
      else .error .wrongType
  | _ => .error .noAttribute

/-- The features under a key over the pending scopes and all scopes within them. -/
def collect (key : String) : (pending : List Value) → Except Fault (List Value)
  | [] => .ok []
  | scope :: rest => do
    let own ← (← scope.field key).itemsOrNone
    let ⟨inner, _⟩ ← subscopes scope
    return own ++ (← collect key (inner ++ rest))
termination_by pending => weight pending
decreasing_by
  rw [weight_append]
  rw [weight]
  omega

end Analysis

/-- An analysis document: an object that answers which features it holds. -/
structure Analysis where
  fields : List (String × Value)
  deriving Repr

namespace Analysis

/-- The document as a value. -/
def document (analysis : Analysis) : Value := .object analysis.fields

/-- Only an object is a document. -/
def ofValue : Value → Except Fault Analysis
  | .object fields => .ok ⟨fields⟩
  | _ => .error (.loading .notObject)

/-- The features of a kind, those with an identifier alone if one is given. -/
def features (analysis : Analysis) (kind : FeatureKind) (identifier : Value) :
    Except Fault (List Value) := do
  let all ← collect kind.key [analysis.document]
  match identifier with
  | .null => return all
  | identifier => all.filterM fun feature => do
    return (← feature.field kind.identifier).equal identifier

end Analysis

end ElementWrap
