import ElementWrap.Fault
import ElementWrap.Naming.Words

/-! # Remembered conversions

A case map keeps every conversion that it made, under the operation, the name and the choice of the
first letter. What is remembered is what would be computed, so the map changes no answer.
-/

namespace ElementWrap

/-- What was converted, and how. -/
inductive Conversion
  | camel (upperFirst : Bool) (name : String)
  | dash (name : String)
  deriving DecidableEq, Repr

/-- The result of a conversion. -/
def Conversion.result : Conversion → String
  | camel upperFirst name => Naming.camel upperFirst name
  | dash name => Naming.dash name

/-- The conversions made so far with their results, oldest first. -/
structure CaseMap where
  entries : List (Conversion × String)
  deriving DecidableEq, Repr

namespace CaseMap

/-- A map that has converted nothing yet. -/
def empty : CaseMap := ⟨[]⟩

/-- The number of conversions made. -/
def size (map : CaseMap) : Nat := map.entries.length

/-- The map has converted nothing yet. -/
def isEmpty (map : CaseMap) : Bool := map.entries.isEmpty

/-- Every remembered answer is the one that would be computed, and none is held twice. -/
def WellFormed (map : CaseMap) : Prop :=
  (∀ entry ∈ map.entries, entry.2 = entry.1.result) ∧ (map.entries.map Prod.fst).Nodup

end CaseMap

/-- A computation that converts names through a case map. The map survives a failure. -/
abbrev Naming (α : Type) := ExceptT Fault (StateM CaseMap) α

namespace Naming

/-- Makes a conversion, or recalls it. -/
def convert (conversion : Conversion) : Naming String := do
  let map ← get
  match Ordered.get? conversion map.entries with
  | some result => return result
  | none =>
    let result := conversion.result
    set (CaseMap.mk (map.entries ++ [(conversion, result)]))
    return result

/-- Converts a name to camel case. Only a text can be converted. -/
def toCamel (name : Value) (upperFirst : Bool) : Naming String :=
  match name with
  | .text s => convert (.camel upperFirst s)
  | _ => throw .wrongType

/-- Converts a name to dash case. Only a text can be converted. -/
def toDash (name : Value) : Naming String :=
  match name with
  | .text s => convert (.dash s)
  | _ => throw .wrongType

/-- The name of the wrapper class of an element. -/
def className (name : Value) : Naming String := toCamel name true

/-- The name of the method that handles an event. -/
def handlerName (event : Value) : Naming String := do
  return "_" ++ (← toCamel event false) ++ "Event"

/-- The name of the property that takes the callback of an event. -/
def callbackName (event : Value) : Naming String := do
  return "on" ++ (← toCamel event true)

end Naming

end ElementWrap
