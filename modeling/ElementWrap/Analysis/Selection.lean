import ElementWrap.Analysis.Document
import ElementWrap.Component.Record
import ElementWrap.Log.Trace

/-! # Which components are wrapped

Names that were asked for are taken as they are, repeats included; without any, every element with a
tag name is taken. Each name has to belong to exactly one element.
-/

namespace ElementWrap.Analysis

open Log

/-- The part that reports about the selection. -/
def selectionSource : String := "wc_reactor.codegen.core.selection"

/-- The tag names of all elements that have one, in document order. -/
def tagNames (analysis : Analysis) : Except Fault (List Value) := do
  let names ← (← analysis.features .element .null).mapM (·.field FeatureKind.element.identifier)
  return names.filter Value.truthy

/-- The names to wrap: those asked for, or the tag names of the document. -/
def selectNames (analysis : Analysis) (requested : Value) : Traced (List Value) := do
  let names ←
    if requested.truthy then do
      let names ← Traced.lift requested.items
      Traced.report .debug selectionSource
        ("Using " ++ toString names.length ++ " explicitly selected components")
      pure names
    else do
      let names ← Traced.lift analysis.tagNames
      Traced.report .debug selectionSource
        ("Discovered " ++ toString names.length ++ " components")
      pure names
  if names.isEmpty then throw .emptySelection
  return names

/-- The record of the one element that has a name. -/
def recordOf (analysis : Analysis) (name : Value) : Except Fault Value := do
  match ← analysis.features .element name with
  | [] => throw (.notFound name)
  | [record] => return record
  | _ => throw (.ambiguous name)

/-- The component of a name. -/
def component (analysis : Analysis) (name : Value) : Except Fault Component := do
  Component.ofRecord (← analysis.recordOf name) name

/-- The components of the names, in order; the first name that fails stops the selection. -/
def components (analysis : Analysis) (names : List Value) : Except Fault (List Component) :=
  names.mapM analysis.component

end ElementWrap.Analysis
