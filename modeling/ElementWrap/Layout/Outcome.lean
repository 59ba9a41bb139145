import ElementWrap.Analysis.Selection
import ElementWrap.Layout.Assembly

/-! # Outcomes of a build

A successful build has files, warnings and facts about itself. A failed one has a text and, where
known, the cause. `generate` goes from an analysis document to the files without writing them.
-/

namespace ElementWrap.Layout

open Log Wrapper

/-- The outcome of a build. What an outcome holds is kept in type parameters, `α` for the files and
`ε` for the causes. -/
structure Outcome (α ε : Type) where
  success : Bool := true
  artifacts : List α := []
  warnings : List String := []
  metadata : List (String × Value) := []
  errorMessage : Option String := none
  cause : Option ε := none

namespace Outcome

/-- The outcome of a failed build. -/
def failure (message : Option String) (cause : Option ε) : Outcome α ε :=
  { success := false, errorMessage := message, cause }

/-- The text of an outcome. -/
def summary (outcome : Outcome α ε) : String :=
  if outcome.success then
    "GenerationResult(success=True, artifacts=" ++ toString outcome.artifacts.length ++ ")"
  else
    let message := outcome.errorMessage.elim "None" Text.quoted
    "GenerationResult(success=False, error=" ++ message ++ ")"

/-- What a failed outcome that knows no cause is reported as. -/
def failureText (outcome : Outcome α ε) : String :=
  match outcome.errorMessage with
  | some message => if message = "" then "Generation failed" else message
  | none => "Generation failed"

/-- Nothing for a success; for a failure its cause, or its text where no cause is known. -/
def raised? (outcome : Outcome α ε) : Option (ε ⊕ String) :=
  if outcome.success then none
  else
    match outcome.cause with
    | some cause => some (.inl cause)
    | none => some (.inr outcome.failureText)

end Outcome

/-- The facts about a build that was not written yet. -/
def generationFacts (config : Config) (components : List Component) : List (String × Value) :=
  [("language", .text language), ("file_extension", .text extension), ("bundle", config.bundle),
    ("components", .list (components.map (·.name))),
    ("component_count", .int components.length)]

/-- The files of the components that are asked for, from a generator that knows the words of its
case map already. -/
def generateThrough (config : Config) (map : CaseMap) (analysis : Analysis) (requested : Value) :
    Traced (Outcome Artifact Fault) := do
  let names ← analysis.selectNames requested
  let components ← Traced.lift (analysis.components names)
  let warnings ← Traced.lift (Wrapper.warnings components)
  let artifacts ← assemble config map components
  return { artifacts, warnings, metadata := generationFacts config components }

/-- The files of the components that are asked for, from a new generator. -/
def generate (config : Config) (analysis : Analysis) (requested : Value) :
    Traced (Outcome Artifact Fault) :=
  generateThrough config .empty analysis requested

end ElementWrap.Layout
