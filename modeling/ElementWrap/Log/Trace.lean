import ElementWrap.Fault
import ElementWrap.Log.Level

/-! # Computations that leave a trace

What a computation reports about its work is a list of entries, each with a level, the name of the
part that reports and a text. The entries made before a failure are kept.
-/

namespace ElementWrap.Log

/-- One report of a part of the program. A report of a failure is followed by its trace, of which
the last line is kept here: the wording of the failure. -/
structure Entry where
  level : Level
  source : String
  text : String
  trace : String := ""
  deriving DecidableEq, Repr

/-- A report that is followed by no trace. -/
def Entry.plain (level : Level) (source text : String) : Entry := { level, source, text }

/-- A computation that can fail and that reports about its work. -/
abbrev Traced (α : Type) := ExceptT Fault (StateM (List Entry)) α

namespace Traced

/-- Makes a report. -/
def report (level : Level) (source text : String) : Traced Unit :=
  modify fun entries => entries ++ [.plain level source text]

/-- A computation that reports nothing. -/
def lift (result : Except Fault α) : Traced α := ExceptT.mk (pure result)

/-- The outcome of a computation with all its reports, first one first. -/
def outcome (computation : Traced α) : Except Fault α × List Entry :=
  computation.run.run []

end Traced

end ElementWrap.Log
