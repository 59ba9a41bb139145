/-! # Severity of log records

A level is a number; the five usual ones have names. Level zero stands for no choice.
-/

namespace ElementWrap.Log

/-- How severe a record is. -/
structure Level where
  value : Int
  deriving DecidableEq, Repr

namespace Level

/-- No choice of a level. -/
def unset : Level := ⟨0⟩

/-- Details of the program's work. -/
def debug : Level := ⟨10⟩

/-- Progress. -/
def info : Level := ⟨20⟩

/-- Something worth a look. -/
def warning : Level := ⟨30⟩

/-- A failure. -/
def error : Level := ⟨40⟩

/-- A failure that ends the program. -/
def critical : Level := ⟨50⟩

/-- The levels that have names, with these names. -/
def named : List (String × Level) :=
  [("CRITICAL", critical), ("ERROR", error), ("WARNING", warning), ("INFO", info),
    ("DEBUG", debug), ("NOTSET", unset)]

/-- The name of a level, or its number where it has none. -/
def name (level : Level) : String :=
  match named.find? (·.2 = level) with
  | some (name, _) => name
  | none => "Level " ++ toString level.value

/-- The level of a name; the synonyms of two names are known too. -/
def ofName? (name : String) : Option Level :=
  if name = "WARN" then some warning
  else if name = "FATAL" then some critical
  else (named.find? (·.1 = name)).map Prod.snd

end Level

end ElementWrap.Log
