import ElementWrap.Naming.CaseMap

/-! # Generators that were handed one case map

A generator that is handed an empty map takes it for none and keeps a map of its own. Handed a map
that has converted something, the generators convert through that very map.
-/

namespace ElementWrap.Naming

/-- The map that the generators were handed, and for each generator the map of its own if it keeps
one. -/
structure Pool where
  handed : CaseMap
  own : List (Option CaseMap)
  deriving DecidableEq, Repr

namespace Pool

/-- Hands a map to `count` generators. -/
def of (map : CaseMap) (count : Nat) : Pool :=
  ⟨map, List.replicate count (if map.isEmpty then some .empty else none)⟩

/-- The map that a generator converts through. -/
def mapOf (pool : Pool) (generator : Nat) : CaseMap :=
  match pool.own[generator]? with
  | some (some map) => map
  | _ => pool.handed

/-- The pool after a generator's map has become `map`. -/
def update (pool : Pool) (generator : Nat) (map : CaseMap) : Pool :=
  match pool.own[generator]? with
  | some (some _) => { pool with own := pool.own.set generator (some map) }
  | _ => { pool with handed := map }

/-- Lets a generator convert. -/
def run (pool : Pool) (generator : Nat) (conversion : Naming α) : Except Fault α × Pool :=
  let (answer, map) := conversion.run.run (pool.mapOf generator)
  (answer, pool.update generator map)

end Pool

end ElementWrap.Naming
