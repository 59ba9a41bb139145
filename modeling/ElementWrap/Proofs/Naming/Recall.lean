import ElementWrap.Naming.CaseMap
import ElementWrap.Proofs.Ordered
import ElementWrap.Proofs.Running

/-! # Remembered conversions change no answer

A naming computation that looks at the case map only to convert names answers the same through every
map that remembers nothing wrong, and leaves such a map behind.
-/

namespace ElementWrap.Naming

/-- A case map that was not used yet is sound. -/
theorem wellFormed_empty : CaseMap.empty.WellFormed :=
  ⟨fun _ member => absurd member List.not_mem_nil, List.nodup_nil⟩

/-- **A conversion is what it is.** It is recalled if it was made before and made otherwise, with
the same result. -/
theorem answers_convert (conversion : Conversion) :
    Answers CaseMap.WellFormed (convert conversion) (.ok conversion.result) := by
  intro map sound
  have looked : (get : Naming CaseMap).run.run map = (.ok map, map) := rfl
  unfold convert
  rw [run_bind_ok looked]
  -- A hit is right because the map is sound, and a miss adds an entry under a new key.
  cases found : Ordered.get? conversion map.entries with
  | some result =>
      have right : result = conversion.result := sound.1 _ (Ordered.mem_of_get? found)
      exact ⟨map, sound, right ▸ rfl⟩
  | none =>
      refine ⟨CaseMap.mk (map.entries ++ [(conversion, conversion.result)]), ⟨?_, ?_⟩, rfl⟩
      · intro entry member
        rcases List.mem_append.mp member with old | new
        · exact sound.1 entry old
        · rw [List.mem_singleton.mp new]
      · rw [List.map_append, List.map_singleton, ← List.concat_eq_append]
        exact sound.2.concat (Ordered.get?_eq_none_iff.mp found)

/-- A name in camel case; a value that is not a text has none. -/
theorem settled_toCamel (name : Value) (upperFirst : Bool) :
    Settled CaseMap.WellFormed (toCamel name upperFirst) := by
  cases name with
  | text s => exact ⟨_, answers_convert (.camel upperFirst s)⟩
  | _ => exact ⟨_, .throw Fault.wrongType⟩

/-- The name of a class is the same from every sound case map. -/
theorem answers_className (s : String) :
    Answers CaseMap.WellFormed (className (.text s)) (.ok (camel true s)) :=
  answers_convert (.camel true s)

/-- So is the name of a handler. -/
theorem answers_handlerName (s : String) :
    Answers CaseMap.WellFormed (handlerName (.text s)) (.ok ("_" ++ camel false s ++ "Event")) :=
  (answers_convert (.camel false s)).bind fun folded => .pure ("_" ++ folded ++ "Event")

/-- So is the name of a callback. -/
theorem answers_callbackName (s : String) :
    Answers CaseMap.WellFormed (callbackName (.text s)) (.ok ("on" ++ camel true s)) :=
  (answers_convert (.camel true s)).bind fun folded => .pure ("on" ++ folded)

end ElementWrap.Naming
