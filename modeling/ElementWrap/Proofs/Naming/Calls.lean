import ElementWrap.Proofs.Naming.Recall

/-! # Calls of a case map

Names are converted by calls, one after the other on one map. The map then holds each conversion
once, in the order in which the conversions were first asked for, with its result
(`ElementWrap.Naming.entries_afterCalls`). The maps that calls can lead to are the well-formed ones
(`ElementWrap.Naming.wellFormed_iff_exists_calls`).
-/

namespace ElementWrap.Naming

/-- A call of a case map. Anything can be given for the name, and the first letter is put in upper
case if the value that is given for it counts. -/
inductive Call
  | camel (name upperFirst : Value)
  | dash (name : Value)

namespace Call

/-- What a call computes. -/
def naming : Call → Naming String
  | camel name upperFirst => toCamel name upperFirst.truthy
  | dash name => toDash name

/-- The conversion that a call makes or recalls. What is not a text is not converted. -/
def conversion? : Call → Option Conversion
  | camel (.text s) upperFirst => some (.camel upperFirst.truthy s)
  | dash (.text s) => some (.dash s)
  | _ => none

/-- What a call answers. -/
def answer (call : Call) : Except Fault String :=
  match call.conversion? with
  | some conversion => .ok conversion.result
  | none => .error .wrongType

/-- The call that asks for a conversion. -/
def ofConversion : Conversion → Call
  | .camel upperFirst s => camel (.text s) (.bool upperFirst)
  | .dash s => dash (.text s)

private theorem conversion?_ofConversion (conversion : Conversion) :
    (ofConversion conversion).conversion? = some conversion := by
  cases conversion with
  | camel upperFirst s => rfl
  | dash s => rfl

/-- A call that asks for a conversion makes it. -/
theorem naming_of_some {call : Call} {conversion : Conversion}
    (asks : call.conversion? = some conversion) : call.naming = convert conversion := by
  cases call with
  | camel name upperFirst =>
      cases name with
      | text s =>
          cases asks
          rfl
      | _ => exact nomatch asks
  | dash name =>
      cases name with
      | text s =>
          cases asks
          rfl
      | _ => exact nomatch asks

private theorem naming_of_none {call : Call} (asks : call.conversion? = none) :
    call.naming = throw .wrongType := by
  cases call with
  | camel name upperFirst =>
      cases name with
      | text s => exact nomatch asks
      | _ => rfl
  | dash name =>
      cases name with
      | text s => exact nomatch asks
      | _ => rfl

end Call

/-- The map that calls leave, one after the other. -/
def afterCalls (map : CaseMap) (calls : List Call) : CaseMap :=
  calls.foldl (fun map call => (call.naming.run.run map).2) map

variable {map : CaseMap} {conversion : Conversion} {call : Call}

private theorem afterCalls_append (map : CaseMap) (earlier later : List Call) :
    afterCalls map (earlier ++ later) = afterCalls (afterCalls map earlier) later :=
  List.foldl_append

/-! ## One conversion -/

/-- The map holds a conversion. -/
def Knows (map : CaseMap) (conversion : Conversion) : Prop :=
  conversion ∈ map.entries.map Prod.fst

/-- A conversion that was made is recalled, and the map stays as it is. -/
theorem run_convert_known (known : Knows map conversion) :
    ∃ result, (convert conversion).run.run map = (.ok result, map) := by
  obtain ⟨result, found⟩ := Option.isSome_iff_exists.mp (Ordered.isSome_get?_iff.mpr known)
  refine ⟨result, ?_⟩
  have looked : (get : Naming CaseMap).run.run map = (.ok map, map) := rfl
  unfold convert
  rw [run_bind_ok looked, found]
  rfl

/-- A new conversion is made, and the map holds it from then on. -/
theorem run_convert_new (new : ¬ Knows map conversion) :
    (convert conversion).run.run map =
      (.ok conversion.result, ⟨map.entries ++ [(conversion, conversion.result)]⟩) := by
  have looked : (get : Naming CaseMap).run.run map = (.ok map, map) := rfl
  unfold convert
  rw [run_bind_ok looked, Ordered.get?_eq_none_iff.mpr new]
  rfl

/-- After a conversion the map knows what it knew before and this conversion. -/
theorem knows_convert (other : Conversion) :
    Knows ((convert conversion).run.run map).2 other ↔ Knows map other ∨ other = conversion := by
  by_cases known : Knows map conversion
  · obtain ⟨result, ran⟩ := run_convert_known known
    rw [ran]
    refine ⟨.inl, ?_⟩
    rintro (held | rfl)
    · exact held
    · exact known
  · rw [run_convert_new known, Knows, List.map_append, List.mem_append, List.map_singleton,
      List.mem_singleton]
    exact Iff.rfl

/-! ## One call -/

/-- A call that fails leaves the map as it is. -/
theorem run_call_of_none (asks : call.conversion? = none) (map : CaseMap) :
    call.naming.run.run map = (.error .wrongType, map) := by
  rw [Call.naming_of_none asks]
  rfl

/-- **A call answers the same on every sound map**: with the result of its conversion, or with a
fault if it asks for none. -/
theorem answers_call (call : Call) : Answers CaseMap.WellFormed call.naming call.answer := by
  unfold Call.answer
  cases asks : call.conversion? with
  | some conversion =>
      rw [Call.naming_of_some asks]
      exact answers_convert conversion
  | none =>
      rw [Call.naming_of_none asks]
      exact .throw _

private theorem wellFormed_call (sound : map.WellFormed) (call : Call) :
    (call.naming.run.run map).2.WellFormed := by
  obtain ⟨after, afterSound, ran⟩ := answers_call call map sound
  rwa [ran]

/-- A call that failed has left the map as it was. -/
theorem run_call_error {fault : Fault} (failed : (call.naming.run.run map).1 = .error fault) :
    (call.naming.run.run map).2 = map := by
  cases asks : call.conversion? with
  | none => rw [run_call_of_none asks]
  | some conversion =>
      rw [Call.naming_of_some asks] at failed
      by_cases known : Knows map conversion
      · obtain ⟨result, ran⟩ := run_convert_known known
        rw [ran] at failed
        exact nomatch failed
      · rw [run_convert_new known] at failed
        exact nomatch failed

/-! ## All calls -/

/-- Calls leave a sound case map sound. -/
theorem wellFormed_afterCalls (sound : map.WellFormed) (calls : List Call) :
    (afterCalls map calls).WellFormed := by
  induction calls generalizing map with
  | nil => exact sound
  | cons call rest ih => exact ih (wellFormed_call sound call)

/-- **A map holds each conversion that it was asked for once**, in the order in which they were
first asked for, with its result. -/
theorem entries_afterCalls (calls : List Call) :
    (afterCalls .empty calls).entries =
      (calls.filterMap Call.conversion?).eraseDups.map
        fun conversion => (conversion, conversion.result) := by
  induction calls using List.reverseRecOn with
  | nil => rfl
  | append_singleton calls call ih =>
      rw [afterCalls_append, List.filterMap_append]
      change (call.naming.run.run (afterCalls .empty calls)).2.entries = _
      cases asks : call.conversion? with
      | none =>
          rw [run_call_of_none asks, List.filterMap_cons_none asks, List.filterMap_nil,
            List.append_nil, ih]
      | some conversion =>
          have keys : (afterCalls .empty calls).entries.map Prod.fst =
              (calls.filterMap Call.conversion?).eraseDups := by
            rw [ih, List.map_map]
            exact List.map_id _
          have known_iff : Knows (afterCalls .empty calls) conversion ↔
              conversion ∈ calls.filterMap Call.conversion? := by
            rw [Knows, keys, List.mem_eraseDups]
          rw [Call.naming_of_some asks, List.filterMap_cons_some asks, List.filterMap_nil,
            List.eraseDups_append, List.removeAll]
          by_cases known : Knows (afterCalls .empty calls) conversion
          · obtain ⟨result, ran⟩ := run_convert_known known
            rw [ran, ih, List.filter_cons_of_neg (by simpa using known_iff.mp known)]
            exact congrArg _ (List.append_nil _).symm
          · rw [run_convert_new known, ih,
              List.filter_cons_of_pos (by simpa using mt known_iff.mpr known), List.map_append]
            rfl

/-- A map holds as many entries as there are different conversions among those that it was asked
for. -/
theorem size_afterCalls (calls : List Call) :
    (afterCalls .empty calls).size = (calls.filterMap Call.conversion?).eraseDups.length := by
  rw [CaseMap.size, entries_afterCalls, List.length_map]

/-- **The well-formed maps are those that calls lead to.** -/
theorem wellFormed_iff_exists_calls :
    map.WellFormed ↔ ∃ calls, map = afterCalls .empty calls := by
  constructor
  · rintro ⟨right, distinct⟩
    -- The conversions of a map, asked for in their order, give the map back.
    refine ⟨map.entries.map fun entry => .ofConversion entry.1, ?_⟩
    have asked : (map.entries.map fun entry => Call.ofConversion entry.1).filterMap
        Call.conversion? = map.entries.map Prod.fst := by
      rw [List.filterMap_map, ← List.filterMap_eq_map]
      exact List.filterMap_congr fun entry _ => Call.conversion?_ofConversion entry.1
    have entries := entries_afterCalls (map.entries.map fun entry => .ofConversion entry.1)
    rw [asked, eraseDups_of_nodup distinct, List.map_map] at entries
    have same : map.entries.map
        ((fun conversion => (conversion, conversion.result)) ∘ Prod.fst) = map.entries := by
      refine (List.map_congr_left fun entry member => ?_).trans (List.map_id _)
      exact Prod.ext rfl (right entry member).symm
    rw [same] at entries
    exact congrArg CaseMap.mk entries.symm
  · rintro ⟨calls, rfl⟩
    exact wellFormed_afterCalls wellFormed_empty calls

end ElementWrap.Naming
