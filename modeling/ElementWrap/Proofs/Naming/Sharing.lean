import ElementWrap.Naming.Pool
import ElementWrap.Proofs.Naming.Calls

/-! # Which generators share the map they are handed

Two generators that are handed a map which has converted something convert through it and through no
other, so that what one of them converted the other recalls. Two that are handed a map which has
converted nothing yet leave it so, and each of them converts on its own
(`ElementWrap.Naming.shared_iff`).
-/

namespace ElementWrap.Naming

/-- What a generator can be asked to name. -/
inductive Request
  | className (name : Value)
  | handlerName (event : Value)
  | callbackName (event : Value)

namespace Request

/-- What a generator does for a request. -/
def naming : Request → Naming String
  | className name => Naming.className name
  | handlerName event => Naming.handlerName event
  | callbackName event => Naming.callbackName event

/-- The call that a generator makes for a request. -/
def call : Request → Call
  | className name => .camel name (.bool true)
  | handlerName event => .camel event (.bool false)
  | callbackName event => .camel event (.bool true)

/-- A request leaves of a map what its call leaves. -/
theorem run_naming (request : Request) (map : CaseMap) :
    (request.naming.run.run map).2 = (request.call.naming.run.run map).2 := by
  have affixed (upperFirst : Bool) (name : Value) (affix : String → String) :
      ((toCamel name upperFirst >>= fun folded => pure (affix folded)).run.run map).2 =
        ((toCamel name upperFirst).run.run map).2 := by
    rw [run_bind]
    rcases (toCamel name upperFirst).run.run map with ⟨fault | folded, after⟩
    · rfl
    · rfl
  cases request with
  | className name => rfl
  | handlerName event => exact affixed false event fun folded => "_" ++ folded ++ "Event"
  | callbackName event => exact affixed true event fun folded => "on" ++ folded

end Request

/-! ## What calls leave known -/

variable {map : CaseMap} {call : Call}

private theorem knows_call (call : Call) (map : CaseMap) (conversion : Conversion) :
    Knows (call.naming.run.run map).2 conversion ↔
      Knows map conversion ∨ call.conversion? = some conversion := by
  cases asks : call.conversion? with
  | none =>
      rw [run_call_of_none asks]
      exact (or_iff_left (nomatch ·)).symm
  | some asked =>
      rw [Call.naming_of_some asks, knows_convert, Option.some.injEq, eq_comm (a := asked)]

private theorem knows_afterCalls (map : CaseMap) (calls : List Call) (conversion : Conversion) :
    Knows (afterCalls map calls) conversion ↔
      Knows map conversion ∨ ∃ call ∈ calls, call.conversion? = some conversion := by
  induction calls generalizing map with
  | nil => exact (or_iff_left fun ⟨_, member, _⟩ => absurd member List.not_mem_nil).symm
  | cons call rest ih =>
      change Knows (afterCalls (call.naming.run.run map).2 rest) conversion ↔ _
      rw [ih, knows_call, or_assoc]
      simp only [List.mem_cons, exists_eq_or_imp]

/-- What was asked for before is not converted again. -/
theorem run_call_again {calls : List Call} {earlier : Call} (member : earlier ∈ calls)
    (same : call.conversion? = earlier.conversion?) :
    (call.naming.run.run (afterCalls map calls)).2 = afterCalls map calls := by
  cases asks : call.conversion? with
  | none => rw [run_call_of_none asks]
  | some conversion =>
      have known : Knows (afterCalls map calls) conversion :=
        (knows_afterCalls map calls conversion).mpr (.inr ⟨earlier, member, same ▸ asks⟩)
      obtain ⟨result, ran⟩ := run_convert_known known
      rw [Call.naming_of_some asks, ran]

/-! ## Two generators -/

namespace Pool

/-- The pool after requests to two generators, in any order. -/
def afterRequests (pool : Pool) (requests : List (Fin 2 × Request)) : Pool :=
  requests.foldl (fun pool asked => (pool.run asked.1 asked.2.naming).2) pool

/-- The calls of one of the generators. -/
def callsOf (generator : Fin 2) (requests : List (Fin 2 × Request)) : List Call :=
  (requests.filter fun asked => asked.1 = generator).map (·.2.call)

/-- A pool of two generators without maps of their own. -/
def sharing (map : CaseMap) : Pool := ⟨map, [none, none]⟩

/-- A pool of two generators that have maps of their own. -/
def apart (handed first second : CaseMap) : Pool := ⟨handed, [some first, some second]⟩

private theorem of_nonempty (used : map.isEmpty = false) : Pool.of map 2 = sharing map := by
  rw [Pool.of, used]
  rfl

private theorem of_empty (unused : map.isEmpty = true) :
    Pool.of map 2 = apart map .empty .empty := by
  rw [Pool.of, unused]
  rfl

private theorem mapOf_sharing (map : CaseMap) (generator : Fin 2) :
    (sharing map).mapOf generator = map :=
  match generator with
  | 0 => rfl
  | 1 => rfl

private theorem run_sharing (map : CaseMap) (generator : Fin 2) (request : Request) :
    ((sharing map).run generator request.naming).2 =
      sharing (request.call.naming.run.run map).2 := by
  rw [← request.run_naming]
  match generator with
  | 0 => rfl
  | 1 => rfl

private theorem afterRequests_sharing (map : CaseMap) (requests : List (Fin 2 × Request)) :
    (sharing map).afterRequests requests = sharing (afterCalls map (requests.map (·.2.call))) := by
  induction requests generalizing map with
  | nil => rfl
  | cons asked rest ih =>
      change ((sharing map).run asked.1 asked.2.naming).2.afterRequests rest = _
      rw [run_sharing, ih]
      rfl

private theorem afterRequests_apart (handed first second : CaseMap)
    (requests : List (Fin 2 × Request)) :
    (apart handed first second).afterRequests requests =
      apart handed (afterCalls first (callsOf 0 requests))
        (afterCalls second (callsOf 1 requests)) := by
  induction requests generalizing first second with
  | nil => rfl
  | cons asked rest ih =>
      obtain ⟨generator, request⟩ := asked
      change ((apart handed first second).run generator request.naming).2.afterRequests rest = _
      match generator with
      | 0 =>
          change (apart handed (request.naming.run.run first).2 second).afterRequests rest = _
          rw [request.run_naming, ih]
          rfl
      | 1 =>
          change (apart handed first (request.naming.run.run second).2).afterRequests rest = _
          rw [request.run_naming, ih]
          rfl

end Pool

open Pool

/-- **Two generators share the map that they are handed exactly if it has converted something.**
Then it takes up all their conversions, in the order of the requests, and what one of them was asked
for neither of them converts again. Handed a map that has converted nothing, both leave it so, and
each converts through a map of its own. -/
theorem shared_iff (map : CaseMap) :
    ((∀ (requests : List (Fin 2 × Request)) (generator : Fin 2),
      ((Pool.of map 2).afterRequests requests).mapOf generator =
        ((Pool.of map 2).afterRequests requests).handed) ↔ map.isEmpty = false) ∧
    ∀ requests : List (Fin 2 × Request),
      (map.isEmpty = false →
        ((Pool.of map 2).afterRequests requests).handed =
          afterCalls map (requests.map (·.2.call)) ∧
        ∀ asked ∈ requests, ∀ again : Request,
          again.call.conversion? = asked.2.call.conversion? → ∀ generator : Fin 2,
            (((Pool.of map 2).afterRequests requests).run generator again.naming).2 =
              (Pool.of map 2).afterRequests requests) ∧
      (map.isEmpty = true →
        ((Pool.of map 2).afterRequests requests).handed = map ∧
        ∀ generator : Fin 2, ((Pool.of map 2).afterRequests requests).mapOf generator =
          afterCalls .empty (callsOf generator requests)) := by
  have shares (used : map.isEmpty = false) (requests : List (Fin 2 × Request)) :
      (Pool.of map 2).afterRequests requests =
        sharing (afterCalls map (requests.map (·.2.call))) := by
    rw [of_nonempty used, afterRequests_sharing]
  have divides (unused : map.isEmpty = true) (requests : List (Fin 2 × Request)) :
      (Pool.of map 2).afterRequests requests =
        apart map (afterCalls .empty (callsOf 0 requests))
          (afterCalls .empty (callsOf 1 requests)) := by
    rw [of_empty unused, afterRequests_apart]
  refine ⟨⟨fun agree => ?_, fun used requests generator => ?_⟩, fun requests =>
    ⟨fun used => ⟨?_, fun asked member again same generator => ?_⟩,
      fun unused => ⟨?_, fun generator => ?_⟩⟩⟩
  · -- One request shows the difference: an empty map that is handed on stays empty.
    by_contra unused
    rw [Bool.not_eq_false] at unused
    have same := agree [(0, .className (.text ""))] 0
    rw [divides unused] at same
    have empty : afterCalls .empty (callsOf 0 [(0, .className (.text ""))]) = map := same
    rw [← empty] at unused
    exact absurd unused (by decide)
  · rw [shares used, mapOf_sharing]
    rfl
  · rw [shares used]
    rfl
  · rw [shares used, run_sharing, run_call_again (List.mem_map_of_mem member) same]
  · rw [divides unused]
    rfl
  · rw [divides unused]
    match generator with
    | 0 => rfl
    | 1 => rfl

/-- After one request to the first of two generators that were handed a new map, the map that they
were handed is not the one that this generator converts through. -/
theorem not_shared_new :
    ¬ ∀ generator : Fin 2,
      ((Pool.of .empty 2).afterRequests [(0, .className (.text "paper-input"))]).mapOf generator =
        ((Pool.of .empty 2).afterRequests [(0, .className (.text "paper-input"))]).handed := by
  intro agree
  have sizes := congrArg CaseMap.size (agree 0)
  exact absurd sizes (by decide)

end ElementWrap.Naming
