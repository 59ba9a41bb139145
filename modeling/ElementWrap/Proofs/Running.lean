import Mathlib.Data.List.Forall2
import Mathlib.Order.Defs.Unbundled
import Mathlib.Tactic.Choose

/-! # Running computations that fail and keep a state

The laws of a computation that carries a state through its failures, one for each way in which such
computations are put together. What all parts of a computation keep (`Steps`) the whole keeps, and
what none of them fails with (`Raises`) the whole does not. `Answers` says that the answer of a
computation is the same from every sound state; it passes on to what is put together from
computations that answer.
-/

namespace ElementWrap

variable {ε σ α β : Type} {computation : ExceptT ε (StateM σ) α} {next : α → ExceptT ε (StateM σ) β}

/-- What has a result had one before. -/
theorem bind_eq_ok_iff {result : Except ε α} {following : α → Except ε β} {b : β} :
    result >>= following = .ok b ↔ ∃ a, result = .ok a ∧ following a = .ok b := by
  cases result with
  | error fault => exact iff_of_false (fun same => nomatch same) fun ⟨_, same, _⟩ => nomatch same
  | ok a =>
      refine ⟨fun same => ⟨a, rfl, same⟩, ?_⟩
      rintro ⟨_, held, same⟩
      cases held
      exact same

/-- What failed did so in its first part, or in what follows the result of that. -/
theorem bind_eq_error_iff {result : Except ε α} {following : α → Except ε β} {fault : ε} :
    result >>= following = .error fault ↔
      result = .error fault ∨ ∃ a, result = .ok a ∧ following a = .error fault := by
  cases result with
  | error other =>
      constructor
      · intro same
        obtain rfl := Except.error.inj same
        exact .inl rfl
      · rintro (same | ⟨_, held, _⟩)
        · obtain rfl := Except.error.inj same
          rfl
        · exact nomatch held
  | ok a =>
      constructor
      · exact fun failed => .inr ⟨a, rfl, failed⟩
      · rintro (held | ⟨_, held, failed⟩)
        · exact nomatch held
        · cases held
          exact failed

/-- Faults that are wrapped leave a result as it is. -/
theorem mapError_eq_ok_iff {δ : Type} {wrap : ε → δ} {result : Except ε α} {a : α} :
    result.mapError wrap = .ok a ↔ result = .ok a := by
  cases result with
  | error fault => exact iff_of_false nofun nofun
  | ok b => exact ⟨fun same => congrArg _ (Except.ok.inj same), fun same => same ▸ rfl⟩

/-- What has a result is that result. -/
theorem eq_ok_of_toOption {result : Except ε α} {a : α} (has : result.toOption = some a) :
    result = .ok a := by
  cases result with
  | error fault => exact nomatch has
  | ok b => exact congrArg _ (Option.some.inj has)

/-- Whatever a computation fails with is among some faults. -/
def FailsAmong (among : ε → Prop) (result : Except ε α) : Prop :=
  ∀ fault, result = .error fault → among fault

namespace FailsAmong

variable {among : ε → Prop} {result : Except ε α} {following : α → Except ε β}

/-- A result is no failure. -/
theorem ok (a : α) : FailsAmong among (.ok a : Except ε α) :=
  fun _ failed => nomatch failed

/-- A failure among the faults. -/
theorem error {fault : ε} (holds : among fault) : FailsAmong among (.error fault : Except ε α) := by
  intro other failed
  cases failed
  exact holds

/-- What is known to have a result fails with nothing. -/
theorem of_isOk (isOk : result.isOk = true) : FailsAmong among result := by
  cases result with
  | error fault => exact nomatch isOk
  | ok a => exact ok a

/-- What is put together from parts that fail among the faults does so. -/
theorem bind (first : FailsAmong among result) (second : ∀ a, FailsAmong among (following a)) :
    FailsAmong among (result >>= following) := by
  intro fault failed
  rcases bind_eq_error_iff.mp failed with failed | ⟨a, _, failed⟩
  · exact first fault failed
  · exact second a fault failed

/-- So does what is done with each item of a list. -/
theorem mapM {items : List α} {step : α → Except ε β}
    (each : ∀ item, FailsAmong among (step item)) : FailsAmong among (items.mapM step) := by
  induction items with
  | nil => exact ok []
  | cons item rest ih =>
      rw [List.mapM_cons]
      exact (each item).bind fun b => ih.bind fun bs => ok (b :: bs)

end FailsAmong

/-- Where a computation fails, so does what follows it, and the state is kept. -/
theorem run_bind (computation : ExceptT ε (StateM σ) α) (next : α → ExceptT ε (StateM σ) β)
    (state : σ) :
    (computation >>= next).run.run state =
      match computation.run.run state with
      | (.ok a, after) => (next a).run.run after
      | (.error fault, after) => (.error fault, after) := by
  rw [ExceptT.run_bind, StateT.run_bind]
  rcases computation.run.run state with ⟨_ | _, _⟩ <;> rfl

/-- What follows a result goes on from it. -/
theorem run_bind_ok {state after : σ} {a : α} (ran : computation.run.run state = (.ok a, after)) :
    (computation >>= next).run.run state = (next a).run.run after := by
  rw [run_bind, ran]

/-- What follows a failure is not run. -/
theorem run_bind_error {state after : σ} {fault : ε}
    (ran : computation.run.run state = (.error fault, after)) :
    (computation >>= next).run.run state = (.error fault, after) := by
  rw [run_bind, ran]

/-- What has a result had one at every step. -/
theorem run_bind_eq_ok_iff {state after : σ} {b : β} :
    (computation >>= next).run.run state = (.ok b, after) ↔
      ∃ a between, computation.run.run state = (.ok a, between) ∧
        (next a).run.run between = (.ok b, after) := by
  rw [run_bind]
  rcases computation.run.run state with ⟨fault | a, between⟩
  · refine iff_of_false (fun same => by cases same) ?_
    rintro ⟨a, between, same, _⟩
    cases same
  · refine ⟨fun ran => ⟨a, between, rfl, ran⟩, ?_⟩
    rintro ⟨_, _, same, ran⟩
    cases same
    exact ran

/-- What failed did so in its first part, or from what that has left. -/
theorem run_bind_eq_error_iff {state after : σ} {fault : ε} :
    (computation >>= next).run.run state = (.error fault, after) ↔
      computation.run.run state = (.error fault, after) ∨
        ∃ a between, computation.run.run state = (.ok a, between) ∧
          (next a).run.run between = (.error fault, after) := by
  rw [run_bind]
  rcases computation.run.run state with ⟨other | a, between⟩
  · constructor
    · intro same
      cases same
      exact .inl rfl
    · rintro (same | ⟨_, _, same, _⟩)
      · cases same
        rfl
      · cases same
  · constructor
    · exact fun ran => .inr ⟨a, between, rfl, ran⟩
    · rintro (same | ⟨_, _, same, ran⟩)
      · cases same
      · cases same
        exact ran

/-- Where one item after the other is taken, a failure is that of an item, from what those before it
have left. -/
theorem run_mapM_eq_error {items : List α} {step : α → ExceptT ε (StateM σ) β} {state after : σ}
    {fault : ε} (ran : (items.mapM step).run.run state = (.error fault, after)) :
    ∃ before item later results between, items = before ++ item :: later ∧
      (before.mapM step).run.run state = (.ok results, between) ∧
      (step item).run.run between = (.error fault, after) := by
  induction items generalizing state with
  | nil => cases ran
  | cons item rest ih =>
      rw [List.mapM_cons] at ran
      rcases run_bind_eq_error_iff.mp ran with failed | ⟨result, between, first, ran⟩
      · exact ⟨[], item, rest, [], state, rfl, rfl, failed⟩
      · rcases run_bind_eq_error_iff.mp ran with failed | ⟨_, _, _, ran⟩
        · obtain ⟨before, other, later, results, last, rfl, taken, refused⟩ := ih failed
          refine ⟨item :: before, other, later, result :: results, last, rfl, ?_, refused⟩
          rw [List.mapM_cons, run_bind_ok first, run_bind_ok taken]
          rfl
        · cases ran

/-- Where one item after the other is taken, each result is that of its item, from some state. -/
theorem forall₂_of_run_mapM {items : List α} {step : α → ExceptT ε (StateM σ) β} {results : List β}
    {state after : σ} (ran : (items.mapM step).run.run state = (.ok results, after)) :
    List.Forall₂ (fun item result => ∃ before between,
      (step item).run.run before = (.ok result, between)) items results := by
  induction items generalizing state results with
  | nil =>
      cases ran
      exact .nil
  | cons item rest ih =>
      rw [List.mapM_cons] at ran
      obtain ⟨result, between, first, ran⟩ := run_bind_eq_ok_iff.mp ran
      obtain ⟨others, _, later, ran⟩ := run_bind_eq_ok_iff.mp ran
      cases ran
      exact .cons ⟨state, between, first⟩ (ih later)

/-- A handler goes on from where its computation has failed. -/
theorem run_tryCatch (computation : ExceptT ε (StateM σ) α) (handler : ε → ExceptT ε (StateM σ) α)
    (state : σ) :
    (tryCatch computation handler).run.run state =
      match computation.run.run state with
      | (.ok a, after) => (.ok a, after)
      | (.error fault, after) => (handler fault).run.run after := by
  change ((computation.run >>= fun result => match result with
    | Except.ok a => Pure.pure (Except.ok a)
    | Except.error fault => (handler fault).run : StateM σ (Except ε α)).run state) = _
  rw [StateT.run_bind]
  rcases computation.run.run state with ⟨_ | _, _⟩ <;> rfl

/-! ## What a computation fails with -/

/-- Wherever a computation starts from, what it fails with is among some faults. -/
def Raises (among : ε → Prop) (computation : ExceptT ε (StateM σ) α) : Prop :=
  ∀ state, FailsAmong among (computation.run.run state).1

namespace Raises

variable {among : ε → Prop}

/-- What a computation has failed with is among the faults that it raises. -/
theorem of_run {state after : σ} {fault : ε} (raises : Raises among computation)
    (ran : computation.run.run state = (.error fault, after)) : among fault := by
  have raised := raises state
  rw [ran] at raised
  exact raised fault rfl

/-- A result raises nothing. -/
theorem pure (a : α) : Raises among (Pure.pure a : ExceptT ε (StateM σ) α) := fun _ => .ok a

/-- Looking at the state raises nothing. -/
theorem get : Raises among (MonadState.get : ExceptT ε (StateM σ) σ) := fun state => .ok state

/-- Changing the state raises nothing. -/
theorem modify (change : σ → σ) :
    Raises among (modify change : ExceptT ε (StateM σ) PUnit) := fun _ => .ok PUnit.unit

/-- Throwing a fault raises that fault. -/
theorem throw {fault : ε} (holds : among fault) :
    Raises among (MonadExcept.throw fault : ExceptT ε (StateM σ) α) := fun _ => .error holds

/-- A result that is lifted raises what it fails with. -/
theorem lift {result : Except ε α} (fails : FailsAmong among result) :
    Raises among (ExceptT.mk (Pure.pure result) : ExceptT ε (StateM σ) α) := fun _ => fails

/-- What is put together raises what its parts raise. -/
theorem bind (first : Raises among computation) (second : ∀ a, Raises among (next a)) :
    Raises among (computation >>= next) := by
  intro state
  rw [run_bind]
  rcases ran : computation.run.run state with ⟨fault | a, between⟩
  · exact .error (first.of_run ran)
  · exact second a between

/-- A fault that is caught does not count, but what is done about it may fail. -/
theorem tryCatch {handler : ε → ExceptT ε (StateM σ) α}
    (handles : ∀ fault, Raises among (handler fault)) :
    Raises among (MonadExcept.tryCatch computation handler) := by
  intro state
  rw [run_tryCatch]
  rcases computation.run.run state with ⟨fault | a, after⟩
  · exact handles fault after
  · exact .ok a

/-- So does what is done with each item of a list. -/
theorem forM {items : List α} {step : α → ExceptT ε (StateM σ) PUnit}
    (each : ∀ item ∈ items, Raises among (step item)) : Raises among (items.forM step) := by
  induction items with
  | nil => exact pure PUnit.unit
  | cons item rest ih =>
      change Raises among (step item >>= fun _ => rest.forM step)
      exact (each item List.mem_cons_self).bind fun _ =>
        ih fun other member => each other (List.mem_cons_of_mem item member)

end Raises

/-! ## What every step keeps -/

/-- Whatever becomes of a computation, the state it starts from and the one it leaves behind are
related. -/
def Steps (related : σ → σ → Prop) (computation : ExceptT ε (StateM σ) α) : Prop :=
  ∀ state, related state (computation.run.run state).2

namespace Steps

variable {related : σ → σ → Prop}

/-- What a computation has left is related to where it started from. -/
theorem of_run {state after : σ} {result : Except ε α} (steps : Steps related computation)
    (ran : computation.run.run state = (result, after)) : related state after := by
  have step := steps state
  rwa [ran] at step

variable [IsPreorder σ related]

/-- A result leaves the state as it is. -/
theorem pure (result : α) : Steps related (Pure.pure result : ExceptT ε (StateM σ) α) :=
  fun state => refl_of related state

/-- So does a failure. -/
theorem throw (fault : ε) :
    Steps related (MonadExcept.throw fault : ExceptT ε (StateM σ) α) :=
  fun state => refl_of related state

/-- So does a result that is lifted. -/
theorem lift (result : Except ε α) :
    Steps related (ExceptT.mk (Pure.pure result) : ExceptT ε (StateM σ) α) :=
  fun state => refl_of related state

/-- So does looking at the state. -/
theorem get : Steps related (MonadState.get : ExceptT ε (StateM σ) σ) :=
  fun state => refl_of related state

/-- What follows a computation is run only from what the computation left with a result. -/
theorem bind_from {state : σ} (first : related state (computation.run.run state).2)
    (second : ∀ a after, computation.run.run state = (.ok a, after) →
      related after ((next a).run.run after).2) :
    related state ((computation >>= next).run.run state).2 := by
  rw [run_bind]
  rcases ran : computation.run.run state with ⟨fault | a, between⟩ <;> rw [ran] at first
  · exact first
  · exact trans_of related first (second a between ran)

/-- What both parts keep the whole keeps. -/
theorem bind (first : Steps related computation) (second : ∀ a, Steps related (next a)) :
    Steps related (computation >>= next) :=
  fun state => bind_from (first state) fun a after _ => second a after

/-- What a computation keeps, and its handler from where it has failed, both keep together. -/
theorem tryCatch_from {handler : ε → ExceptT ε (StateM σ) α} {state : σ}
    (first : related state (computation.run.run state).2)
    (second : ∀ fault after, computation.run.run state = (.error fault, after) →
      related after ((handler fault).run.run after).2) :
    related state ((MonadExcept.tryCatch computation handler).run.run state).2 := by
  rw [run_tryCatch]
  rcases ran : computation.run.run state with ⟨fault | a, between⟩ <;> rw [ran] at first
  · exact trans_of related first (second fault between ran)
  · exact first

/-- What each step keeps all of them keep. -/
theorem mapM {items : List α} {step : α → ExceptT ε (StateM σ) β}
    (each : ∀ item ∈ items, Steps related (step item)) : Steps related (items.mapM step) := by
  induction items with
  | nil => exact pure []
  | cons item rest ih =>
      rw [List.mapM_cons]
      exact (each item List.mem_cons_self).bind fun b =>
        (ih fun other member => each other (List.mem_cons_of_mem item member)).bind fun bs =>
          pure (b :: bs)

/-- What each step keeps all of them keep, one after the other. -/
theorem forM {items : List α} {step : α → ExceptT ε (StateM σ) PUnit}
    (each : ∀ item ∈ items, Steps related (step item)) : Steps related (items.forM step) := by
  induction items with
  | nil => exact pure PUnit.unit
  | cons item rest ih =>
      change Steps related (step item >>= fun _ => rest.forM step)
      exact (each item List.mem_cons_self).bind fun _ =>
        ih fun other member => each other (List.mem_cons_of_mem item member)

end Steps

/-! ## Answers that do not depend on the state -/

/-- From every sound state a computation has the same answer, and it leaves a sound state behind. -/
def Answers (sound : σ → Prop) (computation : ExceptT ε (StateM σ) α) (answer : Except ε α) :
    Prop :=
  ∀ state, sound state → ∃ after, sound after ∧ computation.run.run state = (answer, after)

/-- A computation has an answer. -/
def Settled (sound : σ → Prop) (computation : ExceptT ε (StateM σ) α) : Prop :=
  ∃ answer, Answers sound computation answer

section Answers

variable {sound : σ → Prop} {answer : Except ε α}

namespace Answers

/-- The answer is that from any sound state. -/
theorem eq_from (answers : Answers sound computation answer) {state : σ}
    (start : sound state) : answer = (computation.run.run state).1 := by
  obtain ⟨after, _, ran⟩ := answers state start
  rw [ran]

/-- A result is its own answer. -/
theorem pure (result : α) :
    Answers sound (Pure.pure result : ExceptT ε (StateM σ) α) (.ok result) :=
  fun state start => ⟨state, start, rfl⟩

/-- So is a result that is lifted. -/
theorem lift (result : Except ε α) :
    Answers sound (ExceptT.mk (Pure.pure result) : ExceptT ε (StateM σ) α) result :=
  fun state start => ⟨state, start, rfl⟩

/-- A failure is answered. -/
theorem throw (fault : ε) :
    Answers sound (MonadExcept.throw fault : ExceptT ε (StateM σ) α) (.error fault) :=
  fun state start => ⟨state, start, rfl⟩

/-- What is put together answers what its parts answer, put together. -/
theorem bind {result : α → Except ε β} (first : Answers sound computation answer)
    (second : ∀ a, Answers sound (next a) (result a)) :
    Answers sound (computation >>= next) (answer >>= result) := by
  intro state start
  obtain ⟨between, betweenSound, ran⟩ := first state start
  rw [run_bind, ran]
  cases answer with
  | error fault => exact ⟨between, betweenSound, rfl⟩
  | ok a => exact second a between betweenSound

/-- What follows an answer answers. -/
theorem bind_ok {a : α} {result : Except ε β} (first : Answers sound computation (.ok a))
    (second : Answers sound (next a) result) : Answers sound (computation >>= next) result := by
  intro state start
  obtain ⟨between, betweenSound, ran⟩ := first state start
  rw [run_bind_ok ran]
  exact second between betweenSound

/-- A failure answers for what would follow. -/
theorem bind_error {fault : ε} (first : Answers sound computation (.error fault)) :
    Answers sound (computation >>= next) (.error fault) := by
  intro state start
  obtain ⟨after, afterSound, ran⟩ := first state start
  exact ⟨after, afterSound, run_bind_error ran⟩

/-- The answers to a list are those to its items. -/
theorem mapM {items : List α} {step : α → ExceptT ε (StateM σ) β} {result : α → Except ε β}
    (each : ∀ item ∈ items, Answers sound (step item) (result item)) :
    Answers sound (items.mapM step) (items.mapM result) := by
  induction items with
  | nil => exact pure []
  | cons item rest ih =>
      rw [List.mapM_cons, List.mapM_cons]
      exact (each item List.mem_cons_self).bind fun b =>
        (ih fun other member => each other (List.mem_cons_of_mem item member)).bind fun bs =>
          pure (b :: bs)

/-- Computations that answer one after the other answer together. -/
theorem sequence {computations : List (ExceptT ε (StateM σ) α)} {results : List α}
    (each : List.Forall₂ (fun computation result => Answers sound computation (.ok result))
      computations results) :
    Answers sound (computations.mapM id) (.ok results) := by
  induction each with
  | nil => exact pure []
  | cons first _ ih =>
      rw [List.mapM_cons]
      exact first.bind fun a => ih.bind fun rest => pure (a :: rest)

end Answers

namespace Settled

/-- What a settled computation comes to is its answer. -/
theorem answers (settled : Settled sound computation) {state : σ} (start : sound state) :
    Answers sound computation (computation.run.run state).1 := by
  obtain ⟨answer, answers⟩ := settled
  rwa [← answers.eq_from start]

/-- A result is settled. -/
theorem pure (result : α) : Settled sound (Pure.pure result : ExceptT ε (StateM σ) α) :=
  ⟨_, .pure result⟩

/-- What is put together from settled parts is settled. -/
theorem bind (first : Settled sound computation) (second : ∀ a, Settled sound (next a)) :
    Settled sound (computation >>= next) := by
  obtain ⟨answer, answers⟩ := first
  choose result results using second
  exact ⟨_, answers.bind results⟩

/-- What is done with each item of a list is settled if each step is. -/
theorem mapM {items : List α} {step : α → ExceptT ε (StateM σ) β}
    (each : ∀ item ∈ items, Settled sound (step item)) : Settled sound (items.mapM step) := by
  induction items with
  | nil => exact pure []
  | cons item rest ih =>
      rw [List.mapM_cons]
      exact (each item List.mem_cons_self).bind fun b =>
        (ih fun other member => each other (List.mem_cons_of_mem item member)).bind fun bs =>
          pure (b :: bs)

end Settled

end Answers

end ElementWrap
