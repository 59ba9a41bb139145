import ElementWrap.Proofs.Layout.Classes
import ElementWrap.Proofs.Naming.Calls

/-! # A case map changes no answer

Whatever was asked of a case map before, a call answers as it does on a new map, a call that fails
leaves no trace, and the map holds one entry for each conversion that was asked for. So a class is
written the same through every map that calls can lead to
(`ElementWrap.Naming.afterCalls_transparent`).
-/

namespace ElementWrap.Naming

open Wrapper

/-- **What was converted before changes no answer.** Let anything be asked of a case map. Then every
further call answers as on a new map, and one that fails leaves the map as it is. The map holds as
many entries as different conversions were asked for. The class of a component is written through
this map as through a new one, and the writing leaves a map that calls lead to as well. -/
theorem afterCalls_transparent (earlier : List Call) :
    (∀ call : Call,
      (call.naming.run.run (afterCalls .empty earlier)).1 = (call.naming.run.run .empty).1 ∧
      ∀ fault, (call.naming.run.run (afterCalls .empty earlier)).1 = .error fault →
        (call.naming.run.run (afterCalls .empty earlier)).2 = afterCalls .empty earlier) ∧
    (afterCalls .empty earlier).size =
      (earlier.filterMap Call.conversion?).eraseDups.length ∧
    ∀ (config : Config) (component : Component),
      ((classText config component).run.run (afterCalls .empty earlier)).1 =
        ((classText config component).run.run .empty).1 ∧
      ∃ later, ((classText config component).run.run (afterCalls .empty earlier)).2 =
        afterCalls .empty later := by
  have sound := wellFormed_afterCalls wellFormed_empty earlier
  refine ⟨fun call => ⟨?_, fun fault => run_call_error⟩, size_afterCalls earlier,
    fun config component => ?_⟩
  · rw [← (answers_call call).eq_from sound, ← (answers_call call).eq_from wellFormed_empty]
  · obtain ⟨after, afterSound, ran⟩ := answers_freshClass config component _ sound
    rw [ran]
    exact ⟨rfl, wellFormed_iff_exists_calls.mp afterSound⟩

end ElementWrap.Naming
