import ElementWrap.Proofs.Lists
import ElementWrap.Wrapper.Sections

/-! # Repeats among the components of a build

A component that repeats the name of one before it is told by a warning, so the warnings of repeats
and the names without repeats together make up the components.
-/

namespace ElementWrap.Wrapper

/-- What the warning of a repeat ends in. -/
def repeatEnding : String := "was selected more than once"

/-- A warning tells of a repeat. -/
def tellsRepeat (message : String) : Bool := repeatEnding.toList.isSuffixOf message.toList

private theorem tellsRepeat_repeat (title : String) :
    tellsRepeat (title ++ "was selected more than once") = true := by
  rw [tellsRepeat, List.isSuffixOf_iff_suffix, String.toList_append]
  exact List.suffix_append _ _

private theorem tellsRepeat_bare (title : String) :
    tellsRepeat (title ++ "exposes no events, properties or methods") = false := by
  rw [Bool.eq_false_iff, tellsRepeat, Ne, List.isSuffixOf_iff_suffix, String.toList_append]
  rintro ⟨before, same⟩
  have last := congrArg List.getLast? same
  simp [repeatEnding] at last

private theorem tellsRepeat_warningsFrom_cons {seen : List Value} {component : Component}
    {s : String}
    (name : component.name = .text s) {rest : List Component} {later : List String}
    (told : warningsFrom (component.name :: seen) rest = .ok later) :
    ∃ messages, warningsFrom seen (component :: rest) = .ok messages ∧
      messages.countP tellsRepeat =
        (if seen.any (·.same (.text s)) then 1 else 0) + later.countP tellsRepeat := by
  rw [name] at told
  refine ⟨_, by
    simp only [warningsFrom, name, Value.isKey, Bool.not_true, Bool.false_eq_true, ↓reduceIte, told]
    rfl, ?_⟩
  have bare (title : String) : List.countP tellsRepeat
      (if component.isBare then [title ++ "exposes no events, properties or methods"] else []) =
        0 := by
    split
    · rw [List.countP_singleton, tellsRepeat_bare]
      rfl
    · rfl
  rw [List.countP_append, List.countP_append, bare, Nat.add_zero]
  apply congrArg (· + _)
  split
  · rw [List.countP_singleton, tellsRepeat_repeat]
    rfl
  · rfl

/-- The warnings of repeats and the components of new names make up all components. -/
theorem repeats_warningsFrom {seen : List Value} {names : List String}
    (known : ∀ s, seen.any (·.same (.text s)) = true ↔ s ∈ names) {components : List Component}
    (named : ∀ component ∈ components, ∃ s, component.name = .text s) :
    ∃ messages, warningsFrom seen components = .ok messages ∧
      messages.countP tellsRepeat +
        (newcomers (·.name.display) names components).length = components.length := by
  induction components generalizing seen names with
  | nil => exact ⟨[], rfl, rfl⟩
  | cons component rest ih =>
      obtain ⟨s, name⟩ := named component List.mem_cons_self
      have namedRest : ∀ other ∈ rest, ∃ s, other.name = .text s := fun other member =>
        named other (List.mem_cons_of_mem component member)
      have display : component.name.display = s := by
        rw [name]
        rfl
      have knownNext : ∀ t, (component.name :: seen).any (·.same (.text t)) = true ↔
          t ∈ s :: names := by
        intro t
        rw [List.any_cons, Bool.or_eq_true, known, List.mem_cons, name]
        exact or_congr_left (beq_iff_eq.trans eq_comm)
      by_cases met : s ∈ names
      · have same : ∀ t, t ∈ s :: names ↔ t ∈ names := fun t =>
          List.mem_cons.trans (or_iff_right_of_imp fun equal => equal ▸ met)
        obtain ⟨later, told, counted⟩ := ih (fun t => (knownNext t).trans (same t)) namedRest
        obtain ⟨messages, warned, repeats⟩ := tellsRepeat_warningsFrom_cons name told
        refine ⟨messages, warned, ?_⟩
        rw [if_pos ((known s).mpr met)] at repeats
        rw [newcomers, display, if_pos met, List.length_cons, repeats]
        omega
      · obtain ⟨later, told, counted⟩ := ih knownNext namedRest
        obtain ⟨messages, warned, repeats⟩ := tellsRepeat_warningsFrom_cons name told
        refine ⟨messages, warned, ?_⟩
        rw [if_neg fun seen => met ((known s).mp seen)] at repeats
        rw [newcomers, display, if_neg met, List.length_cons, List.length_cons, repeats]
        omega

end ElementWrap.Wrapper
