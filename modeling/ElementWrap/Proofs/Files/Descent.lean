import ElementWrap.Proofs.Files.SideBySide
import Mathlib.Data.List.Induction
import Mathlib.Data.Set.Finite.List

/-! # Paths that end below where they start

Steps stay below where they start if no beginning of them leads back further than it leads forth. A
path ends below every destination that it is joined to if and only if it is relative, its steps stay
below where they start and they end further below (`ElementWrap.Files.Path.endsBelow_iff`).
-/

namespace ElementWrap.Files

variable {steps later begun : List String} {start : Location} {step name : String}

/-! ## Forth and back -/

/-- A step that takes back nothing before the steps taken from a place adds to these or takes one
back. -/
theorem enter_append (start : Location) {taken : List String} (further : step = ".." → taken ≠ []) :
    ∃ now, enter (start ++ taken) step = start ++ now ∧
      now.length + 2 * [step].count ".." = taken.length + 1 := by
  by_cases back : step = ".."
  · subst back
    have positive := List.length_pos_of_ne_nil (further rfl)
    refine ⟨taken.dropLast, List.dropLast_append_of_ne_nil (further rfl), ?_⟩
    rw [List.length_dropLast, List.count_singleton_self]
    omega
  · have forth : [step].count ".." = 0 :=
      List.count_eq_zero.mpr fun member => back (List.mem_singleton.mp member).symm
    refine ⟨taken ++ [step], ?_, ?_⟩
    · rw [← List.append_assoc]
      exact if_neg back
    · rw [forth, List.length_append, List.length_singleton]

/-- No beginning of steps leads back further than it leads forth. -/
def StayBelow (steps : List String) : Prop :=
  ∀ begun, begun <+: steps → 2 * begun.count ".." ≤ begun.length

namespace StayBelow

/-- What stays below on its whole way does so at its beginning. -/
theorem of_prefix (stays : StayBelow steps) (begins : begun <+: steps) : StayBelow begun :=
  fun first earlier => stays first (earlier.trans begins)

/-- Steps without double dots stay below. -/
theorem of_forth (forth : ".." ∉ steps) : StayBelow steps := by
  intro begun begins
  rw [List.count_eq_zero.mpr fun member => forth (begins.subset member)]
  exact Nat.zero_le _

private theorem append (first : StayBelow steps) (second : StayBelow later) :
    StayBelow (steps ++ later) := by
  intro begun begins
  rcases List.prefix_or_prefix_of_prefix begins (List.prefix_append _ _) with short | ⟨taken, rfl⟩
  · exact first begun short
  · have whole := first steps List.prefix_rfl
    have rest := second taken ((List.prefix_append_right_inj _).mp begins)
    rw [List.count_append, List.length_append]
    omega

/-- Steps that stay below where they start add steps to it, those forth that are not taken back. -/
theorem foldl_enter (stays : StayBelow steps) (start : Location) :
    ∃ taken, steps.foldl enter start = start ++ taken ∧
      taken.length + 2 * steps.count ".." = steps.length := by
  induction steps using List.reverseRecOn with
  | nil => exact ⟨[], (List.append_nil start).symm, rfl⟩
  | append_singleton before step ih =>
      obtain ⟨taken, reached, counted⟩ := ih (stays.of_prefix (List.prefix_append _ _))
      have bound := stays _ List.prefix_rfl
      rw [List.count_append, List.length_append, List.length_singleton] at bound
      have further : step = ".." → taken ≠ [] := by
        rintro rfl rfl
        rw [List.length_nil] at counted
        rw [List.count_singleton_self] at bound
        omega
      obtain ⟨now, entered, countedNow⟩ := enter_append start further
      refine ⟨now, ?_, ?_⟩
      · rw [List.foldl_append, reached]
        exact entered
      · rw [List.count_append, List.length_append, List.length_singleton]
        omega

end StayBelow

/-! ## Back to where one started -/

private theorem mem_of_mem_foldl_enter (new : name ∉ steps)
    (member : name ∈ steps.foldl enter start) :
    name ∈ start := by
  induction steps generalizing start with
  | nil => exact member
  | cons step rest ih =>
      rw [List.mem_cons, not_or] at new
      have entered := ih new.2 member
      unfold enter at entered
      split at entered
      · exact List.dropLast_subset start entered
      · rcases List.mem_append.mp entered with before | added
        · exact before
        · exact absurd (List.mem_singleton.mp added) new.1

/-- Steps that never take back the name that they start from stay below it. -/
theorem foldl_enter_of_mem (kept : ∀ begun, begun <+: steps → name ∈ begun.foldl enter [name]) :
    ∃ taken, steps.foldl enter [name] = name :: taken ∧
      taken.length + 2 * steps.count ".." = steps.length := by
  induction steps using List.reverseRecOn with
  | nil => exact ⟨[], rfl, rfl⟩
  | append_singleton before step ih =>
      obtain ⟨taken, reached, counted⟩ :=
        ih fun begun begins => kept begun (begins.trans (List.prefix_append _ _))
      have member := kept _ List.prefix_rfl
      rw [List.foldl_append, reached] at member
      have further : step = ".." → taken ≠ [] := by
        rintro rfl rfl
        exact absurd member List.not_mem_nil
      obtain ⟨now, entered, countedNow⟩ := enter_append [name] further
      refine ⟨now, ?_, ?_⟩
      · rw [List.foldl_append, reached]
        exact entered
      · rw [List.count_append, List.length_append, List.length_singleton]
        omega

/-- **Steps stay below where they start** if and only if they lead below every place. -/
theorem stayBelow_iff : StayBelow steps ↔ ∀ start, start <+: steps.foldl enter start := by
  constructor
  · intro stays start
    obtain ⟨taken, reached, _⟩ := stays.foldl_enter start
    exact reached ▸ List.prefix_append start taken
  · intro below begun begins
    -- A name that is none of the steps is lost for good once it is taken back.
    obtain ⟨name, new⟩ := Infinite.exists_notMem_finset steps.toFinset
    rw [List.mem_toFinset] at new
    have kept (first : List String) (earlier : first <+: begun) :
        name ∈ first.foldl enter [name] := by
      obtain ⟨rest, divided⟩ := earlier.trans begins
      have member : name ∈ steps.foldl enter [name] :=
        (below [name]).subset (List.mem_singleton_self name)
      rw [← divided, List.foldl_append] at member
      exact mem_of_mem_foldl_enter (fun inside => new (divided ▸ List.mem_append_right _ inside))
        member
    obtain ⟨taken, _, counted⟩ := foldl_enter_of_mem kept
    omega

/-! ## Paths that end below -/

namespace Path

variable {home : Location} {path destination : Path}

/-- A path ends below where it starts: it is relative, its steps stay below, and not all of those
forth are taken back. -/
structure EndsBelow (path : Path) : Prop where
  relative : path.anchor = .relative
  stays : StayBelow path.steps
  further : 2 * path.steps.count ".." < path.steps.length

/-- A path that leads inward ends below where it starts. -/
theorem IsInward.endsBelow (inward : path.IsInward) : path.EndsBelow where
  relative := inward.relative
  stays := .of_forth inward.forth
  further := by
    rw [List.count_eq_zero.mpr inward.forth]
    exact List.length_pos_of_ne_nil inward.stepped

/-- A step inwards ends below, whatever steps that stay below come before. -/
theorem endsBelow_concat (stays : StayBelow steps) (inwards : step ≠ "..") :
    EndsBelow ⟨.relative, steps ++ [step]⟩ where
  relative := rfl
  stays := stays.append (.of_forth fun member => inwards (List.mem_singleton.mp member).symm)
  further := by
    have whole := stays steps List.prefix_rfl
    have forth : [step].count ".." = 0 :=
      List.count_eq_zero.mpr fun member => inwards (List.mem_singleton.mp member).symm
    rw [List.count_append, forth, List.length_append, List.length_singleton]
    omega

/-- What ends below does so behind a path that stays below. -/
theorem EndsBelow.joined (ends : path.EndsBelow) (relative : destination.anchor = .relative)
    (stays : StayBelow destination.steps) : (destination.join path).EndsBelow := by
  have whole := stays destination.steps List.prefix_rfl
  have further := ends.further
  rw [join, ends.relative]
  refine ⟨relative, stays.append ends.stays, ?_⟩
  rw [List.count_append, List.length_append]
  omega

/-- A path that ends below a directory spells out a place in it. -/
theorem EndsBelow.placeFrom_join (ends : path.EndsBelow) (home : Location) (destination : Path) :
    ∃ taken, taken ≠ [] ∧
      (destination.join path).placeFrom home = destination.placeFrom home ++ taken := by
  obtain ⟨taken, reached, counted⟩ := ends.stays.foldl_enter (destination.placeFrom home)
  refine ⟨taken, ?_, ?_⟩
  · rintro rfl
    have further := ends.further
    rw [List.length_nil] at counted
    omega
  · rw [join, ends.relative, placeFrom, List.foldl_append]
    exact reached

/-- **When a path ends below every destination.** -/
theorem endsBelow_iff : path.EndsBelow ↔ ∀ home (destination : Path), ∃ taken, taken ≠ [] ∧
    (destination.join path).placeFrom home = destination.placeFrom home ++ taken := by
  refine ⟨EndsBelow.placeFrom_join, fun below => ?_⟩
  have relative : path.anchor = .relative := by
    by_contra rooted
    -- What starts at a root leads to one place, which is not below a longer one.
    have fixed (home : Location) : path.placeFrom home = path.placeFrom [] := by
      rw [placeFrom, placeFrom, if_neg rooted, if_neg rooted]
    obtain ⟨taken, _, reached⟩ := below (path.placeFrom [] ++ [""]) ⟨.relative, []⟩
    have replaced : (Path.mk .relative []).join path = path := by
      rw [join]
      split
      · next plain => exact absurd plain rooted
      · rfl
    rw [replaced, fixed] at reached
    have lengths := congrArg List.length reached
    change _ = (path.placeFrom [] ++ [""] ++ taken).length at lengths
    simp only [List.length_append, List.length_singleton] at lengths
    omega
  have led (start : Location) : ∃ taken, taken ≠ [] ∧
      path.steps.foldl enter start = start ++ taken := by
    obtain ⟨taken, further, reached⟩ := below start ⟨.relative, []⟩
    rw [join, relative] at reached
    exact ⟨taken, further, reached⟩
  have stays : StayBelow path.steps := stayBelow_iff.mpr fun start => by
    obtain ⟨taken, _, reached⟩ := led start
    exact reached ▸ List.prefix_append start taken
  refine ⟨relative, stays, ?_⟩
  obtain ⟨taken, further, reached⟩ := led []
  obtain ⟨same, again, counted⟩ := stays.foldl_enter []
  rw [reached, List.nil_append, List.nil_append] at again
  subst again
  have positive := List.length_pos_of_ne_nil further
  omega

/-! ## Paths as texts -/

/-- The steps of a text are those between its slashes. -/
theorem steps_ofString (s : String) : (ofString s).steps = stepsOf s.toList := rfl

/-- A text spells a relative path exactly if it does not start with a slash. -/
theorem relative_ofString_iff {s : String} :
    (ofString s).anchor = .relative ↔ s.toList.head? ≠ some '/' := by
  unfold ofString
  cases s.toList with
  | nil => exact iff_of_true rfl nofun
  | cons c rest =>
      by_cases slash : c = '/'
      · subst slash
        refine iff_of_false ?_ fun other => other rfl
        rw [List.takeWhile_cons, if_pos (beq_self_eq_true '/')]
        simp only [List.length_cons, Nat.succ_ne_zero, ↓reduceIte]
        split <;> exact nofun
      · refine iff_of_true ?_ fun same => slash (Option.some.inj same)
        rw [List.takeWhile_cons, if_neg (by simpa using slash)]
        rfl

private theorem stepsOf_append_slash (front rest : List Char) :
    stepsOf (front ++ '/' :: rest) = stepsOf front ++ stepsOf rest := by
  have divided : (front ++ '/' :: rest).splitOn '/' = front.splitOn '/' ++ rest.splitOn '/' :=
    List.splitOnP_append_cons front rest (beq_self_eq_true '/')
  rw [stepsOf, divided, List.filter_append, List.map_append]
  rfl

/-- A text without a slash is a single step. -/
theorem stepsOf_eq_singleton {cs : List Char} (whole : '/' ∉ cs) (written : cs ≠ [])
    (noDot : cs ≠ ['.']) : stepsOf cs = [String.ofList cs] := by
  have kept : (!(cs.isEmpty || cs == ['.'])) = true := by simp [written, noDot]
  rw [stepsOf, List.splitOn_eq_singleton whole, List.filter_singleton, kept]
  rfl

/-- A text that goes on without a slash writes the steps before its last slash and one more. -/
theorem exists_stepsOf_append (cs : List Char) {ending : List Char} (whole : '/' ∉ ending)
    {mark : Char} (marked : mark ∈ ending) (noDot : mark ≠ '.') :
    ∃ begun last, begun <+: stepsOf cs ∧ last ≠ ".." ∧
      stepsOf (cs ++ ending) = begun ++ [last] := by
  have single (last : List Char) (wholeLast : '/' ∉ last) :
      stepsOf (last ++ ending) = [String.ofList (last ++ ending)] ∧
        String.ofList (last ++ ending) ≠ ".." := by
    have member : mark ∈ last ++ ending := List.mem_append_right last marked
    refine ⟨stepsOf_eq_singleton ?_ (List.ne_nil_of_mem member) ?_, ?_⟩
    · exact fun slash => (List.mem_append.mp slash).elim wholeLast whole
    · intro dot
      rw [dot, List.mem_singleton] at member
      exact noDot member
    · intro dots
      have spelled := congrArg String.toList dots
      rw [String.toList_ofList] at spelled
      rw [spelled] at member
      exact noDot (by simpa using member)
  by_cases divided : '/' ∈ cs
  · obtain ⟨after, before, reversed, wholeAfter⟩ :=
      List.eq_append_cons_of_mem (List.mem_reverse.mpr divided)
    have spelled : cs = before.reverse ++ '/' :: after.reverse := by
      rw [← List.reverse_reverse cs, reversed]
      simp
    obtain ⟨steps, other⟩ := single after.reverse fun slash =>
      wholeAfter (List.mem_reverse.mp slash)
    refine ⟨stepsOf before.reverse, _, ?_, other, ?_⟩
    · rw [spelled, stepsOf_append_slash]
      exact List.prefix_append _ _
    · rw [spelled, List.append_assoc, List.cons_append, stepsOf_append_slash, steps]
  · obtain ⟨steps, other⟩ := single cs divided
    exact ⟨[], _, List.nil_prefix, other, steps⟩

/-- A text whose steps stay below ends below with an ending to its last step. -/
theorem endsBelow_ofString_append {s ending : String}
    (relative : (ofString s).anchor = .relative) (stays : StayBelow (ofString s).steps)
    (whole : '/' ∉ ending.toList) {mark : Char} (marked : mark ∈ ending.toList)
    (noDot : mark ≠ '.') : (ofString (s ++ ending)).EndsBelow := by
  have anchor : (ofString (s ++ ending)).anchor = .relative := by
    rw [relative_ofString_iff] at relative ⊢
    rw [String.toList_append, List.head?_append]
    cases opens : s.toList.head? with
    | none => exact fun slash => whole (List.mem_of_mem_head? slash)
    | some c => rwa [opens] at relative
  obtain ⟨begun, last, begins, inwards, steps⟩ :=
    exists_stepsOf_append s.toList whole marked noDot
  rw [← String.toList_append] at steps
  have ends := endsBelow_concat (stays.of_prefix begins) inwards
  have spelled : ofString (s ++ ending) = ⟨.relative, begun ++ [last]⟩ := by
    calc ofString (s ++ ending)
        = ⟨(ofString (s ++ ending)).anchor, (ofString (s ++ ending)).steps⟩ := rfl
      _ = ⟨.relative, begun ++ [last]⟩ := by rw [anchor, steps_ofString, steps]
  rwa [spelled]

end Path

end ElementWrap.Files
