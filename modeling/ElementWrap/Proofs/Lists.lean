import Mathlib.Data.List.Forall2
import Mathlib.Data.List.Nodup

/-! # Lists without repeats, divided lists, and lists of results -/

namespace ElementWrap

/-- Without its repeats a list has none. -/
theorem nodup_eraseDups [DecidableEq α] (items : List α) : items.eraseDups.Nodup := by
  match items with
  | [] => exact List.nodup_nil
  | item :: rest =>
      have shorter : (rest.filter fun other => !other == item).length < rest.length + 1 :=
        Nat.lt_succ_of_le (List.length_filter_le _ rest)
      rw [List.eraseDups_cons, List.nodup_cons]
      refine ⟨?_, nodup_eraseDups _⟩
      rw [List.mem_eraseDups, List.mem_filter]
      rintro ⟨_, different⟩
      rw [beq_self_eq_true] at different
      exact Bool.false_ne_true different
termination_by items.length

/-- A list without repeats stays as it is. -/
theorem eraseDups_of_nodup [DecidableEq α] {items : List α} (distinct : items.Nodup) :
    items.eraseDups = items := by
  induction items with
  | nil => rfl
  | cons item rest ih =>
      obtain ⟨new, distinctRest⟩ := List.nodup_cons.mp distinct
      have kept : rest.filter (fun other => !other == item) = rest := by
        refine List.filter_eq_self.mpr fun other member => ?_
        simpa using fun same : other = item => new (same ▸ member)
      rw [List.eraseDups_cons, kept, ih distinctRest]

/-- Entries are numbered in their order. -/
theorem pairwise_zipIdx (items : List α) (first : Nat) :
    (items.zipIdx first).Pairwise fun a b => a.2 < b.2 := by
  rw [← List.pairwise_map (f := Prod.snd) (R := (· < ·)), List.zipIdx_map_snd]
  exact List.pairwise_lt_range'

/-- Among distinct items more than one passes exactly if two different ones do. -/
theorem one_lt_countP_iff {items : List α} {passes : α → Bool} (distinct : items.Nodup) :
    1 < items.countP passes ↔
      ∃ a ∈ items, ∃ b ∈ items, a ≠ b ∧ passes a = true ∧ passes b = true := by
  rw [List.countP_eq_length_filter]
  have kept : (items.filter passes).Nodup := distinct.filter passes
  constructor
  · intro several
    match found : items.filter passes with
    | [] => simp [found] at several
    | [_] => simp [found] at several
    | a :: b :: rest =>
        have first : a ∈ items.filter passes := found ▸ List.mem_cons_self
        have second : b ∈ items.filter passes :=
          found ▸ List.mem_cons_of_mem a List.mem_cons_self
        rw [found, List.nodup_cons] at kept
        rw [List.mem_filter] at first second
        refine ⟨a, first.1, b, second.1, ?_, first.2, second.2⟩
        rintro rfl
        exact kept.1 List.mem_cons_self
  · rintro ⟨a, first, b, second, different, passesA, passesB⟩
    have memberA : a ∈ items.filter passes := List.mem_filter.mpr ⟨first, passesA⟩
    have memberB : b ∈ items.filter passes := List.mem_filter.mpr ⟨second, passesB⟩
    by_contra few
    match found : items.filter passes with
    | [] => exact absurd (found ▸ memberA) List.not_mem_nil
    | [_] =>
        rw [found, List.mem_singleton] at memberA memberB
        exact different (memberA.trans memberB.symm)
    | _ :: _ :: _ => simp [found] at few

/-- The items whose key is new, neither among those that were seen nor that of an item before. -/
def newcomers [DecidableEq β] (key : α → β) : (seen : List β) → List α → List α
  | _, [] => []
  | seen, item :: rest =>
    if key item ∈ seen then newcomers key seen rest
    else item :: newcomers key (key item :: seen) rest

section Newcomers

variable [DecidableEq β] {key : α → β}

/-- The keys of the newcomers are the unseen keys without repeats. -/
theorem map_newcomers (seen : List β) (items : List α) :
    (newcomers key seen items).map key =
      ((items.map key).filter fun b => decide (b ∉ seen)).eraseDups := by
  induction items generalizing seen with
  | nil => rfl
  | cons item rest ih =>
      unfold newcomers
      split
      · next known =>
          rw [ih, List.map_cons, List.filter_cons_of_neg (by simpa using known)]
      · next new =>
          rw [List.map_cons, ih, List.map_cons, List.filter_cons_of_pos (by simpa using new),
            List.eraseDups_cons, List.filter_filter]
          refine congrArg (fun keys => key item :: List.eraseDups keys) ?_
          refine List.filter_congr fun b _ => ?_
          simp only [List.mem_cons, not_or, Bool.decide_and, decide_not]
          rfl

/-- A newcomer was not seen, and it is the first item of its key. -/
theorem find?_of_mem_newcomers {seen : List β} {items : List α} {found : α}
    (member : found ∈ newcomers key seen items) :
    key found ∉ seen ∧ items.find? (fun item => key item == key found) = some found := by
  induction items generalizing seen with
  | nil => exact absurd member List.not_mem_nil
  | cons item rest ih =>
      unfold newcomers at member
      split at member
      · next known =>
          obtain ⟨new, first⟩ := ih member
          have other : key item ≠ key found := fun same => new (same ▸ known)
          exact ⟨new, by rw [List.find?_cons_of_neg (by simpa using other), first]⟩
      · next unseen =>
          rcases List.mem_cons.mp member with rfl | later
          · exact ⟨unseen, List.find?_cons_of_pos (beq_self_eq_true _)⟩
          · obtain ⟨new, first⟩ := ih later
            rw [List.mem_cons, not_or] at new
            have other : key item ≠ key found := fun same => new.1 same.symm
            exact ⟨new.2, by rw [List.find?_cons_of_neg (by simpa using other), first]⟩

/-- Keys that tell the same items apart have the same newcomers. -/
theorem newcomers_congr [DecidableEq γ] {other : α → γ} {items : List α} {seen : List β}
    {others : List γ} (known : ∀ item ∈ items, (key item ∈ seen ↔ other item ∈ others))
    (alike : ∀ a ∈ items, ∀ b ∈ items, (key a = key b ↔ other a = other b)) :
    newcomers key seen items = newcomers other others items := by
  induction items generalizing seen others with
  | nil => rfl
  | cons item rest ih =>
      have alikeRest : ∀ a ∈ rest, ∀ b ∈ rest, (key a = key b ↔ other a = other b) :=
        fun a first b second =>
          alike a (List.mem_cons_of_mem item first) b (List.mem_cons_of_mem item second)
      have knownRest : ∀ a ∈ rest, (key a ∈ seen ↔ other a ∈ others) :=
        fun a member => known a (List.mem_cons_of_mem item member)
      have head := known item List.mem_cons_self
      simp only [newcomers, head]
      split
      · exact ih knownRest alikeRest
      · refine congrArg (item :: ·) (ih (fun a member => ?_) alikeRest)
        rw [List.mem_cons, List.mem_cons, knownRest a member,
          alike a (List.mem_cons_of_mem item member) item List.mem_cons_self]

end Newcomers

/-- The pieces of a divided list lie in the list and are free of the separator. -/
theorem of_mem_splitOn [BEq α] [LawfulBEq α] {separator : α} {items piece : List α}
    (member : piece ∈ items.splitOn separator) : separator ∉ piece ∧ piece ⊆ items := by
  induction items generalizing piece with
  | nil =>
      rw [List.splitOn_nil, List.mem_singleton] at member
      subst member
      exact ⟨List.not_mem_nil, List.Subset.refl _⟩
  | cons item rest ih =>
      rw [List.splitOn_cons_eq_if_modifyHead] at member
      split at member
      · next ends =>
          rcases List.mem_cons.mp member with rfl | later
          · exact ⟨List.not_mem_nil, List.nil_subset _⟩
          · exact ⟨(ih later).1, List.subset_cons_of_subset item (ih later).2⟩
      · next inside =>
          -- The item stands in front of the first piece of the rest.
          obtain ⟨first, others, divided⟩ :=
            List.exists_cons_of_ne_nil (List.splitOn_ne_nil separator rest)
          rw [divided] at ih member
          rcases List.mem_cons.mp member with rfl | later
          · obtain ⟨free, lies⟩ := ih List.mem_cons_self
            refine ⟨fun opens => ?_, List.cons_subset_cons item lies⟩
            rcases List.mem_cons.mp opens with same | behind
            · exact inside (beq_iff_eq.mpr same.symm)
            · exact free behind
          · obtain ⟨free, lies⟩ := ih (List.mem_cons_of_mem first later)
            exact ⟨free, List.subset_cons_of_subset item lies⟩

/-- A function that tells the items of two lists apart tells the lists apart. -/
theorem eq_of_map_eq {f : α → β} {first second : List α}
    (told : ∀ a ∈ first, ∀ b ∈ second, f a = f b → a = b) (same : first.map f = second.map f) :
    first = second := by
  induction first generalizing second with
  | nil => exact (List.map_eq_nil_iff.mp same.symm).symm
  | cons item rest ih =>
      cases second with
      | nil => exact List.map_eq_nil_iff.mp same
      | cons other others =>
          obtain ⟨head, tail⟩ := List.cons.inj same
          rw [told item List.mem_cons_self other List.mem_cons_self head,
            ih (fun a inRest b inOthers => told a (List.mem_cons_of_mem item inRest) b
              (List.mem_cons_of_mem other inOthers)) tail]

/-- Steps that all succeed give their results in order. -/
theorem mapM_ok_of_forall {items : List α} {step : α → Except ε β} {result : α → β}
    (each : ∀ item ∈ items, step item = .ok (result item)) :
    items.mapM step = .ok (items.map result) := by
  induction items with
  | nil => rfl
  | cons item rest ih =>
      rw [List.mapM_cons, each item List.mem_cons_self,
        ih fun other member => each other (List.mem_cons_of_mem item member)]
      rfl

/-- A filter whose test never fails is the filter by what the test says. -/
theorem filterM_ok_of_forall {items : List α} {test : α → Except ε Bool} {passes : α → Bool}
    (each : ∀ item ∈ items, test item = .ok (passes item)) :
    items.filterM test = .ok (items.filter passes) := by
  have kept (taken : List α) :
      items.filterAuxM test taken = .ok ((items.filter passes).reverse ++ taken) := by
    induction items generalizing taken with
    | nil => rfl
    | cons item rest ih =>
        rw [List.filterAuxM, each item List.mem_cons_self]
        change List.filterAuxM test rest _ = _
        rw [ih fun other member => each other (List.mem_cons_of_mem item member)]
        cases holds : passes item with
        | false => rw [List.filter_cons_of_neg (by simp [holds]), cond_false]
        | true =>
            rw [List.filter_cons_of_pos holds, List.reverse_cons, List.append_assoc, cond_true,
              List.singleton_append]
  unfold List.filterM
  rw [kept, List.append_nil]
  exact congrArg Except.ok (List.reverse_reverse _)

/-- Items are taken one after the other with results exactly if each has its result. -/
theorem mapM_eq_ok_iff {items : List α} {step : α → Except ε β} {results : List β} :
    items.mapM step = .ok results ↔
      List.Forall₂ (fun item result => step item = .ok result) items results := by
  induction items generalizing results with
  | nil =>
      constructor
      · intro same
        cases same
        exact .nil
      · intro each
        cases each
        rfl
  | cons item rest ih =>
      rw [List.mapM_cons]
      constructor
      · intro taken
        cases came : step item with
        | error fault =>
            rw [came] at taken
            exact nomatch taken
        | ok result =>
            rw [came] at taken
            cases later : rest.mapM step with
            | error fault =>
                rw [later] at taken
                exact nomatch taken
            | ok others =>
                rw [later] at taken
                cases taken
                exact .cons came (ih.mp later)
      · intro each
        cases each with
        | cons first others =>
            rw [first, ih.mpr others]
            rfl

/-- The results of two lists taken one after the other are those of each. -/
theorem mapM_append_eq_ok_iff {first rest : List α} {step : α → Except ε β} {results : List β} :
    (first ++ rest).mapM step = .ok results ↔
      ∃ before after, results = before ++ after ∧ first.mapM step = .ok before ∧
        rest.mapM step = .ok after := by
  constructor
  · intro taken
    have each := (mapM_eq_ok_iff.mp taken).flip
    refine ⟨_, _, (List.take_append_drop first.length results).symm, ?_, ?_⟩
    · exact mapM_eq_ok_iff.mpr (List.forall₂_take_append _ _ _ each).flip
    · exact mapM_eq_ok_iff.mpr (List.forall₂_drop_append _ _ _ each).flip
  · rintro ⟨before, after, rfl, taken, later⟩
    have each := List.rel_append (mapM_eq_ok_iff.mp taken) (mapM_eq_ok_iff.mp later)
    exact mapM_eq_ok_iff.mpr each

/-- Items that are paired with others have partners. -/
theorem exists_mem_of_forall₂ {R : α → β → Prop} {items : List α} {others : List β}
    (each : List.Forall₂ R items others) {item : α} (member : item ∈ items) :
    ∃ other ∈ others, R item other := by
  induction each with
  | nil => exact absurd member List.not_mem_nil
  | cons pair _ ih =>
      rcases List.mem_cons.mp member with rfl | later
      · exact ⟨_, List.mem_cons_self, pair⟩
      · obtain ⟨other, present, paired⟩ := ih later
        exact ⟨other, List.mem_cons_of_mem _ present, paired⟩

/-- Each entry on the left of related lists is one of its list. -/
theorem forall₂_mem_left {R : α → β → Prop} {items : List α} {others : List β}
    (each : List.Forall₂ R items others) :
    List.Forall₂ (fun item other => item ∈ items ∧ R item other) items others :=
  (List.forall₂_and_left (p := (· ∈ items)) _ _).mpr ⟨fun _ member => member, each⟩

/-- Steps that can all succeed have results. -/
theorem exists_mapM_ok {items : List α} {step : α → Except ε β}
    (each : ∀ item ∈ items, ∃ result, step item = .ok result) :
    ∃ results, items.mapM step = .ok results := by
  induction items with
  | nil => exact ⟨[], rfl⟩
  | cons item rest ih =>
      obtain ⟨result, first⟩ := each item List.mem_cons_self
      obtain ⟨results, later⟩ := ih fun other member =>
        each other (List.mem_cons_of_mem item member)
      exact ⟨result :: results, by rw [List.mapM_cons, first, later]; rfl⟩

/-- Where one item after the other is taken, the first failing one is the failure. -/
theorem mapM_error_iff {items : List α} {step : α → Except ε β} {fault : ε} :
    items.mapM step = .error fault ↔
      ∃ before item after, items = before ++ item :: after ∧
        (∀ earlier ∈ before, ∃ result, step earlier = .ok result) ∧ step item = .error fault := by
  induction items with
  | nil =>
      refine iff_of_false (fun same => nomatch same) ?_
      rintro ⟨before, item, after, divided, _⟩
      exact List.append_ne_nil_of_right_ne_nil before (List.cons_ne_nil item after) divided.symm
  | cons first rest ih =>
      rw [List.mapM_cons]
      cases came : step first with
      | error other =>
          constructor
          · intro same
            cases same
            exact ⟨[], first, rest, rfl, fun _ member => absurd member List.not_mem_nil, came⟩
          · rintro ⟨before, item, after, divided, passed, failed⟩
            cases before with
            | nil =>
                cases divided
                cases came.symm.trans failed
                rfl
            | cons earlier before =>
                cases divided
                obtain ⟨result, ok⟩ := passed first List.mem_cons_self
                exact nomatch came.symm.trans ok
      | ok result =>
          have later : (do
              let first ← Except.ok result
              let rest ← rest.mapM step
              Pure.pure (first :: rest)) = Except.error fault ↔ rest.mapM step = .error fault := by
            cases rest.mapM step with
            | error other => exact Iff.rfl
            | ok results => exact iff_of_false (fun same => nomatch same) fun same => nomatch same
          rw [later, ih]
          constructor
          · rintro ⟨before, item, after, rfl, passed, failed⟩
            refine ⟨first :: before, item, after, rfl, ?_, failed⟩
            exact List.forall_mem_cons.mpr ⟨⟨result, came⟩, passed⟩
          · rintro ⟨before, item, after, divided, passed, failed⟩
            cases before with
            | nil =>
                cases divided
                exact nomatch came.symm.trans failed
            | cons earlier before =>
                cases divided
                exact ⟨before, item, after, rfl, (List.forall_mem_cons.mp passed).2, failed⟩

end ElementWrap
