import ElementWrap.Ordered
import ElementWrap.Proofs.Lists
import Mathlib.Data.List.Induction

/-! # Looking up in dictionaries that keep their order

A dictionary that results from writing pairs one after the other has each key where the key was
written first (`ElementWrap.Ordered.keys_ofList`), with the value that was written last
(`ElementWrap.Ordered.get?_ofList`).
-/

namespace ElementWrap.Ordered

section Same

variable {same : α → α → Bool} {key : α} {value : β}

/-- A new key is put behind the others. -/
theorem putBy_of_new {entries : List (α × β)} (new : ∀ entry ∈ entries, same entry.1 key = false) :
    putBy same key value entries = entries ++ [(key, value)] := by
  induction entries with
  | nil => rfl
  | cons entry rest ih =>
      obtain ⟨first, others⟩ := List.forall_mem_cons.mp new
      rw [putBy, if_neg (Bool.eq_false_iff.mp first), ih others, List.cons_append]

/-- A key after a put is the new one or was there before. -/
theorem fst_of_mem_putBy {entries : List (α × β)} {entry : α × β}
    (member : entry ∈ putBy same key value entries) :
    entry.1 = key ∨ entry.1 ∈ entries.map Prod.fst := by
  induction entries with
  | nil => exact .inl (congrArg Prod.fst (List.mem_singleton.mp member))
  | cons first rest ih =>
      unfold putBy at member
      split at member
      · rcases List.mem_cons.mp member with rfl | later
        · exact .inr List.mem_cons_self
        · exact .inr (List.mem_cons_of_mem _ (List.mem_map_of_mem later))
      · rcases List.mem_cons.mp member with rfl | later
        · exact .inr List.mem_cons_self
        · exact (ih later).imp_right (List.mem_cons_of_mem _)

/-- Writing another key leaves an entry in its place and does elsewhere what it did without it. -/
theorem exists_putBy_insert {entry : α × β} (other : same entry.1 key = false) (value : β)
    (before after : List (α × β)) :
    ∃ first last, putBy same key value (before ++ after) = first ++ last ∧
      putBy same key value (before ++ entry :: after) = first ++ entry :: last := by
  induction before with
  | nil =>
      refine ⟨[], putBy same key value after, rfl, ?_⟩
      rw [List.nil_append, putBy, if_neg (Bool.eq_false_iff.mp other), List.nil_append]
  | cons first rest ih =>
      obtain ⟨k, v⟩ := first
      rw [List.cons_append, List.cons_append, putBy, putBy]
      by_cases known : same k key = true
      · rw [if_pos known, if_pos known]
        exact ⟨(k, value) :: rest, after, rfl, rfl⟩
      · obtain ⟨first, last, without, kept⟩ := ih
        rw [if_neg known, if_neg known, without, kept]
        exact ⟨(k, v) :: first, last, rfl, rfl⟩

end Same

variable {α β : Type} [DecidableEq α] {key other : α} {value : β} {entries : List (α × β)}

/-- What is found under a key is an entry. -/
theorem mem_of_get? (found : get? key entries = some value) : (key, value) ∈ entries := by
  induction entries with
  | nil => exact absurd found (by rw [get?]; exact Option.some_ne_none value ∘ Eq.symm)
  | cons entry rest ih =>
      obtain ⟨k, v⟩ := entry
      rw [get?] at found
      split at found
      · next same =>
          cases found
          exact same ▸ List.mem_cons_self
      · exact List.mem_cons_of_mem _ (ih found)

/-- Nothing is found under a key exactly if it is not among the keys. -/
theorem get?_eq_none_iff : get? key entries = none ↔ key ∉ entries.map Prod.fst := by
  induction entries with
  | nil => exact iff_of_true rfl List.not_mem_nil
  | cons entry rest ih =>
      obtain ⟨k, v⟩ := entry
      rw [get?, List.map_cons, List.mem_cons, not_or]
      by_cases same : k = key
      · rw [if_pos same]
        exact iff_of_false (Option.some_ne_none v) fun absent => absent.1 same.symm
      · rw [if_neg same, ih]
        exact ⟨fun absent => ⟨Ne.symm same, absent⟩, And.right⟩

/-- Something is found under a key exactly if it is among the keys. -/
theorem isSome_get?_iff :
    (get? key entries).isSome = true ↔ key ∈ entries.map Prod.fst := by
  rw [← not_iff_not, Bool.not_eq_true, Option.isSome_eq_false_iff, Option.isNone_iff_eq_none]
  exact get?_eq_none_iff

/-- Other keys keep their values when one is erased. -/
theorem get?_erase_of_ne (different : other ≠ key) :
    get? other (erase key entries) = get? other entries := by
  induction entries with
  | nil => rfl
  | cons entry rest ih =>
      obtain ⟨k, v⟩ := entry
      unfold erase at ih ⊢
      by_cases same : k = key
      · rw [List.filter_cons_of_neg (by simpa using same), ih, get?,
          if_neg fun found => different (found.symm.trans same)]
      · rw [List.filter_cons_of_pos (by simpa using same), get?, get?, ih]

/-- Nothing is found under a key that was erased. -/
theorem get?_erase_self (key : α) (entries : List (α × β)) :
    get? key (erase key entries) = none := by
  rw [get?_eq_none_iff, List.mem_map]
  rintro ⟨entry, member, rfl⟩
  have kept := (List.mem_filter.mp member).2
  rw [decide_eq_true rfl] at kept
  exact Bool.false_ne_true kept

/-- What is found in the first of two lists counts, and else what is found in the second. -/
theorem get?_append (key : α) (first second : List (α × β)) :
    get? key (first ++ second) = (get? key first).or (get? key second) := by
  induction first with
  | nil => rfl
  | cons entry rest ih =>
      obtain ⟨k, v⟩ := entry
      rw [List.cons_append, get?, get?, ih]
      split
      · rfl
      · rfl

/-! ## Writing one pair after the other -/

private theorem keys_put (key : α) (value : β) (entries : List (α × β)) :
    (put key value entries).map Prod.fst =
      if key ∈ entries.map Prod.fst then entries.map Prod.fst
      else entries.map Prod.fst ++ [key] := by
  induction entries with
  | nil => rfl
  | cons entry rest ih =>
      obtain ⟨k, v⟩ := entry
      rw [put] at ih ⊢
      by_cases same : k = key
      · rw [putBy, if_pos (decide_eq_true same), List.map_cons, List.map_cons,
          if_pos (same ▸ List.mem_cons_self)]
      · have absent : key ∈ k :: rest.map Prod.fst ↔ key ∈ rest.map Prod.fst :=
          List.mem_cons.trans (or_iff_right (Ne.symm same))
        rw [putBy, if_neg (by simpa using same), List.map_cons, List.map_cons, ih]
        simp only [absent]
        split
        · rfl
        · rfl

private theorem ofList_concat (entries : List (α × β)) (entry : α × β) :
    ofList (entries ++ [entry]) = put entry.1 entry.2 (ofList entries) := by
  unfold ofList
  rw [List.foldl_concat]

/-- Each key stands where it was written first. -/
theorem keys_ofList (entries : List (α × β)) :
    (ofList entries).map Prod.fst = (entries.map Prod.fst).eraseDups := by
  induction entries using List.reverseRecOn with
  | nil => rfl
  | append_singleton entries entry ih =>
      rw [ofList_concat, keys_put, ih, List.map_append, List.map_singleton,
        List.eraseDups_append, List.removeAll]
      by_cases known : entry.1 ∈ entries.map Prod.fst
      · rw [if_pos (List.mem_eraseDups.mpr known), List.filter_cons_of_neg (by simpa using known)]
        exact (List.append_nil _).symm
      · rw [if_neg (mt List.mem_eraseDups.mp known),
          List.filter_cons_of_pos (by simpa using known)]
        rfl

/-- A key has the value that was written last. -/
theorem get?_ofList (key : α) (entries : List (α × β)) :
    get? key (ofList entries) =
      (entries.reverse.find? fun entry => entry.1 = key).map Prod.snd := by
  induction entries using List.reverseRecOn with
  | nil => rfl
  | append_singleton entries entry ih =>
      rw [ofList_concat, get?_put, List.reverse_concat]
      by_cases same : entry.1 = key
      · rw [if_pos same, List.find?_cons_of_pos (by simpa using same), Option.map_some]
      · rw [if_neg same, List.find?_cons_of_neg (by simpa using same), ih]

/-- In a dictionary without repeated keys each entry is the one that is looked up. -/
theorem get?_of_mem (distinct : (entries.map Prod.fst).Nodup) (member : (key, value) ∈ entries) :
    get? key entries = some value := by
  induction entries with
  | nil => exact absurd member List.not_mem_nil
  | cons entry rest ih =>
      obtain ⟨k, v⟩ := entry
      rw [List.map_cons, List.nodup_cons] at distinct
      rw [get?]
      rcases List.mem_cons.mp member with same | later
      · cases same
        exact if_pos rfl
      · rw [if_neg, ih distinct.2 later]
        rintro rfl
        exact distinct.1 (List.mem_map.mpr ⟨_, later, rfl⟩)

/-! ## Dictionaries without repeated keys -/

/-- Writing the pairs of such a dictionary one after the other gives the dictionary back. -/
theorem ofList_of_nodup (distinct : (entries.map Prod.fst).Nodup) : ofList entries = entries := by
  induction entries using List.reverseRecOn with
  | nil => rfl
  | append_singleton entries entry ih =>
      rw [List.map_append, List.map_singleton] at distinct
      obtain ⟨earlier, _, apart⟩ := List.nodup_append.mp distinct
      rw [ofList_concat, ih earlier, put, putBy_of_new]
      intro other member
      exact decide_eq_false (apart _ (List.mem_map_of_mem member) _ List.mem_cons_self)

/-- Such a dictionary is its keys with what is looked up under them. -/
theorem eq_filterMap_keys (distinct : (entries.map Prod.fst).Nodup) :
    entries = (entries.map Prod.fst).filterMap fun key =>
      (get? key entries).map fun value => (key, value) := by
  have found : ∀ entry ∈ entries,
      (get? entry.1 entries).map (fun value => (entry.1, value)) = some entry := by
    intro entry member
    rw [get?_of_mem distinct member, Option.map_some]
  rw [List.filterMap_map]
  calc entries = entries.filterMap some := List.filterMap_some.symm
    _ = _ := List.filterMap_congr fun entry member => (found entry member).symm

/-- What was written last counts, also over two lists of pairs. -/
theorem get?_ofList_append (key : α) (first second : List (α × β)) :
    get? key (ofList (first ++ second)) =
      (get? key (ofList second)).or (get? key (ofList first)) := by
  rw [get?_ofList, get?_ofList, get?_ofList, List.reverse_append, List.find?_append, Option.map_or]

end ElementWrap.Ordered
