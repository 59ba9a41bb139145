import ElementWrap.Proofs.Text.Case

/-! # What lower case leaves

No letter from `A` to `Z` is left in a text that was lower-cased
(`ElementWrap.Text.isUpper_of_mem_lower`), and it makes no difference whether these letters were
lower-cased before (`ElementWrap.Text.lower_map_toLower`): at a word's end a letter counts the same
in both cases. What was lower-cased stays as it is (`ElementWrap.Text.IsSettled.of_mem_lower`,
`ElementWrap.Text.lower_of_isSettled`).
-/

namespace ElementWrap.Text

/-- A character from `A` to `Z` is one of twenty-six. -/
theorem forall_isUpper {p : Char → Prop}
    (each : ∀ offset ∈ List.range 26, p (Char.ofNat (0x41 + offset))) {c : Char}
    (upper : c.isUpper = true) : p c := by
  have bounds : 0x41 ≤ c.toNat ∧ c.toNat ≤ 0x5A := by
    simp only [Char.isUpper, decide_eq_true_eq, UInt32.le_iff_toNat_le] at upper
    exact upper
  have same : Char.ofNat (0x41 + (c.toNat - 0x41)) = c := by
    rw [Nat.add_sub_cancel' bounds.1, Char.ofNat_toNat]
  have entry := each (c.toNat - 0x41) (List.mem_range.mpr (by omega))
  rwa [same] at entry

/-! ## Letters lower-cased before -/

private theorem lowerChar_toLower (c : Char) : lowerChar c.toLower = lowerChar c := by
  cases upper : c.isUpper with
  | false => rw [Char.toLower_eq_of_not_isUpper (Bool.eq_false_iff.mp upper)]
  | true =>
      refine forall_isUpper (p := fun c => lowerChar c.toLower = lowerChar c) ?_ upper
      decide +kernel

private theorem toLower_eq_sigma_iff (c : Char) : c.toLower = 'Σ' ↔ c = 'Σ' := by
  cases upper : c.isUpper with
  | false => rw [Char.toLower_eq_of_not_isUpper (Bool.eq_false_iff.mp upper)]
  | true =>
      refine forall_isUpper (p := fun c => c.toLower = 'Σ' ↔ c = 'Σ') ?_ upper
      decide

private theorem isIgnorable_toLower (c : Char) : isIgnorable c.toLower = isIgnorable c := by
  cases upper : c.isUpper with
  | false => rw [Char.toLower_eq_of_not_isUpper (Bool.eq_false_iff.mp upper)]
  | true =>
      refine forall_isUpper (p := fun c => isIgnorable c.toLower = isIgnorable c) ?_ upper
      decide +kernel

private theorem isCased_toLower (c : Char) : isCased c.toLower = isCased c := by
  cases upper : c.isUpper with
  | false => rw [Char.toLower_eq_of_not_isUpper (Bool.eq_false_iff.mp upper)]
  | true =>
      refine forall_isUpper (p := fun c => isCased c.toLower = isCased c) ?_ upper
      decide +kernel

private theorem startsCased_map_toLower (cs : List Char) :
    startsCased (cs.map Char.toLower) = startsCased cs := by
  have passed : isIgnorable ∘ Char.toLower = isIgnorable := funext isIgnorable_toLower
  unfold startsCased
  rw [List.dropWhile_map, passed]
  cases cs.dropWhile isIgnorable with
  | nil => rfl
  | cons c rest => exact isCased_toLower c

private theorem lowerFrom_map_toLower (inWord : Bool) (cs : List Char) :
    lowerFrom inWord (cs.map Char.toLower) = lowerFrom inWord cs := by
  induction cs generalizing inWord with
  | nil => rfl
  | cons c rest ih =>
      rw [List.map_cons, lowerFrom, lowerFrom]
      simp only [toLower_eq_sigma_iff, lowerChar_toLower, isIgnorable_toLower, isCased_toLower,
        startsCased_map_toLower, ih]

/-- **Letters from `A` to `Z` may be lower-cased before** the whole text is. -/
theorem lower_map_toLower (cs : List Char) : lower (cs.map Char.toLower) = lower cs :=
  lowerFrom_map_toLower false cs

/-! ## What is left -/

private theorem lowerSpans_apart : ∀ span ∈ lowerSpans,
    span.last + span.shift < 0x41 ∨ 0x5A < span.first + span.shift := by
  decide +kernel

private theorem letters_mem_lowerSpans : ⟨0x41, 0x5A, 1, 32⟩ ∈ lowerSpans := by
  decide +kernel

private theorem isUpper_eq_false_of_toNat {c : Char} (apart : c.toNat < 0x41 ∨ 0x5A < c.toNat) :
    c.isUpper = false := by
  simp only [Char.isUpper, decide_eq_false_iff_not, ge_iff_le, UInt32.le_iff_toNat_le]
  change ¬ (0x41 ≤ c.toNat ∧ c.toNat ≤ 0x5A)
  omega

private theorem isUpper_image {span : CaseSpan} (member : span ∈ lowerSpans) {code : Nat}
    (covered : span.covers code = true) : (Char.ofNat (span.image code)).isUpper = false := by
  apply isUpper_eq_false_of_toNat
  have apart := lowerSpans_apart span member
  simp only [CaseSpan.covers, Bool.and_eq_true, decide_eq_true_eq] at covered
  rw [Char.toNat_ofNat]
  split
  · simp only [CaseSpan.image, Int.ofNat_eq_natCast]
    omega
  · exact .inl (by decide)

private theorem isUpper_shiftBy_lowerSpans (c : Char) : (shiftBy lowerSpans c).isUpper = false := by
  unfold shiftBy
  split
  · next span found =>
      have covered := List.find?_some found
      exact isUpper_image (List.mem_of_find?_eq_some found) covered
  · next uncovered =>
      -- A character that no span covers is no letter from `A` to `Z`, since one covers these.
      apply isUpper_eq_false_of_toNat
      have apart := List.find?_eq_none.mp uncovered _ letters_mem_lowerSpans
      simp only [CaseSpan.covers, Bool.and_eq_true, decide_eq_true_eq, Nat.mod_one,
        beq_self_eq_true, and_true] at apart
      omega

private theorem isUpper_of_mem_lowerChar {c d : Char} (member : c ∈ lowerChar d) :
    c.isUpper = false := by
  unfold lowerChar at member
  split at member
  · rcases List.mem_pair.mp member with rfl | rfl
    · decide
    · decide
  · rw [List.mem_singleton.mp member]
    exact isUpper_shiftBy_lowerSpans d

private theorem isUpper_of_mem_lowerFrom {inWord : Bool} {c : Char} {cs : List Char}
    (member : c ∈ lowerFrom inWord cs) : c.isUpper = false := by
  induction cs generalizing inWord with
  | nil => exact absurd member List.not_mem_nil
  | cons d rest ih =>
      rw [lowerFrom] at member
      rcases List.mem_append.mp member with image | later
      · split at image
        · rw [List.mem_singleton.mp image]
          split
          · decide
          · decide
        · exact isUpper_of_mem_lowerChar image
      · exact ih later

/-- **No letter from `A` to `Z` is left** in a text that was lower-cased. -/
theorem isUpper_of_mem_lower {c : Char} {cs : List Char} (member : c ∈ lower cs) :
    c.isUpper = false := isUpper_of_mem_lowerFrom member

/-! ## What stays as it is -/

/-- The code points that the ones on a span's grid map to, as a span. -/
def CaseSpan.images (span : CaseSpan) : CaseSpan :=
  ⟨span.image span.first, span.image span.last, span.step, 0⟩

/-- Two spans have no code point in common: one lies before the other, or each has the code points
that the other one leaves out. -/
def CaseSpan.apart (span other : CaseSpan) : Bool :=
  span.last.blt other.first || other.last.blt span.first ||
    (other.step == 2 && (span.step == 2 || span.first == span.last) &&
      (span.first + other.first) % 2 == 1)

/-- The dotted capital I, which has a lower case of its own. -/
def dottedSpan : CaseSpan := ⟨0x130, 0x130, 1, 0⟩

private theorem lowerSpans_valid : ∀ span ∈ lowerSpans,
    0 ≤ span.first + span.shift ∧ (span.last + span.shift < 0xD800 ∨
      0xDFFF < span.first + span.shift ∧ span.last + span.shift < 0x110000) := by
  decide +kernel

private theorem images_lowerSpans_apart :
    (lowerSpans.all fun span => (dottedSpan :: lowerSpans).all span.images.apart) = true := by
  decide +kernel

private theorem covers_image {span other : CaseSpan} (start : 0 ≤ span.first + span.shift)
    (apart : span.images.apart other = true) {code : Nat} (covered : span.covers code = true) :
    other.covers (span.image code) = false := by
  simp only [CaseSpan.covers, Bool.and_eq_true, decide_eq_true_eq, beq_iff_eq] at covered
  obtain ⟨⟨above, below⟩, grid⟩ := covered
  have first := CaseSpan.image_eq start (Nat.le_refl _)
  have last := CaseSpan.image_eq start (Nat.le_trans above below)
  have image := CaseSpan.image_eq start above
  rw [Bool.eq_false_iff]
  intro reached
  simp only [CaseSpan.covers, Bool.and_eq_true, decide_eq_true_eq, beq_iff_eq] at reached
  obtain ⟨⟨lower, upper⟩, onGrid⟩ := reached
  simp only [CaseSpan.apart, CaseSpan.images, Bool.or_eq_true, Bool.and_eq_true, beq_iff_eq,
    Nat.blt_eq] at apart
  rcases apart with (before | behind) | ⟨⟨two, steps⟩, odd⟩
  · omega
  · omega
  · rw [two] at onGrid
    rcases steps with steps | single
    · rw [steps] at grid
      omega
    · omega

private theorem toNat_image {span : CaseSpan} (member : span ∈ lowerSpans) {code : Nat}
    (covered : span.covers code = true) :
    (Char.ofNat (span.image code)).toNat = span.image code := by
  obtain ⟨start, bounded⟩ := lowerSpans_valid span member
  simp only [CaseSpan.covers, Bool.and_eq_true, decide_eq_true_eq] at covered
  have image_eq := CaseSpan.image_eq start covered.1.1
  have valid : (span.image code).isValidChar := by
    unfold Nat.isValidChar
    omega
  rw [Char.toNat_ofNat, if_pos valid]

/-- A character that lower case leaves as it is, wherever it stands. -/
structure IsSettled (c : Char) : Prop where
  alone : lowerChar c = [c]
  other : c ≠ 'Σ'

private theorem isSettled_of_uncovered {c : Char}
    (uncovered : ∀ span ∈ dottedSpan :: lowerSpans, span.covers c.toNat = false) :
    IsSettled c where
  alone := by
    obtain ⟨plain, uncovered⟩ := List.forall_mem_cons.mp uncovered
    have none : lowerSpans.find? (·.covers c.toNat) = none :=
      List.find?_eq_none.mpr fun span member => Bool.eq_false_iff.mp (uncovered span member)
    have undotted : c ≠ 'İ' := by
      rintro rfl
      exact absurd plain (by decide)
    rw [lowerChar, if_neg undotted, shiftBy, none]
  other := by
    rintro rfl
    have covers : ∃ span ∈ dottedSpan :: lowerSpans, span.covers 'Σ'.toNat = true := by
      decide +kernel
    obtain ⟨span, member, covered⟩ := covers
    exact Bool.false_ne_true ((uncovered span member).symm.trans covered)

private theorem isSettled_shiftBy {c : Char} (undotted : c ≠ 'İ') :
    IsSettled (shiftBy lowerSpans c) := by
  apply isSettled_of_uncovered
  intro other member
  unfold shiftBy
  split
  · next span found =>
      have covered := List.find?_some found
      have known := List.mem_of_find?_eq_some found
      rw [toNat_image known covered]
      have apart := List.all_eq_true.mp (List.all_eq_true.mp images_lowerSpans_apart span known)
      exact covers_image (lowerSpans_valid span known).1 (apart other member) covered
  · next uncovered =>
      rcases List.mem_cons.mp member with rfl | known
      · rw [Bool.eq_false_iff]
        intro covered
        simp only [CaseSpan.covers, Bool.and_eq_true, decide_eq_true_eq] at covered
        have code : c.toNat = 0x130 := Nat.le_antisymm covered.1.2 covered.1.1
        apply undotted
        rw [← Char.ofNat_toNat c, code]
      · exact Bool.eq_false_iff.mpr (List.find?_eq_none.mp uncovered other known)

private theorem IsSettled.of_mem_lowerChar {c d : Char} (member : c ∈ lowerChar d) :
    IsSettled c := by
  unfold lowerChar at member
  split at member
  · rcases List.mem_pair.mp member with rfl | rfl
    · exact ⟨by decide +kernel, by decide⟩
    · exact ⟨by decide +kernel, by decide⟩
  · next undotted =>
      rw [List.mem_singleton.mp member]
      exact isSettled_shiftBy undotted

private theorem IsSettled.of_mem_lowerFrom {inWord : Bool} {c : Char} {cs : List Char}
    (member : c ∈ lowerFrom inWord cs) : IsSettled c := by
  induction cs generalizing inWord with
  | nil => exact absurd member List.not_mem_nil
  | cons d rest ih =>
      rw [lowerFrom] at member
      rcases List.mem_append.mp member with image | later
      · split at image
        · rw [List.mem_singleton.mp image]
          split
          · exact ⟨by decide +kernel, by decide⟩
          · exact ⟨by decide +kernel, by decide⟩
        · exact .of_mem_lowerChar image
      · exact ih later

/-- What a text is lower-cased to consists of characters that lower case leaves as they are. -/
theorem IsSettled.of_mem_lower {c : Char} {cs : List Char} (member : c ∈ lower cs) :
    IsSettled c := .of_mem_lowerFrom member

private theorem lowerFrom_of_isSettled {inWord : Bool} {cs : List Char}
    (settled : ∀ c ∈ cs, IsSettled c) : lowerFrom inWord cs = cs := by
  induction cs generalizing inWord with
  | nil => rfl
  | cons c rest ih =>
      obtain ⟨first, settledRest⟩ := List.forall_mem_cons.mp settled
      rw [lowerFrom, ih settledRest]
      simp only [first.other, if_false, first.alone, List.singleton_append]

/-- A text of such characters is its own lower case. -/
theorem lower_of_isSettled {cs : List Char} (settled : ∀ c ∈ cs, IsSettled c) : lower cs = cs :=
  lowerFrom_of_isSettled settled

end ElementWrap.Text
