import ElementWrap.Text.Case
import Mathlib

/-! # What upper case can bring in

The upper case of a character is the character itself or consists of characters from `A` on, so that
line feeds, blanks, dashes and the marks of paths come from nowhere but themselves.
-/

namespace ElementWrap.Text

private theorem upperExpansions_le :
    ∀ entry ∈ upperExpansions, ∀ code ∈ entry.2, 0x41 ≤ (Char.ofNat code).toNat := by
  decide +kernel

private theorem upperSpans_valid : ∀ span ∈ upperSpans,
    0x41 ≤ span.first + span.shift ∧ (span.last + span.shift < 0xD800 ∨
      0xDFFF < span.first + span.shift ∧ span.last + span.shift < 0x110000) := by
  decide +kernel

/-- The image of a code point in a span is as far away as the shift says. -/
theorem CaseSpan.image_eq {span : CaseSpan} (start : 0 ≤ span.first + span.shift) {code : Nat}
    (reached : span.first ≤ code) : (span.image code : Int) = code + span.shift := by
  simp only [CaseSpan.image, Int.ofNat_eq_natCast]
  omega

private theorem le_image {span : CaseSpan} (member : span ∈ upperSpans) {code : Nat}
    (covered : span.covers code = true) : 0x41 ≤ (Char.ofNat (span.image code)).toNat := by
  obtain ⟨lower, bounded⟩ := upperSpans_valid span member
  simp only [CaseSpan.covers, Bool.and_eq_true, decide_eq_true_eq] at covered
  have image_eq := CaseSpan.image_eq (by omega) covered.1.1
  have valid : (span.image code).isValidChar := by
    unfold Nat.isValidChar
    omega
  rw [Char.toNat_ofNat, if_pos valid]
  omega

/-- The upper case of a character is the character or lies from `A` on. -/
theorem eq_or_le_of_mem_upperChar {c d : Char} (member : d ∈ upperChar c) :
    d = c ∨ 0x41 ≤ d.toNat := by
  unfold upperChar at member
  split at member
  · next codes found =>
      obtain ⟨code, present, rfl⟩ := List.mem_map.mp member
      obtain ⟨before, after, split, _⟩ := List.lookup_eq_some_iff.mp found
      have entry : (c.toNat, codes) ∈ upperExpansions := by
        rw [split]
        exact List.mem_append_right before List.mem_cons_self
      exact .inr (upperExpansions_le _ entry code present)
  · rw [List.mem_singleton] at member
    unfold shiftBy at member
    split at member
    · next span found =>
        have covered := List.find?_some found
        rw [member]
        exact .inr (le_image (List.mem_of_find?_eq_some found) covered)
    · exact .inl member

end ElementWrap.Text
