import ElementWrap.Text.Utf8
import Mathlib.Data.List.TakeWhile

/-! # Texts with and without an encoding

A text has an encoding exactly if no surrogate stands alone in it
(`ElementWrap.Text.Utf8.encode?_eq_ok_iff`). The characters that stand in for such surrogates have
their code points (`ElementWrap.Text.codePoint_character`).
-/

namespace ElementWrap.Text

private theorem toNat_ofNat_of_valid {code : Nat} (valid : code.isValidChar) :
    (Char.ofNat code).toNat = code := by
  rw [Char.ofNat, dif_pos valid]
  rfl

/-- The code point of a character is the one that it was made from. -/
theorem codePoint_character {code : Nat} (below : code < firstLone) :
    codePoint (character code) = code := by
  unfold firstLone at below
  by_cases surrogate : 0xD800 ≤ code ∧ code < 0xE000
  · have valid : (firstLone + (code - 0xD800)).isValidChar := by
      unfold firstLone
      exact .inr (by omega)
    have stands : (character code).toNat = firstLone + (code - 0xD800) := by
      simp only [character, surrogate, decide_true, Bool.and_self, if_true]
      exact toNat_ofNat_of_valid valid
    simp only [codePoint, isLone, stands, Nat.le_add_right, decide_true, if_true]
    omega
  · have valid : code.isValidChar := by
      unfold Nat.isValidChar
      omega
    have same : (character code).toNat = code := by
      have ordinary : (decide (0xD800 ≤ code) && decide (code < 0xE000)) = false := by
        simpa using surrogate
      rw [character, ordinary]
      exact toNat_ofNat_of_valid valid
    have other : ¬ firstLone ≤ code := by
      unfold firstLone
      omega
    simp [codePoint, isLone, same, other]

namespace Utf8

variable {s : String} {content : List UInt8}

private theorem refused?_eq_none_iff {refuses : Char → Bool} :
    refused? refuses s = none ↔ s.toList.any refuses = false := by
  have none_left : s.toList.dropWhile (fun c => !refuses c) = [] ↔
      s.toList.any refuses = false := by
    rw [List.dropWhile_eq_nil_iff, List.any_eq_false]
    simp
  rw [← none_left]
  unfold refused?
  split
  · next left => exact iff_of_true rfl left
  · next left => exact iff_of_false nofun (by simp [left])

/-- The bytes of a text are those of its characters, if all of them have an encoding. -/
theorem encode?_eq_ok_iff :
    encode? s = .ok content ↔ isEncodable s = true ∧ encode s = content := by
  have none_iff : refused? isLone s = none ↔ isEncodable s = true := by
    rw [refused?_eq_none_iff, isEncodable, Bool.not_eq_true']
  rw [← none_iff]
  unfold encode?
  split
  · next whole => simp [whole]
  · next stretch broken => simp [broken]

/-- A text without an encoding is told of by the characters that have none. -/
theorem exists_encode?_eq_error (broken : isEncodable s = false) :
    ∃ stretch, encode? s = .error stretch := by
  cases encoded : encode? s with
  | error stretch => exact ⟨stretch, rfl⟩
  | ok content =>
      rw [(encode?_eq_ok_iff.mp encoded).1] at broken
      exact nomatch broken

/-- What has an encoding is written as that. -/
theorem encodeOrEmpty_of_encodable (whole : isEncodable s = true) : encodeOrEmpty s = encode s := by
  rw [encodeOrEmpty, encode?_eq_ok_iff.mpr ⟨whole, rfl⟩]
  rfl

/-- What has none is written as nothing. -/
theorem encodeOrEmpty_of_broken (broken : isEncodable s = false) : encodeOrEmpty s = [] := by
  obtain ⟨stretch, refused⟩ := exists_encode?_eq_error broken
  rw [encodeOrEmpty, refused]
  rfl

/-- A text has an encoding if its parts have. -/
theorem isEncodable_append (first second : String) :
    isEncodable (first ++ second) = (isEncodable first && isEncodable second) := by
  simp [isEncodable, String.toList_append]

/-- Characters without a surrogate that stands alone have an encoding. -/
theorem isEncodable_ofList (characters : List Char) :
    isEncodable (String.ofList characters) = !characters.any isLone := by
  rw [isEncodable, String.toList_ofList]

/-- Texts that are joined have an encoding exactly if all of them have one. -/
theorem isEncodable_join (texts : List String) :
    isEncodable (String.join texts) = texts.all isEncodable := by
  induction texts with
  | nil =>
      rw [String.join_nil]
      rfl
  | cons text rest ih => rw [String.join_cons, isEncodable_append, ih, List.all_cons]

/-- The parts of a name take the bytes that the whole takes. -/
theorem nameSize_append (first second : String) :
    nameSize (first ++ second) = nameSize first + nameSize second := by
  rw [nameSize, encodeName, String.toList_append, List.flatMap_append, List.length_append]
  rfl

end Utf8

end ElementWrap.Text
