import ElementWrap.Text.Case
import ElementWrap.Text.CodePoint
import ElementWrap.Text.CompatibilityTable

/-! # Compatibility forms

Two spellings are compatible if they have the same form: the one in which every character is taken
apart and marks of different classes stand in the order of their classes. A ligature is compatible
with its letters, a letter in a special style with the plain letter.
-/

namespace ElementWrap.Text

/-- The groups of decompositions: the first code point of each, and what it and its successors are
made of. -/
def decompositions : List (Nat × List (List Char)) :=
  decompositionGroups.map fun group =>
    match group.splitOn " " with
    | first :: images => ((hexNumber? first.toList).getD 0, images.map ofCodes)
    | [] => (0, [])

/-- What a syllable of Hangul is made of: a leading consonant, a vowel and possibly a trailing
consonant. -/
def syllableParts (index : Nat) : List Char :=
  let leading := Char.ofNat (0x1100 + index / 588)
  let vowel := Char.ofNat (0x1161 + index % 588 / 28)
  if index % 28 = 0 then [leading, vowel]
  else [leading, vowel, Char.ofNat (0x11A7 + index % 28)]

/-- What a character is made of; ASCII is made of itself. -/
def decompose (c : Char) : List Char :=
  if c.toNat < 0x80 then [c]
  else if 0xAC00 ≤ c.toNat && c.toNat < 0xD7A4 then syllableParts (c.toNat - 0xAC00)
  else
    (decompositions.findSome? fun (first, images) =>
      if first ≤ c.toNat then images[c.toNat - first]? else none).getD [c]

/-- The class of a mark; zero for a character that is none. -/
def markClass (c : Char) : Nat :=
  if c.toNat < 0x300 then 0
  else
    (markRanges.findSome? fun (first, last, order) =>
      if first ≤ c.toNat && c.toNat ≤ last then some order else none).getD 0

/-- Puts a character in front of a text: a mark goes behind the marks of lower classes. -/
def insertMark (c : Char) : List Char → List Char
  | [] => [c]
  | d :: rest =>
    if markClass d ≠ 0 ∧ markClass d < markClass c then d :: insertMark c rest else c :: d :: rest

/-- The form that all compatible spellings share. -/
def compatibleForm (cs : List Char) : List Char :=
  (cs.flatMap decompose).foldr insertMark []

/-- A text of ASCII characters is its own form. -/
theorem compatibleForm_of_ascii {cs : List Char} (ascii : ∀ c ∈ cs, c.toNat < 0x80) :
    compatibleForm cs = cs := by
  induction cs with
  | nil => rfl
  | cons c rest ih =>
    have plain : c.toNat < 0x80 := ascii c List.mem_cons_self
    have tail : (rest.flatMap decompose).foldr insertMark [] = rest :=
      ih fun d member => ascii d (List.mem_cons_of_mem c member)
    have unmarked : markClass c = 0 := by
      have : c.toNat < 0x300 := by omega
      simp [markClass, this]
    have front : insertMark c rest = c :: rest := by
      cases rest with
      | nil => rfl
      | cons d rest => simp [insertMark, unmarked]
    simp [compatibleForm, decompose, plain, tail, front]

end ElementWrap.Text
