import ElementWrap.Proofs.Naming.Folding

/-! # Plain names

A plain name is made of letters from `a` to `z`, digits and dashes, and a letter opens it. The class
name of a plain name opens with a capital, and no marks come into it but the dashes that are not
folded.
-/

namespace ElementWrap.Naming

/-- A letter from `a` to `z`, a digit or a dash. -/
def IsPlainChar (c : Char) : Prop := c.isLower = true ∨ c.isDigit = true ∨ c = '-'

instance (c : Char) : Decidable (IsPlainChar c) :=
  inferInstanceAs (Decidable (c.isLower = true ∨ c.isDigit = true ∨ c = '-'))

/-- A name of a letter from `a` to `z` and then of such letters, digits and dashes. -/
def IsPlainName (name : String) : Prop :=
  (name.toList.head?.any Char.isLower) = true ∧ ∀ c ∈ name.toList, IsPlainChar c

instance (name : String) : Decidable (IsPlainName name) :=
  @instDecidableAnd _ _ _ (List.decidableBAll IsPlainChar name.toList)

/-- A word that opens with a capital and holds neither slashes nor dots. -/
structure IsClassWord (word : String) : Prop where
  opens : (word.toList.head?.any Char.isUpper) = true
  noSlash : '/' ∉ word.toList
  noDot : '.' ∉ word.toList

/-- All but the dash lie from the digits on, and none is a capital. -/
theorem IsPlainChar.dash_or_le {c : Char} (plain : IsPlainChar c) :
    c = '-' ∨ 0x30 ≤ c.toNat ∧ c.isUpper = false := by
  rcases plain with lower | digit | dash
  · refine .inr ⟨?_, Bool.eq_false_iff.mpr (Char.not_isUpper_of_isLower lower)⟩
    have bounds : 0x61 ≤ c.toNat ∧ c.toNat ≤ 0x7A := by
      simpa [Char.isLower, UInt32.le_iff_toNat_le, ← Char.toNat_val] using lower
    omega
  · have bounds : 0x30 ≤ c.toNat ∧ c.toNat ≤ 0x39 := by
      simpa [Char.isDigit, UInt32.le_iff_toNat_le, ← Char.toNat_val] using digit
    refine .inr ⟨bounds.1, Bool.eq_false_iff.mpr fun upper => ?_⟩
    have above : 0x41 ≤ c.toNat ∧ c.toNat ≤ 0x5A := by
      simpa [Char.isUpper, UInt32.le_iff_toNat_le, ← Char.toNat_val] using upper
    omega
  · exact .inl dash

namespace IsPlainName

variable {name : String}

/-- A plain name is the name of an element. -/
theorem isElementName (plain : IsPlainName name) : IsElementName name := by
  refine ⟨plain.1, fun c member => ?_⟩
  rcases (plain.2 c member).dash_or_le with rfl | ⟨_, small⟩
  · decide
  · exact small

/-- Marks before the digits, the dash apart, do not come into a converted name. -/
theorem notMem_camel (plain : IsPlainName name) {upperFirst : Bool} {mark : Char}
    (low : mark.toNat < 0x30) (noDash : mark ≠ '-') :
    mark ∉ (camel upperFirst name).toList := by
  intro member
  rcases mem_or_le_of_mem_camel member with inside | above
  · rcases (plain.2 mark inside).dash_or_le with dash | ⟨above, _⟩
    · exact noDash dash
    · omega
  · omega

/-- A plain name in camel case is a word that can name a class. -/
theorem isClassWord_camel (plain : IsPlainName name) : IsClassWord (camel true name) where
  opens := by
    have opens := plain.1
    cases spelled : name.toList with
    | nil =>
        rw [spelled] at opens
        exact nomatch opens
    | cons c rest =>
        rw [spelled] at opens
        have lower : c.isLower = true := opens
        rw [camel, spelled, String.toList_ofList, camelChars_cons lower]
        exact isUpper_toUpper lower
  noSlash := plain.notMem_camel (by decide) (by decide)
  noDot := plain.notMem_camel (by decide) (by decide)

end IsPlainName

end ElementWrap.Naming
