import ElementWrap.Naming.Words
import ElementWrap.Proofs.Text.Case

/-! # What folding dashes keeps

Folding a word in which no letter is in upper case loses nothing: marking the capitals of the result
and lower-casing it gives the word back. A class name keeps even the word's first letter, if that
is one from `a` to `z`, so different element names have different class names
(`ElementWrap.Naming.camel_injective`).
-/

namespace ElementWrap.Naming

/-- A word in which no letter from `A` to `Z` occurs. -/
def Uncapitalized (cs : List Char) : Prop := ∀ c ∈ cs, c.isUpper = false

instance (cs : List Char) : Decidable (Uncapitalized cs) :=
  List.decidableBAll (fun c : Char => c.isUpper = false) cs

/-- A name that opens with a letter from `a` to `z` and holds none from `A` to `Z`, as every name of
an element does. -/
def IsElementName (name : String) : Prop :=
  (name.toList.head?.any Char.isLower) = true ∧ Uncapitalized name.toList

instance (name : String) : Decidable (IsElementName name) :=
  inferInstanceAs (Decidable ((name.toList.head?.any Char.isLower) = true ∧
    Uncapitalized name.toList))

/-! ## Characters -/

/-- A small letter has a capital one. -/
theorem isUpper_toUpper {c : Char} (lower : c.isLower = true) : c.toUpper.isUpper = true := by
  rw [Char.isUpper_toUpper_eq_isAlpha, Char.isAlpha, lower, Bool.or_true]

private theorem le_toNat_of_isUpper {c : Char} (upper : c.isUpper = true) : 0x41 ≤ c.toNat := by
  simp only [Char.isUpper, decide_eq_true_eq, UInt32.le_iff_toNat_le] at upper
  exact upper.1

private theorem toLower_toUpper {c : Char} (lower : c.isLower = true) : c.toUpper.toLower = c := by
  rw [Char.toLower_toUpper_eq_toLower]
  exact Char.toLower_eq_of_not_isUpper (Char.not_isUpper_of_isLower lower)

/-- A folded word holds characters of the word and letters from `A` to `Z`. -/
theorem mem_or_isUpper_of_mem_foldDashes {c : Char} {cs : List Char}
    (member : c ∈ foldDashes cs) : c ∈ cs ∨ c.isUpper = true := by
  fun_induction foldDashes cs with
  | case1 => exact .inl member
  | case2 => exact .inl member
  | case3 d rest lower ih =>
      rcases List.mem_cons.mp member with rfl | member
      · exact .inr (isUpper_toUpper lower)
      · exact (ih member).imp_left fun inside =>
          List.mem_cons_of_mem _ (List.mem_cons_of_mem d inside)
  | case4 d rest _ ih =>
      rcases List.mem_cons.mp member with rfl | member
      · exact .inl List.mem_cons_self
      · exact (ih member).imp_left (List.mem_cons_of_mem _)
  | case5 d rest _ _ ih =>
      rcases List.mem_cons.mp member with rfl | member
      · exact .inl List.mem_cons_self
      · exact (ih member).imp_left (List.mem_cons_of_mem d)

private theorem mem_or_le_of_mem_foldDashes {c : Char} {cs : List Char}
    (member : c ∈ foldDashes cs) :
    c ∈ cs ∨ 0x41 ≤ c.toNat :=
  (mem_or_isUpper_of_mem_foldDashes member).imp_right le_toNat_of_isUpper

/-- A converted name holds characters of the name and characters from `A` on. -/
theorem mem_or_le_of_mem_camel {c : Char} {upperFirst : Bool} {name : String}
    (member : c ∈ (camel upperFirst name).toList) : c ∈ name.toList ∨ 0x41 ≤ c.toNat := by
  rw [camel, String.toList_ofList] at member
  unfold camelChars at member
  cases upperFirst with
  | false => exact mem_or_le_of_mem_foldDashes member
  | true =>
      cases folded : foldDashes name.toList with
      | nil =>
          simp only [folded, ↓reduceIte, Text.upperFirst] at member
          exact absurd member List.not_mem_nil
      | cons d rest =>
          simp only [folded, ↓reduceIte, Text.upperFirst, List.mem_append] at member
          have inside (kept : c ∈ d :: rest) : c ∈ name.toList ∨ 0x41 ≤ c.toNat :=
            mem_or_le_of_mem_foldDashes (folded ▸ kept)
          rcases member with grown | kept
          · rcases Text.eq_or_le_of_mem_upperChar grown with rfl | above
            · exact inside List.mem_cons_self
            · exact .inr above
          · exact inside (List.mem_cons_of_mem d kept)

/-! ## Unfolding -/

/-- Marking the capitals of a folded word and lower-casing it gives the word back. -/
theorem map_toLower_markCapitals_foldDashes {cs : List Char} (small : Uncapitalized cs) :
    (markCapitals (foldDashes cs)).map Char.toLower = cs := by
  fun_induction foldDashes cs with
  | case1 => rfl
  | case2 => rfl
  | case3 c rest lower ih =>
      have upper : c.toUpper.isUpper = true := isUpper_toUpper lower
      have tail := ih fun d member =>
        small d (List.mem_cons_of_mem _ (List.mem_cons_of_mem c member))
      simp only [markCapitals, List.flatMap_cons, upper, ↓reduceIte, List.map_append, List.map_cons,
        List.map_nil, toLower_toUpper lower] at tail ⊢
      rw [tail]
      rfl
  | case4 c rest _ ih =>
      have tail := ih fun d member => small d (List.mem_cons_of_mem _ member)
      have kept : ('-' : Char).isUpper = false := by decide
      simp only [markCapitals, List.flatMap_cons, kept, Bool.false_eq_true, ↓reduceIte,
        List.map_append, List.map_cons, List.map_nil] at tail ⊢
      rw [tail]
      rfl
  | case5 c rest _ _ ih =>
      have tail := ih fun d member => small d (List.mem_cons_of_mem c member)
      have kept : c.isUpper = false := small c List.mem_cons_self
      simp only [markCapitals, List.flatMap_cons, kept, Bool.false_eq_true, ↓reduceIte,
        List.map_append, List.map_cons, List.map_nil,
        Char.toLower_eq_of_not_isUpper (Bool.eq_false_iff.mp kept)] at tail ⊢
      rw [tail]
      rfl

/-- Names without capitals are told apart once they are folded. -/
theorem foldDashes_injective {first second : List Char} (firstSmall : Uncapitalized first)
    (secondSmall : Uncapitalized second) (same : foldDashes first = foldDashes second) :
    first = second := by
  rw [← map_toLower_markCapitals_foldDashes firstSmall, same,
    map_toLower_markCapitals_foldDashes secondSmall]

/-! ## Class names -/

private theorem upperChar_eq_of_isLower {c : Char} (lower : c.isLower = true) :
    Text.upperChar c = [c.toUpper] := by
  have table : ∀ offset ∈ List.range 26, Text.upperChar (Char.ofNat (0x61 + offset)) =
      [(Char.ofNat (0x61 + offset)).toUpper] := by
    decide
  have bounds : 0x61 ≤ c.toNat ∧ c.toNat ≤ 0x7A := by
    simp only [Char.isLower, Bool.and_eq_true, decide_eq_true_eq, UInt32.le_iff_toNat_le] at lower
    exact lower
  have same : Char.ofNat (0x61 + (c.toNat - 0x61)) = c := by
    rw [Nat.add_sub_cancel' bounds.1, Char.ofNat_toNat]
  have entry := table (c.toNat - 0x61) (List.mem_range.mpr (by omega))
  rwa [same] at entry

/-- A name that opens with a letter keeps that letter, in upper case, and is folded behind it. -/
theorem camelChars_cons {c : Char} (lower : c.isLower = true) (rest : List Char) :
    camelChars true (c :: rest) = c.toUpper :: foldDashes rest := by
  have notDash : c ≠ '-' := by
    rintro rfl
    exact absurd lower (by decide)
  have folded : foldDashes (c :: rest) = c :: foldDashes rest := by
    rw [foldDashes]
    · exact fun dash _ => notDash dash
    · exact fun _ _ dash _ => notDash dash
  simp only [camelChars, ↓reduceIte, folded, Text.upperFirst, upperChar_eq_of_isLower lower,
    List.singleton_append]

private theorem camelChars_injective {first second : List Char}
    (firstOpens : (first.head?.any Char.isLower) = true) (firstSmall : Uncapitalized first)
    (secondOpens : (second.head?.any Char.isLower) = true) (secondSmall : Uncapitalized second)
    (same : camelChars true first = camelChars true second) : first = second := by
  cases first with
  | nil => exact absurd firstOpens (by decide)
  | cons c rest =>
      cases second with
      | nil => exact absurd secondOpens (by decide)
      | cons d tail =>
          have lowerFirst : c.isLower = true := firstOpens
          have lowerSecond : d.isLower = true := secondOpens
          rw [camelChars_cons lowerFirst, camelChars_cons lowerSecond, List.cons.injEq] at same
          have heads : c = d := by
            rw [← toLower_toUpper lowerFirst, same.1, toLower_toUpper lowerSecond]
          have tails : rest = tail :=
            foldDashes_injective (fun e member => firstSmall e (List.mem_cons_of_mem c member))
              (fun e member => secondSmall e (List.mem_cons_of_mem d member)) same.2
          rw [heads, tails]

/-- **Class names tell element names apart.** -/
theorem camel_injective {first second : String} (firstElement : IsElementName first)
    (secondElement : IsElementName second) (same : camel true first = camel true second) :
    first = second := by
  have chars : camelChars true first.toList = camelChars true second.toList := by
    rw [camel, camel] at same
    exact String.ofList_injective same
  exact String.toList_inj.mp (camelChars_injective firstElement.1 firstElement.2 secondElement.1
    secondElement.2 chars)

end ElementWrap.Naming
