import ElementWrap.Proofs.Naming.PlainNames
import ElementWrap.Proofs.Naming.Recall

/-! # Which generated names are identifiers

A class, the method that handles an event and the property that takes its callback are named after
the element and the event. The dashes of a name that no letter from `a` to `z` follows stay in the
generated names, and every other dash is folded. So the generated names are plain identifiers
exactly if no such dash is there (`ElementWrap.Naming.isIdentifier_generated_iff`).
-/

namespace ElementWrap.Naming

/-- A letter from `a` to `z` or from `A` to `Z`, a digit or an underscore. -/
def IsWordChar (c : Char) : Prop := c.isAlphanum = true ∨ c = '_'

/-- A word of such characters that no digit opens. -/
structure IsIdentifier (word : String) : Prop where
  opens : (word.toList.head?.any fun c => c.isAlpha || c == '_') = true
  word : ∀ c ∈ word.toList, IsWordChar c

instance (c : Char) : Decidable (IsWordChar c) :=
  inferInstanceAs (Decidable (c.isAlphanum = true ∨ c = '_'))

instance (word : String) : Decidable (IsIdentifier word) :=
  have : Decidable (∀ c ∈ word.toList, IsWordChar c) := List.decidableBAll IsWordChar word.toList
  decidable_of_iff ((word.toList.head?.any fun c => c.isAlpha || c == '_') = true ∧
    ∀ c ∈ word.toList, IsWordChar c) ⟨fun ⟨opens, word⟩ => ⟨opens, word⟩,
      fun ⟨opens, word⟩ => ⟨opens, word⟩⟩

/-- A letter from `a` to `z` follows right after every dash. -/
def EveryDashFolds (cs : List Char) : Prop :=
  ∀ before after, cs = before ++ '-' :: after → (after.head?.any Char.isLower) = true

/-- The number of dashes that no letter from `a` to `z` follows right after. -/
def looseDashes : List Char → Nat
  | [] => 0
  | c :: rest => (if c = '-' ∧ (rest.head?.any Char.isLower) = false then 1 else 0) +
      looseDashes rest

/-! ## Loose dashes -/

private theorem looseDashes_cons_of_ne {c : Char} (solid : c ≠ '-') (rest : List Char) :
    looseDashes (c :: rest) = looseDashes rest := by
  rw [looseDashes, if_neg fun loose => solid loose.1, Nat.zero_add]

/-- Folding leaves exactly the loose dashes. -/
theorem count_foldDashes (cs : List Char) : (foldDashes cs).count '-' = looseDashes cs := by
  fun_induction foldDashes cs with
  | case1 => rfl
  | case2 => rfl
  | case3 c rest lower ih =>
      have solid : c ≠ '-' := by
        rintro rfl
        exact absurd lower (by decide)
      have folded : c.toUpper ≠ '-' := by
        intro dash
        exact absurd (dash ▸ isUpper_toUpper lower) (by decide)
      rw [List.count_cons_of_ne folded, ih, looseDashes, looseDashes_cons_of_ne solid]
      simp [lower]
  | case4 c rest notLower ih =>
      conv_rhs => rw [looseDashes]
      rw [List.count_cons_self, ih]
      simp [notLower, Nat.add_comm]
  | case5 c rest alone followed ih =>
      have solid : c ≠ '-' := by
        rintro rfl
        cases rest with
        | nil => exact alone rfl rfl
        | cons d rest => exact followed d rest rfl rfl
      rw [List.count_cons_of_ne solid, ih, looseDashes_cons_of_ne solid]

private theorem everyDashFolds_cons_iff {c : Char} {rest : List Char} :
    EveryDashFolds (c :: rest) ↔
      (c = '-' → (rest.head?.any Char.isLower) = true) ∧ EveryDashFolds rest := by
  constructor
  · intro folds
    refine ⟨?_, fun before after divided => folds (c :: before) after (by rw [divided]; rfl)⟩
    rintro rfl
    exact folds [] rest rfl
  · rintro ⟨head, tail⟩ before after divided
    cases before with
    | nil =>
        cases divided
        exact head rfl
    | cons d before =>
        cases divided
        exact tail before after rfl

private theorem looseDashes_eq_zero_iff {cs : List Char} :
    looseDashes cs = 0 ↔ EveryDashFolds cs := by
  induction cs with
  | nil =>
      refine iff_of_true rfl fun before after divided => ?_
      exact absurd divided.symm (List.append_ne_nil_of_right_ne_nil before (List.cons_ne_nil _ _))
  | cons c rest ih =>
      rw [looseDashes, everyDashFolds_cons_iff, Nat.add_eq_zero_iff, ih, ite_eq_right_iff]
      simp

private theorem count_upperFirst (cs : List Char) :
    (Text.upperFirst cs).count '-' = cs.count '-' := by
  cases cs with
  | nil => rfl
  | cons c rest =>
      have first : (Text.upperChar c).count '-' = [c].count '-' := by
        by_cases dash : c = '-'
        · rw [dash]
          decide
        · have gone : '-' ∉ Text.upperChar c := fun member =>
            (Text.eq_or_le_of_mem_upperChar member).elim (fun same => dash same.symm) (by decide)
          rw [List.count_eq_zero_of_not_mem gone, List.count_singleton,
            if_neg (by simpa using dash)]
      rw [Text.upperFirst, List.count_append, first, ← List.count_append, List.singleton_append]

/-- **The loose dashes of a name stay in its camel case**, and no others do. -/
theorem count_camel (upperFirst : Bool) (name : String) :
    (camel upperFirst name).toList.count '-' = looseDashes name.toList := by
  rw [camel, String.toList_ofList]
  unfold camelChars
  cases upperFirst with
  | false => exact count_foldDashes name.toList
  | true => exact (count_upperFirst _).trans (count_foldDashes name.toList)

/-! ## Identifiers -/

private theorem IsPlainChar.isWordChar {c : Char} (plain : IsPlainChar c) (solid : c ≠ '-') :
    IsWordChar c := by
  rcases plain with lower | digit | dash
  · exact .inl (by simp [Char.isAlphanum, Char.isAlpha, lower])
  · exact .inl (by simp [Char.isAlphanum, digit])
  · exact absurd dash solid

private theorem isWordChar_of_isUpper {c : Char} (upper : c.isUpper = true) : IsWordChar c :=
  .inl (by simp [Char.isAlphanum, Char.isAlpha, upper])

section PlainName

variable {name : String} {upperFirst : Bool}

/-- Folding a plain name brings in nothing that does not belong into a word. -/
theorem IsPlainName.isWordChar_of_mem_camel (plain : IsPlainName name) {c : Char}
    (member : c ∈ (camel upperFirst name).toList) (solid : c ≠ '-') : IsWordChar c := by
  have folded {cs : List Char} (inside : ∀ d ∈ cs, IsPlainChar d) (member : c ∈ foldDashes cs) :
      IsWordChar c :=
    (mem_or_isUpper_of_mem_foldDashes member).elim
      (fun kept => (inside c kept).isWordChar solid) isWordChar_of_isUpper
  rw [camel, String.toList_ofList] at member
  cases upperFirst with
  | false => exact folded plain.2 member
  | true =>
      obtain ⟨opens, chars⟩ := plain
      cases spelled : name.toList with
      | nil =>
          rw [spelled] at opens
          exact absurd opens Bool.false_ne_true
      | cons d rest =>
          rw [spelled] at opens member chars
          rw [camelChars_cons opens] at member
          rcases List.mem_cons.mp member with rfl | member
          · exact isWordChar_of_isUpper (isUpper_toUpper opens)
          · exact folded (List.forall_mem_cons.mp chars).2 member

private theorem IsPlainName.forall_isWordChar_camel_iff (plain : IsPlainName name) :
    (∀ c ∈ (camel upperFirst name).toList, IsWordChar c) ↔ EveryDashFolds name.toList := by
  rw [← looseDashes_eq_zero_iff, ← count_camel upperFirst, List.count_eq_zero]
  constructor
  · intro word member
    exact absurd (word '-' member) (by unfold IsWordChar; decide)
  · intro gone c member
    refine plain.isWordChar_of_mem_camel member ?_
    rintro rfl
    exact gone member

/-- Between an identifier and characters of a word, a text makes an identifier if it is of such
characters. -/
theorem isIdentifier_append_iff {front word back : String} (opens : IsIdentifier front)
    (closes : ∀ c ∈ back.toList, IsWordChar c) :
    IsIdentifier (front ++ word ++ back) ↔ ∀ c ∈ word.toList, IsWordChar c := by
  constructor
  · intro whole c member
    exact whole.word c (by simp [member])
  · intro inside
    refine ⟨?_, fun c member => ?_⟩
    · obtain ⟨first, head, letter⟩ := (Option.any_eq_true _ _).mp opens.opens
      refine (Option.any_eq_true _ _).mpr ⟨first, ?_, letter⟩
      rw [String.append_assoc, String.toList_append, List.head?_append, head, Option.some_or]
    · simp only [String.toList_append, List.mem_append] at member
      rcases member with (inFront | inWord) | inBack
      · exact opens.word c inFront
      · exact inside c inWord
      · exact closes c inBack

private theorem IsPlainName.isIdentifier_camel_iff (plain : IsPlainName name) :
    IsIdentifier (camel true name) ↔ EveryDashFolds name.toList := by
  rw [← plain.forall_isWordChar_camel_iff]
  refine ⟨IsIdentifier.word, fun word => ⟨?_, word⟩⟩
  obtain ⟨first, head, upper⟩ := (Option.any_eq_true _ _).mp plain.isClassWord_camel.opens
  exact (Option.any_eq_true _ _).mpr ⟨first, head, by simp [Char.isAlpha, upper]⟩

end PlainName

/-- What is named after an element or an event: a class, a handler, and the property that takes a
callback. -/
def generated (name : String) : List (Naming String) :=
  [className (.text name), handlerName (.text name), callbackName (.text name)]

instance (cs : List Char) : Decidable (EveryDashFolds cs) :=
  decidable_of_iff (looseDashes cs = 0) looseDashes_eq_zero_iff

/-- **Which generated names are identifiers.** Through every case map that remembers nothing wrong,
a class, a handler and a callback are named, whatever text they are named after, and there are as
many dashes in the name as dashes without a letter from `a` to `z` behind them in that text. If the
text is a plain name, the generated name is an identifier exactly if there is no such dash. -/
theorem isIdentifier_generated_iff (name : String) :
    ∀ naming ∈ generated name, ∃ made, Answers CaseMap.WellFormed naming (.ok made) ∧
      made.toList.count '-' = looseDashes name.toList ∧
      (IsPlainName name → (IsIdentifier made ↔ EveryDashFolds name.toList)) := by
  simp only [generated, List.forall_mem_cons]
  refine ⟨⟨_, answers_className name, count_camel true name,
    IsPlainName.isIdentifier_camel_iff⟩, ⟨_, answers_handlerName name, ?_, fun plain => ?_⟩,
    ⟨_, answers_callbackName name, ?_, fun plain => ?_⟩,
    fun _ member => absurd member List.not_mem_nil⟩
  · have converted := count_camel false name
    simpa [List.count_append] using converted
  · rw [← plain.forall_isWordChar_camel_iff]
    exact isIdentifier_append_iff (by decide) (by simp [IsWordChar])
  · have converted := count_camel true name
    simpa [List.count_append] using converted
  · rw [← plain.forall_isWordChar_camel_iff]
    have affixed : IsIdentifier ("on" ++ camel true name ++ "") ↔
        ∀ c ∈ (camel true name).toList, IsWordChar c :=
      isIdentifier_append_iff (by decide) (by simp [IsWordChar])
    rwa [String.append_empty] at affixed

/-- A dash before a digit stays, and the handler's name is no identifier. Where every dash is
folded, the name of the class is one. -/
theorem isIdentifier_generated_digit :
    (∃ made, Answers CaseMap.WellFormed (handlerName (.text "test-2-x")) (.ok made) ∧
      made.toList.count '-' = 1 ∧ ¬ IsIdentifier made) ∧
    ∃ made, Answers CaseMap.WellFormed (className (.text "paper-input")) (.ok made) ∧
      made.toList.count '-' = 0 ∧ IsIdentifier made := by
  constructor
  · have listed : handlerName (.text "test-2-x") ∈ generated "test-2-x" :=
      List.mem_cons_of_mem _ List.mem_cons_self
    obtain ⟨made, answers, dashes, identifier⟩ :=
      isIdentifier_generated_iff "test-2-x" _ listed
    exact ⟨made, answers, dashes.trans (by decide), mt (identifier (by decide)).mp (by decide)⟩
  · obtain ⟨made, answers, dashes, identifier⟩ :=
      isIdentifier_generated_iff "paper-input" _ List.mem_cons_self
    exact ⟨made, answers, dashes.trans (by decide), (identifier (by decide)).mpr (by decide)⟩

end ElementWrap.Naming
