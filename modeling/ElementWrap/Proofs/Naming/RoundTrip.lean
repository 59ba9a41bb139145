import ElementWrap.Proofs.Naming.Calls
import ElementWrap.Proofs.Naming.Folding
import ElementWrap.Proofs.Text.LowerCase

/-! # Camel case and back

A name without letters from `A` to `Z` that is put in camel case, and then in dash case again, comes
back lower-cased, and no other name comes back at all. So the names that come back are those that
lower-casing leaves alone, and camel case tells them apart
(`ElementWrap.Naming.thereAndBack_eq_self_iff`).
-/

namespace ElementWrap.Naming

/-- Lower-casing leaves a name as it is. -/
def IsLowerCase (name : String) : Prop := Text.lower name.toList = name.toList

/-- Puts a name in camel case, and the result in dash case. -/
def thereAndBack (name : String) : Naming String := do
  toDash (.text (← toCamel (.text name) false))

/-! ## Words -/

/-- A folded word without capitals is unfolded to the lower case of the word. -/
theorem dashChars_foldDashes {cs : List Char} (small : Uncapitalized cs) :
    dashChars (foldDashes cs) = Text.lower cs := by
  unfold dashChars
  -- Apart from the case of its letters, which lower-casing does not see, the word is back already.
  rw [← Text.lower_map_toLower, map_toLower_markCapitals_foldDashes small]

/-- A name with dashes has no capitals. -/
theorem uncapitalized_dashChars (cs : List Char) : Uncapitalized (dashChars cs) :=
  fun _ member => Text.isUpper_of_mem_lower member

private theorem uncapitalized_of_lower {cs : List Char} (lower : Text.lower cs = cs) :
    Uncapitalized cs :=
  fun _ member => Text.isUpper_of_mem_lower (lower.symm ▸ member)

/-- A word comes back exactly if lower-casing leaves it alone. -/
theorem dashChars_foldDashes_eq_self_iff {cs : List Char} :
    dashChars (foldDashes cs) = cs ↔ Text.lower cs = cs := by
  constructor
  · intro back
    have small : Uncapitalized cs := back ▸ uncapitalized_dashChars (foldDashes cs)
    rw [← dashChars_foldDashes small, back]
  · intro lower
    rw [dashChars_foldDashes (uncapitalized_of_lower lower), lower]

/-! ## Names -/

private theorem dash_camel_eq_self_iff {name : String} :
    dash (camel false name) = name ↔ IsLowerCase name := by
  rw [dash, camel, String.toList_ofList, ← String.toList_inj, String.toList_ofList]
  exact dashChars_foldDashes_eq_self_iff

private theorem answers_thereAndBack (name : String) :
    Answers CaseMap.WellFormed (thereAndBack name) (.ok (dash (camel false name))) :=
  .bind_ok (answers_convert (.camel false name)) (answers_convert (.dash (camel false name)))

/-- **Exactly the lower-case names come back** from camel case, through a case map of which anything
may have been asked before, and different ones among them have different camel cases. -/
theorem thereAndBack_eq_self_iff (earlier : List Call) :
    (∀ name, ((thereAndBack name).run.run (afterCalls .empty earlier)).1 = .ok name ↔
      IsLowerCase name) ∧
    Set.InjOn (camel false) {name | IsLowerCase name} := by
  have sound := wellFormed_afterCalls wellFormed_empty earlier
  refine ⟨fun name => ?_, fun first firstLower second secondLower same => ?_⟩
  · rw [← (answers_thereAndBack name).eq_from sound, Except.ok.injEq]
    exact dash_camel_eq_self_iff
  · calc first = dash (camel false first) := (dash_camel_eq_self_iff.mpr firstLower).symm
      _ = dash (camel false second) := congrArg dash same
      _ = second := dash_camel_eq_self_iff.mpr secondLower

/-- Dashes that follow each other, open or end the name, digits and letters of other scripts come
back. -/
example : IsLowerCase "--a-2-bß-ς-" := by
  unfold IsLowerCase
  decide +kernel

end ElementWrap.Naming
