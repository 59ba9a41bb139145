/-! # Dictionaries that keep the order of their keys

A dictionary is a list of pairs. Writing a key that is present replaces its value where it stands,
and a new key goes to the end; the first spelling of a key is kept.
-/

namespace ElementWrap.Ordered

/-- Writes a key, `same` telling whether two keys are one. -/
def putBy (same : α → α → Bool) (key : α) (value : β) : List (α × β) → List (α × β)
  | [] => [(key, value)]
  | (k, v) :: rest =>
    if same k key then (k, value) :: rest else (k, v) :: putBy same key value rest

/-- Writes a key that is told apart by equality. -/
def put [DecidableEq α] (key : α) (value : β) (entries : List (α × β)) : List (α × β) :=
  putBy (fun a b => decide (a = b)) key value entries

/-- The value of a key. -/
def get? [DecidableEq α] (key : α) : List (α × β) → Option β
  | [] => none
  | (k, v) :: rest => if k = key then some v else get? key rest

/-- The dictionary without a key. -/
def erase [DecidableEq α] (key : α) (entries : List (α × β)) : List (α × β) :=
  entries.filter fun entry => !decide (entry.1 = key)

/-- The dictionary that results from writing the pairs one after the other. -/
def ofList [DecidableEq α] (entries : List (α × β)) : List (α × β) :=
  entries.foldl (fun result entry => put entry.1 entry.2 result) []

/-- A key that was just written has the new value, and every other key the value it had. -/
theorem get?_put [DecidableEq α] (key other : α) (value : β) (entries : List (α × β)) :
    get? other (put key value entries) =
      if key = other then some value else get? other entries := by
  induction entries with
  | nil => simp [put, putBy, get?]
  | cons entry rest ih =>
    obtain ⟨k, v⟩ := entry
    rw [put] at ih ⊢
    by_cases h : k = key
    · subst h
      simp only [putBy, decide_true, if_true, get?]
      split <;> rfl
    · simp only [putBy, decide_eq_true_eq, h, if_false, get?, ih]
      by_cases hk : k = other
      · subst hk
        simp [Ne.symm h]
      · simp [hk]

end ElementWrap.Ordered
