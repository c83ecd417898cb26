/-!
# Keyed lists

A finite map as a list of pairs with one pair to a key.
-/

namespace PageBridge

/-- A finite map: pairs of keys and values, each key once. -/
abbrev Keyed (κ α : Type) := List (κ × α)

namespace Keyed

variable {κ α : Type} [DecidableEq κ]

/-- The value of a key. -/
def get? (k : κ) (m : Keyed κ α) : Option α :=
  (m.find? (·.1 = k)).map (·.2)

/-- Whether a key has a value. -/
def has (k : κ) (m : Keyed κ α) : Bool :=
  m.any (·.1 = k)

/-- The map without a key. -/
def erase (k : κ) (m : Keyed κ α) : Keyed κ α :=
  m.filter (·.1 ≠ k)

/-- The map with a value for a key, in the place of an older one. -/
def set (k : κ) (v : α) (m : Keyed κ α) : Keyed κ α :=
  (k, v) :: erase k m

/-- The map with the value of one key changed, if it has one. -/
def update (k : κ) (f : α → α) (m : Keyed κ α) : Keyed κ α :=
  m.map fun e => if e.1 = k then (e.1, f e.2) else e

/-! ## Laws -/

/-- A key that was erased has no value, and any other one has what it had. -/
theorem get?_erase (k k' : κ) (m : Keyed κ α) :
    get? k (erase k' m) = if k = k' then none else get? k m := by
  induction m with
  | nil => simp [erase, get?]
  | cons e m ih =>
    simp only [erase, get?, List.filter_cons, List.find?_cons] at ih ⊢
    by_cases h : e.1 = k' <;> by_cases h' : e.1 = k <;> by_cases h'' : k = k' <;>
      simp_all

/-- What was just set is found, and any other key has what it had. -/
theorem get?_set (k k' : κ) (v : α) (m : Keyed κ α) :
    get? k (set k' v m) = if k = k' then some v else get? k m := by
  by_cases h : k' = k
  · simp [set, get?, h]
  · have h' : ¬ k = k' := fun e => h e.symm
    have := get?_erase k k' m
    simp_all [set, get?]

/-- An update reaches the value of its own key only, and makes none where there is none. -/
theorem get?_update (k k' : κ) (f : α → α) (m : Keyed κ α) :
    get? k (update k' f m) = if k = k' then (get? k m).map f else get? k m := by
  induction m with
  | nil => simp [update, get?]
  | cons e m ih =>
    simp only [update, get?, List.map_cons, List.find?_cons] at ih ⊢
    by_cases h : e.1 = k' <;> by_cases h' : e.1 = k <;> by_cases h'' : k = k' <;>
      simp_all

/-- A key is there exactly when it has a value. -/
theorem has_iff (k : κ) (m : Keyed κ α) : has k m = true ↔ (get? k m).isSome = true := by
  simp [has, get?, List.any_eq_true]

/-- The same as an equation, to be rewritten with. -/
theorem has_eq (k : κ) (m : Keyed κ α) : has k m = (get? k m).isSome :=
  Bool.eq_iff_iff.mpr (has_iff k m)

/-- After a key was set it is there, beside those that were there before. -/
theorem has_set (k k' : κ) (v : α) (m : Keyed κ α) :
    has k (set k' v m) = (decide (k = k') || has k m) := by
  rw [has_eq, has_eq, get?_set]
  by_cases h : k = k' <;> simp [h]

end Keyed

end PageBridge
