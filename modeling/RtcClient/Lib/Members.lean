import Mathlib.Data.String.Basic

/-!
# Members of an object

The members of a JSON object are kept in the order of their keys, as `std::map` keeps them,
so that a loop over an object meets them in that order. Writing a member replaces the value
under an existing key and puts a new key in its place.
-/

namespace RtcClient.Lib

universe u

/-- The members of an object, by key. -/
abbrev Members (α : Type u) := List (String × α)

namespace Members

variable {α : Type u}

/-- The value under a key. -/
def find? (m : Members α) (k : String) : Option α := List.lookup k m

/-- Write a value under a key. -/
def set : Members α → String → α → Members α
  | [], k, v => [(k, v)]
  | (k', v') :: m, k, v =>
    if k = k' then (k, v) :: m
    else if k < k' then (k, v) :: (k', v') :: m
    else (k', v') :: set m k v

/-- Remove a key. -/
def erase (m : Members α) (k : String) : Members α := m.filter fun kv ↦ kv.1 ≠ k

/-- An empty object has no member. -/
@[simp] theorem find?_nil (k : String) : find? ([] : Members α) k = none := rfl

/-- The first member with the key is found. -/
theorem find?_cons (k k' : String) (v : α) (m : Members α) :
    find? ((k', v) :: m) k = if k = k' then some v else find? m k := by
  unfold find?
  rw [List.lookup_cons]
  by_cases h : k = k'
  · simp [h]
  · rw [if_neg h, beq_false_of_ne h]

/-- The value that was set. -/
@[simp] theorem find?_set_self (m : Members α) (k : String) (v : α) :
    find? (set m k v) k = some v := by
  induction m with
  | nil => simp [set, find?_cons]
  | cons kv m ih =>
    obtain ⟨k', v'⟩ := kv
    simp only [set]
    split
    · simp [find?_cons]
    · next hk =>
      split
      · simp [find?_cons]
      · rw [find?_cons, if_neg hk, ih]

/-- Other members stay. -/
theorem find?_set_of_ne {k k' : String} (h : k' ≠ k) (m : Members α) (v : α) :
    find? (set m k v) k' = find? m k' := by
  induction m with
  | nil => simp [set, find?_cons, h]
  | cons kv m ih =>
    obtain ⟨k₁, v₁⟩ := kv
    simp only [set]
    split
    · next hk => rw [find?_cons, find?_cons, if_neg h, if_neg (hk ▸ h)]
    · split
      · rw [find?_cons, if_neg h]
      · rw [find?_cons, find?_cons, ih]

/-- A member after one was set. -/
theorem find?_set (m : Members α) (k k' : String) (v : α) :
    find? (set m k v) k' = if k' = k then some v else find? m k' := by
  split
  · next h => rw [h, find?_set_self]
  · next h => exact find?_set_of_ne h m v

/-- The erased member is gone. -/
@[simp] theorem find?_erase_self (m : Members α) (k : String) : find? (erase m k) k = none := by
  induction m with
  | nil => rfl
  | cons kv m ih =>
    obtain ⟨k', v'⟩ := kv
    unfold erase at ih ⊢
    by_cases h : k' = k
    · simpa [h] using ih
    · simp [h, find?_cons, Ne.symm h] at ih ⊢
      exact ih

/-- Other members stay. -/
theorem find?_erase_of_ne {k k' : String} (h : k' ≠ k) (m : Members α) :
    find? (erase m k) k' = find? m k' := by
  induction m with
  | nil => rfl
  | cons kv m ih =>
    obtain ⟨k₁, v₁⟩ := kv
    unfold erase at ih ⊢
    by_cases hk : k₁ = k
    · simp only [hk, ne_eq, not_true_eq_false, decide_false, List.filter_cons_of_neg,
        Bool.false_eq_true, not_false_eq_true]
      rw [ih, find?_cons, if_neg h]
    · simp only [ne_eq, hk, not_false_eq_true, decide_true, List.filter_cons_of_pos]
      rw [find?_cons, find?_cons, ih]

end Members

end RtcClient.Lib
