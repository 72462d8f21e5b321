import Mathlib.Data.List.Basic

/-!
# Streams of switch-on and switch-off signals

A stream is a list of signals, oldest first, each with its owner and `true` for on. It is in
`Sessions` when it starts off and every signal switches: an owner switches on only when
nobody is on, and off only what the same owner switched on. The second argument is the owner
who is on at the end.
-/

namespace RtcClient.Lib

universe u

variable {κ : Type u}

/-- Signals that switch one thing on and off, with the owner who is on at the end. -/
inductive Sessions : List (κ × Bool) → Option κ → Prop
  | nil : Sessions [] none
  | on {l : List (κ × Bool)} (h : Sessions l none) (k : κ) : Sessions (l ++ [(k, true)]) (some k)
  | off {l : List (κ × Bool)} {k : κ} (h : Sessions l (some k)) : Sessions (l ++ [(k, false)]) none

/-- Owners who switched on, in order. -/
def owners (l : List (κ × Bool)) : List κ := (l.filter Prod.snd).map Prod.fst

/-- One more owner. -/
@[simp] theorem owners_concat_on (l : List (κ × Bool)) (k : κ) :
    owners (l ++ [(k, true)]) = owners l ++ [k] := by
  simp [owners]

/-- An end has no owner. -/
@[simp] theorem owners_concat_off (l : List (κ × Bool)) (k : κ) :
    owners (l ++ [(k, false)]) = owners l := by
  simp [owners]

namespace Sessions

variable {l : List (κ × Bool)} {o : Option κ}

/-- An odd number of signals leaves somebody on. -/
theorem length_mod_two (h : Sessions l o) : l.length % 2 = if o.isSome then 1 else 0 := by
  induction h with
  | nil => rfl
  | on _ k ih =>
    simp only [Option.isSome_none, Bool.false_eq_true, if_false] at ih
    simp only [List.length_append, List.length_singleton, Option.isSome_some, if_true]
    omega
  | off _ ih =>
    simp only [Option.isSome_some, if_true] at ih
    simp only [List.length_append, List.length_singleton, Option.isSome_none, Bool.false_eq_true,
      if_false]
    omega

private theorem getElem?_concat_cases {a b : κ × Bool} {i : Nat} (h : (l ++ [b])[i]? = some a) :
    l[i]? = some a ∨ (i = l.length ∧ a = b) := by
  by_cases hi : i < l.length
  · rw [List.getElem?_append_left hi] at h
    exact .inl h
  · rw [List.getElem?_append_right (by omega), List.getElem?_singleton] at h
    split at h
    · next he => exact .inr ⟨by omega, (Option.some.inj h).symm⟩
    · cases h

/-- The signals alternate, beginning with on. -/
theorem alternates (h : Sessions l o) {i : Nat} {a : κ × Bool} (ha : l[i]? = some a) :
    a.2 = decide (i % 2 = 0) := by
  induction h with
  | nil => simp at ha
  | on h k ih =>
    have hlen := h.length_mod_two
    rcases getElem?_concat_cases ha with ha | ⟨rfl, rfl⟩
    · exact ih ha
    · simp [hlen]
  | off h ih =>
    have hlen := h.length_mod_two
    rcases getElem?_concat_cases ha with ha | ⟨rfl, rfl⟩
    · exact ih ha
    · simp [hlen]

/-- The owner who is on gave the last signal. -/
theorem getLast?_eq (h : Sessions l o) (k : κ) : l.getLast? = some (k, true) ↔ o = some k := by
  cases h with
  | nil => simp
  | on _ k' => simp
  | off _ => simp

/-- What an owner switches on, the same owner switches off. -/
theorem same_owner (h : Sessions l o) {i : Nat} {a b : κ × Bool} (ha : l[2 * i]? = some a)
    (hb : l[2 * i + 1]? = some b) : a.1 = b.1 := by
  induction h with
  | nil => simp at ha
  | on h k ih =>
    have hlen := h.length_mod_two
    rw [Option.isSome_none, if_neg (by simp)] at hlen
    rcases getElem?_concat_cases hb with hb | ⟨hi, -⟩
    · rcases getElem?_concat_cases ha with ha | ⟨hi, -⟩
      · exact ih ha hb
      · obtain ⟨hlt, -⟩ := List.getElem?_eq_some_iff.mp hb
        omega
    · omega
  | @off l k h ih =>
    rcases getElem?_concat_cases hb with hb | ⟨hi, rfl⟩
    · rcases getElem?_concat_cases ha with ha | ⟨hi, -⟩
      · exact ih ha hb
      · obtain ⟨hlt, -⟩ := List.getElem?_eq_some_iff.mp hb
        omega
    · -- the signal before the last one is the one that switched on
      have hlast := (h.getLast?_eq k).mpr rfl
      rw [List.getLast?_eq_getElem?, ← hi, Nat.add_sub_cancel] at hlast
      rw [List.getElem?_append_left (by omega), hlast] at ha
      rw [← Option.some.inj ha]

end Sessions

end RtcClient.Lib
