import Mathlib.Algebra.Order.Floor.Div
import Mathlib.Data.List.Basic
import Mathlib.GroupTheory.GroupAction.Ring

/-!
# Cutting a list into chunks

`chunks k l` cuts `l` from the left into pieces of `k` elements, the last one with
what remains. It is the meaning of a loop that walks an index over a sequence and
takes a slice at each turn; the lemmas say how many pieces there are, how long each
one is, and that nothing is lost.
-/

namespace RtcClient.Lib

universe u

variable {α : Type u} {k : Nat} {l : List α}

/-- The pieces of `l` of length `k`, in order; there are none for `k = 0`. -/
def chunks (k : Nat) (l : List α) : List (List α) :=
  if k = 0 ∨ l = [] then [] else l.take k :: chunks k (l.drop k)
termination_by l.length
decreasing_by
  have hl : l.length ≠ 0 := by
    intro h
    exact ‹¬ (k = 0 ∨ l = [])› (.inr (List.length_eq_zero_iff.mp h))
  simp only [List.length_drop]
  omega

/-- The empty list has no piece. -/
@[simp] theorem chunks_nil (k : Nat) : chunks k ([] : List α) = [] := by
  rw [chunks, if_pos (.inr rfl)]

/-- The first piece, and the pieces of the rest. -/
theorem chunks_of_ne_nil (hk : 0 < k) (hl : l ≠ []) :
    chunks k l = l.take k :: chunks k (l.drop k) := by
  rw [chunks, if_neg (by simp [hl, hk.ne'])]

/-- Cutting loses and reorders nothing. -/
theorem flatten_chunks (hk : 0 < k) (l : List α) : (chunks k l).flatten = l := by
  fun_induction chunks k l with
  | case1 l h =>
    have hl : l = [] := h.resolve_left hk.ne'
    rw [hl, List.flatten_nil]
  | case2 l h ih => rw [List.flatten_cons, ih, List.take_append_drop]

/-- A list of `n` elements has `⌈n / k⌉` pieces. -/
theorem length_chunks (hk : 0 < k) (l : List α) : (chunks k l).length = l.length ⌈/⌉ k := by
  fun_induction chunks k l with
  | case1 l h =>
    have hl : l = [] := h.resolve_left hk.ne'
    rw [hl, List.length_nil, List.length_nil, zero_ceilDiv]
  | case2 l h ih =>
    have hl : 0 < l.length := List.length_pos_iff.mpr fun hl ↦ h (.inr hl)
    rw [List.length_cons, ih, List.length_drop, Nat.ceilDiv_eq_add_pred_div,
      Nat.ceilDiv_eq_add_pred_div, ← Nat.add_div_right _ hk]
    -- One piece less than `k` long is rounded up to a whole one.
    rcases Nat.lt_or_ge l.length k with hlt | hge
    · have hone : ∀ n, k ≤ n → n < 2 * k → n / k = 1 := by
        intro n h₁ h₂
        exact Nat.div_eq_of_lt_le (by omega) (by omega)
      rw [hone _ (by omega) (by omega), hone _ (by omega) (by omega)]
    · congr 1
      omega

/-- No piece is empty and none is longer than `k`. -/
theorem length_of_mem_chunks (hk : 0 < k) {c : List α} (hc : c ∈ chunks k l) :
    1 ≤ c.length ∧ c.length ≤ k := by
  fun_induction chunks k l with
  | case1 l h => simp at hc
  | case2 l h ih =>
    have hl : 0 < l.length := List.length_pos_iff.mpr fun hl ↦ h (.inr hl)
    rcases List.mem_cons.mp hc with rfl | hc
    · rw [List.length_take]
      omega
    · exact ih hc

end RtcClient.Lib
