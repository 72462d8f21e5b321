import RtcClient.Lib.Run

/-!
# Registers and their last write

A register is a part of the state that some actions write and the others leave alone.
`lastWrite w b as` reads the value such a register has after `as` off the actions: what
the last writing action wrote, or `b` if none did. A projection of a state whose steps
obey `w` is that register along every run.
-/

namespace RtcClient.Lib

universe u v

variable {σ : Type u} {α : Type v} {β : Type*} {w w' : α → Option β} {b : β}

/-- What the last action of `as` that writes has written; `b` if none writes. -/
def lastWrite (w : α → Option β) (b : β) (as : List α) : β :=
  as.foldl (fun v a ↦ (w a).getD v) b

/-- Nothing has been written yet. -/
@[simp] theorem lastWrite_nil : lastWrite w b [] = b := rfl

/-- The newest action decides if it writes. -/
@[simp] theorem lastWrite_concat (as : List α) (a : α) :
    lastWrite w b (as ++ [a]) = (w a).getD (lastWrite w b as) := by
  rw [lastWrite, List.foldl_append]
  rfl

/-- Later actions take what earlier ones left. -/
theorem lastWrite_append (as bs : List α) :
    lastWrite w b (as ++ bs) = lastWrite w (lastWrite w b as) bs :=
  List.foldl_append

/-- The first action is taken first. -/
@[simp] theorem lastWrite_cons (a : α) (as : List α) :
    lastWrite w b (a :: as) = lastWrite w ((w a).getD b) as := rfl

/-- Without a write the initial value stays. -/
theorem lastWrite_of_none {as : List α} (h : ∀ a ∈ as, w a = none) : lastWrite w b as = b := by
  induction as with
  | nil => rfl
  | cons a as ih =>
    rw [lastWrite_cons, h a (by simp), Option.getD_none]
    exact ih fun x hx ↦ h x (by simp [hx])

/-- After a write the initial value does not matter. -/
theorem lastWrite_eq_of_some {as : List α} (h : ∃ a ∈ as, w a ≠ none) (b b' : β) :
    lastWrite w b as = lastWrite w b' as := by
  induction as generalizing b b' with
  | nil => simp at h
  | cons a as ih =>
    rw [lastWrite_cons, lastWrite_cons]
    cases ha : w a with
    | some v => rfl
    | none =>
      obtain ⟨x, hx, hw⟩ := h
      rcases List.mem_cons.mp hx with rfl | hx
      · exact absurd ha hw
      · exact ih ⟨x, hx, hw⟩ b b'

/-- Registers with the same writes among `as` agree after `as`. -/
theorem lastWrite_congr {as : List α} (h : ∀ a ∈ as, w a = w' a) :
    lastWrite w b as = lastWrite w' b as := by
  induction as generalizing b with
  | nil => rfl
  | cons a as ih =>
    rw [lastWrite_cons, lastWrite_cons, h a (by simp)]
    exact ih fun x hx ↦ h x (by simp [hx])

/-- A projection whose steps write as `w` says is the register `w`, along every run. -/
theorem run_lastWrite {step : σ → α → σ} (get : σ → β)
    (h : ∀ s a, get (step s a) = (w a).getD (get s)) (s : σ) (as : List α) :
    get (run step s as) = lastWrite w (get s) as := by
  induction as generalizing s with
  | nil => rfl
  | cons a as ih => rw [run_cons, ih, h, lastWrite_cons]

end RtcClient.Lib
