import Mathlib.Data.List.Forall2

/-!
# Computations that may fail

What a successful run of an `Except` program says about its parts: the bind, a loop that
carries a state, and a pass over a list.
-/

namespace RtcClient.Lib

universe u v w

variable {ε : Type u} {α : Type v} {β : Type v} {γ : Type w}

/-- A bind succeeds through a success of its first part. -/
theorem bind_eq_ok {x : Except ε α} {f : α → Except ε β} {r : β} :
    (x >>= f) = .ok r ↔ ∃ a, x = .ok a ∧ f a = .ok r := by
  cases x with
  | error e => simp [bind, Except.bind]
  | ok a => simp [bind, Except.bind]

/-- What is returned at once is the result. -/
theorem pure_eq_ok {a r : α} : (pure a : Except ε α) = .ok r ↔ a = r := by
  simp [pure, Except.pure]

/-- What every successful step keeps, a successful loop keeps. -/
theorem foldlM_keeps {f : β → γ → Except ε β} {P : β → Prop} {l : List γ}
    (step : ∀ b, ∀ a ∈ l, ∀ b', f b a = .ok b' → P b → P b') {b b' : β}
    (h : l.foldlM f b = .ok b') (hb : P b) : P b' := by
  induction l generalizing b with
  | nil =>
    rw [List.foldlM_nil, pure_eq_ok] at h
    exact h ▸ hb
  | cons a l ih =>
    rw [List.foldlM_cons, bind_eq_ok] at h
    obtain ⟨c, hc, h⟩ := h
    refine ih (fun b x hx ↦ step b x (by simp [hx])) h ?_
    exact step b a (by simp) c hc hb

/-- A pass over a list succeeds when it does so at every element. -/
theorem mapM_eq_ok {f : γ → Except ε β} {l : List γ} {l' : List β} :
    l.mapM f = .ok l' ↔ List.Forall₂ (fun a b ↦ f a = .ok b) l l' := by
  induction l generalizing l' with
  | nil =>
    rw [List.mapM_nil, pure_eq_ok]
    simp [eq_comm]
  | cons a l ih =>
    rw [List.mapM_cons, bind_eq_ok]
    simp only [bind_eq_ok, pure_eq_ok, ih]
    constructor
    · rintro ⟨b, hb, bs, hbs, rfl⟩
      exact .cons hb hbs
    · intro h
      cases h with
      | cons hb hbs => exact ⟨_, hb, _, hbs, rfl⟩

/-- Each result of a pass over a list is the result of an element. -/
theorem exists_of_mem_mapM {f : γ → Except ε β} {l : List γ} {l' : List β} {b : β}
    (h : l.mapM f = .ok l') (hb : b ∈ l') : ∃ a ∈ l, f a = .ok b := by
  have hall := mapM_eq_ok.mp h
  clear h
  induction hall with
  | nil => cases hb
  | @cons a b' l l' ha _ ih =>
    rcases List.mem_cons.mp hb with rfl | hb
    · exact ⟨a, by simp, ha⟩
    · obtain ⟨a', ha', hf⟩ := ih hb
      exact ⟨a', by simp [ha'], hf⟩

end RtcClient.Lib
