import Mathlib.Data.List.Infix

/-!
# Finite runs of a deterministic step function

A run is the left fold of a total step function over a list of actions; an action
that is not enabled is a step that changes nothing. `Always` is a safety property
along a run, `Guarded` a condition on the state before each action. The rules below
carry an invariant along a run and say when the two notions coincide.
-/

namespace RtcClient.Lib

universe u v

variable {σ : Type u} {α : Type v}

/-- State after taking the actions of `as`, in order, from `s`. -/
def run (step : σ → α → σ) (s : σ) (as : List α) : σ := as.foldl step s

/-- `P` holds in every state the run passes through, its first and last included. -/
def Always (step : σ → α → σ) (P : σ → Prop) (s : σ) (as : List α) : Prop :=
  ∀ pre, pre <+: as → P (run step s pre)

/-- Each action of the run is taken in a state that admits it. -/
def Guarded (step : σ → α → σ) (G : σ → α → Prop) (s : σ) (as : List α) : Prop :=
  ∀ pre a, pre ++ [a] <+: as → G (run step s pre) a

/-- The empty run stays where it is. -/
@[simp] theorem run_nil (step : σ → α → σ) (s : σ) : run step s [] = s := rfl

/-- A run takes its first action first. -/
@[simp] theorem run_cons (step : σ → α → σ) (s : σ) (a : α) (as : List α) :
    run step s (a :: as) = run step (step s a) as := rfl

/-- Runs compose along concatenation. -/
theorem run_append (step : σ → α → σ) (s : σ) (as bs : List α) :
    run step s (as ++ bs) = run step (run step s as) bs :=
  List.foldl_append

/-- The last action is taken from the state the others reach. -/
theorem run_concat (step : σ → α → σ) (s : σ) (as : List α) (a : α) :
    run step s (as ++ [a]) = step (run step s as) a := by
  rw [run_append, run_cons, run_nil]

/-- A fold whose steps keep a projection keeps it. -/
theorem foldl_keeps {β : Type*} (f : σ → β) {g : σ → α → σ} (l : List α) (s : σ)
    (h : ∀ s a, f (g s a) = f s) : f (l.foldl g s) = f s := by
  induction l generalizing s with
  | nil => rfl
  | cons a l ih => exact (ih (g s a)).trans (h s a)

/-- The actions of a run, each with the state in which it was taken. -/
def trace (step : σ → α → σ) : σ → List α → List (σ × α)
  | _, [] => []
  | s, a :: as => (s, a) :: trace step (step s a) as

/-- The last action is taken in the state the others reach. -/
theorem trace_concat (step : σ → α → σ) (s : σ) (as : List α) (a : α) :
    trace step s (as ++ [a]) = trace step s as ++ [(run step s as, a)] := by
  induction as generalizing s with
  | nil => rfl
  | cons b as ih => rw [List.cons_append, trace, ih, trace, run_cons, List.cons_append]

section Rules

variable {step : σ → α → σ} {P : σ → Prop} {G : σ → α → Prop} {s : σ}

/-- A property that every step keeps holds at the end of every run. -/
theorem run_invariant (I : σ → Prop) (hs : I s) (hstep : ∀ s a, I s → I (step s a)) (as : List α) :
    I (run step s as) := by
  induction as generalizing s with
  | nil => exact hs
  | cons a as ih => exact ih (hstep s a hs)

/-- A property kept by the actions of a given list holds at the end of that run. -/
theorem run_invariant_of_mem (I : σ → Prop) {as : List α} (hs : I s)
    (hstep : ∀ s, ∀ a ∈ as, I s → I (step s a)) : I (run step s as) := by
  induction as generalizing s with
  | nil => exact hs
  | cons a as ih =>
    apply ih (hstep s a (by simp) hs)
    intro s b hb
    exact hstep s b (by simp [hb])

/-- Appending an action asks for the property in one more state. -/
theorem always_concat (as : List α) (a : α) :
    Always step P s (as ++ [a]) ↔ Always step P s as ∧ P (step (run step s as) a) := by
  constructor
  · intro h
    refine ⟨fun pre hp ↦ h pre (hp.trans (List.prefix_append _ _)), ?_⟩
    rw [← run_concat step s as a]
    exact h _ (List.prefix_refl _)
  · rintro ⟨h, hl⟩ pre hp
    rcases List.prefix_concat_iff.mp hp with he | hp
    · rw [he, run_concat]
      exact hl
    · exact h pre hp

/-- Appending an action asks for one more guard. -/
theorem guarded_concat (as : List α) (a : α) :
    Guarded step G s (as ++ [a]) ↔ Guarded step G s as ∧ G (run step s as) a := by
  constructor
  · intro h
    refine ⟨fun pre b hp ↦ h pre b (hp.trans (List.prefix_append _ _)), ?_⟩
    exact h as a (List.prefix_refl _)
  · rintro ⟨h, hl⟩ pre b hp
    rcases List.prefix_concat_iff.mp hp with he | hp
    · obtain ⟨rfl, hb⟩ := List.append_inj' he rfl
      cases hb
      exact hl
    · exact h pre b hp

/-- The property of the empty run is the property of its only state. -/
@[simp] theorem always_nil : Always step P s [] ↔ P s := by
  simp [Always]

/-- The empty run has no action to guard. -/
@[simp] theorem guarded_nil : Guarded step G s [] := by
  intro pre a hp
  simp at hp

/-- The first action is guarded where the run starts, the others where it leads. -/
theorem guarded_cons (a : α) (as : List α) :
    Guarded step G s (a :: as) ↔ G s a ∧ Guarded step G (step s a) as := by
  constructor
  · intro h
    refine ⟨h [] a (by simp), ?_⟩
    intro pre b hp
    exact h (a :: pre) b (by simpa using hp)
  · rintro ⟨ha, h⟩ pre b hp
    cases pre with
    | nil =>
      have hb : b = a := by simpa using hp
      rw [hb]
      exact ha
    | cons c pre =>
      obtain ⟨hc, hp'⟩ := List.cons_prefix_cons.mp hp
      rw [hc]
      exact h pre b hp'

/-- A safety property that holds along a run holds where it ends. -/
theorem Always.last {as : List α} (h : Always step P s as) : P (run step s as) :=
  h as (List.prefix_refl _)

/-- A property that every guarded step keeps holds at the end of a guarded run. -/
theorem Guarded.run_invariant (I : σ → Prop) {as : List α} (h : Guarded step G s as) (hs : I s)
    (hstep : ∀ s a, I s → G s a → I (step s a)) : I (run step s as) := by
  induction as generalizing s with
  | nil => exact hs
  | cons a as ih =>
    obtain ⟨ha, h⟩ := (guarded_cons a as).mp h
    exact ih h (hstep s a hs ha)

/-- A property that follows from one that every guarded step keeps holds all along a guarded
run. -/
theorem Guarded.always (I : σ → Prop) {as : List α} (h : Guarded step G s as) (hs : I s)
    (hstep : ∀ s a, I s → G s a → I (step s a)) (hP : ∀ s, I s → P s) : Always step P s as := by
  intro pre hpre
  have hguard : Guarded step G s pre := fun p a hp ↦ h p a (hp.trans hpre)
  exact hP _ (hguard.run_invariant I hs hstep)

/-- Among the runs whose steps all meet `H`, a guard that is exactly what a step needs to
keep `P` characterises those along which `P` always holds. `I` is an invariant of all of
them, guarded or not. -/
theorem Guarded.always_iff {H : σ → α → Prop} (I : σ → Prop) {as : List α}
    (hH : Guarded step H s as) (hI : I s) (hP : P s)
    (hkeep : ∀ s a, I s → H s a → I (step s a))
    (hexact : ∀ s a, I s → H s a → P s → (P (step s a) ↔ G s a)) :
    Always step P s as ↔ Guarded step G s as := by
  induction as using List.reverseRecOn with
  | nil => simp [hP]
  | append_singleton as a ih =>
    obtain ⟨hH, ha⟩ := (guarded_concat as a).mp hH
    have ih := ih hH
    rw [always_concat, guarded_concat, ih]
    -- a guarded run keeps `P` up to its last action, where the guard is exact
    apply and_congr_right
    intro hg
    exact hexact _ a (hH.run_invariant I hI hkeep) ha (ih.mpr hg).last

/-- The same for a list of actions whose steps are known one by one. -/
theorem always_iff_guarded (I : σ → Prop) (hI : I s) (hP : P s) {as : List α}
    (hkeep : ∀ s, ∀ a ∈ as, I s → I (step s a))
    (hexact : ∀ s, ∀ a ∈ as, I s → P s → (P (step s a) ↔ G s a)) :
    Always step P s as ↔ Guarded step G s as := by
  have hmem : Guarded step (fun _ a ↦ a ∈ as) s as := by
    intro pre a hp
    exact hp.subset (by simp)
  apply hmem.always_iff I hI hP
  · intro s a hs ha
    exact hkeep s a ha hs
  · intro s a hs ha
    exact hexact s a ha hs

end Rules

end RtcClient.Lib
