import Mathlib.Init

/-!
# Pre- and postconditions of programs that throw

A program over a state either returns or throws, and keeps what it has done to the state in
both cases, as C++ does. A triple says what holds after each of the two; the rules below
follow the program text.
-/

namespace RtcClient.Lib

universe u

variable {ε σ α β : Type u}

/-- From a state with `P`, the program returns a value and a state with `Q`, or throws in a
state with `E`. -/
def Triple (P : σ → Prop) (x : EStateM ε σ α) (Q : α → σ → Prop) (E : ε → σ → Prop) : Prop :=
  ∀ s, P s → match x.run s with
    | .ok a s' => Q a s'
    | .error e s' => E e s'

namespace Triple

variable {P P' : σ → Prop} {x : EStateM ε σ α} {f : α → EStateM ε σ β} {Q Q' : α → σ → Prop}
  {R : β → σ → Prop} {E E' : ε → σ → Prop}

/-- The rule of consequence. -/
theorem conseq (h : Triple P x Q E) (hP : ∀ s, P' s → P s) (hQ : ∀ a s, Q a s → Q' a s)
    (hE : ∀ e s, E e s → E' e s) : Triple P' x Q' E' := by
  intro s hs
  have hx := h s (hP s hs)
  revert hx
  cases x.run s with
  | ok a s' => exact hQ a s'
  | error e s' => exact hE e s'

/-- The precondition may be a stronger one. -/
theorem pre (h : Triple P x Q E) (hP : ∀ s, P' s → P s) : Triple P' x Q E :=
  h.conseq hP (fun _ _ h ↦ h) (fun _ _ h ↦ h)

/-- What holds after a return may be a weaker fact. -/
theorem post (h : Triple P x Q E) (hQ : ∀ a s, Q a s → Q' a s) : Triple P x Q' E :=
  h.conseq (fun _ h ↦ h) hQ (fun _ _ h ↦ h)

/-- What holds after a throw may be a weaker fact. -/
theorem except (h : Triple P x Q E) (hE : ∀ e s, E e s → E' e s) : Triple P x Q E' :=
  h.conseq (fun _ h ↦ h) (fun _ _ h ↦ h) hE

/-- A value is returned at once. -/
theorem ret {a : α} (h : ∀ s, P s → Q a s) : Triple P (pure a : EStateM ε σ α) Q E := h

/-- Something is thrown at once. -/
theorem raise {e : ε} (h : ∀ s, P s → E e s) : Triple P (throw e : EStateM ε σ α) Q E := h

/-- One program after the other. -/
theorem bind (hx : Triple P x Q E) (hf : ∀ a, Triple (Q a) (f a) R E) :
    Triple P (x >>= f) R E := by
  intro s hs
  have hx := hx s hs
  rw [EStateM.run_bind]
  revert hx
  cases x.run s with
  | ok a s' => exact hf a s'
  | error e s' => exact id

/-- The program that follows is looked at from the state that was read. -/
theorem bind_get {f : σ → EStateM ε σ β} (hf : ∀ s₀, P s₀ → Triple (· = s₀) (f s₀) R E) :
    Triple P (get >>= f) R E :=
  fun s hs ↦ hf s hs s rfl

/-- A write to the state. -/
theorem modify {g : σ → σ} {Q : PUnit → σ → Prop} (h : ∀ s, P s → Q ⟨⟩ (g s)) :
    Triple P (modify g : EStateM ε σ PUnit) Q E := h

/-- A computation that does not look at the state. -/
theorem lift {y : Except ε α} (hok : ∀ a s, y = .ok a → P s → Q a s)
    (herror : ∀ e s, y = .error e → P s → E e s) : Triple P (ofExcept y : EStateM ε σ α) Q E := by
  intro s hs
  cases y with
  | ok a => exact hok a s rfl hs
  | error e => exact herror e s rfl hs

/-- What a handler does after a failure, in the state in which it happened. -/
theorem tryCatch {handle : ε → EStateM ε σ α} {F : ε → σ → Prop} (hx : Triple P x Q F)
    (hh : ∀ e, Triple (F e) (handle e) Q E) : Triple P (tryCatch x handle) Q E := by
  intro s hs
  have hx := hx s hs
  have hrun : (MonadExcept.tryCatch x handle : EStateM ε σ α).run s =
      match x.run s with
      | .ok a s' => .ok a s'
      | .error e s' => (handle e).run s' := by
    change EStateM.tryCatch x handle s = _
    unfold EStateM.tryCatch
    cases hr : x s with
    | ok a s' => simp only [EStateM.run, hr]
    | error e s' => simp only [EStateM.run, hr]; rfl
  change match (MonadExcept.tryCatch x handle : EStateM ε σ α).run s with
    | .ok a s' => Q a s'
    | .error e s' => E e s'
  rw [hrun]
  revert hx
  cases x.run s with
  | ok a s' => exact id
  | error e s' => exact hh e s'

/-- A program is looked at from each state that it may start in. -/
theorem of_eq (h : ∀ s₀, P s₀ → Triple (· = s₀) x Q E) : Triple P x Q E :=
  fun s hs ↦ h s hs s rfl

end Triple

/-- How a program ends, without its result. -/
def outcome (x : EStateM ε σ α) (s : σ) : Option ε × σ :=
  match x.run s with
  | .ok _ s' => (none, s')
  | .error e s' => (some e, s')

/-- What a triple says about the end of a program. -/
theorem Triple.outcome {P Q : σ → Prop} {x : EStateM ε σ α} {E : ε → σ → Prop} {s : σ}
    (h : Triple P x (fun _ ↦ Q) E) (hs : P s) :
    ((outcome x s).1 = none ∧ Q (outcome x s).2) ∨
      ∃ e, (outcome x s).1 = some e ∧ E e (outcome x s).2 := by
  have hx := h s hs
  unfold Lib.outcome
  revert hx
  cases x.run s with
  | ok a s' => exact fun hq ↦ .inl ⟨rfl, hq⟩
  | error e s' => exact fun he ↦ .inr ⟨e, rfl, he⟩

end RtcClient.Lib
