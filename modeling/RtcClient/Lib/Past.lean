import Mathlib.Data.List.Infix

/-!
# Past-time properties of finite histories

A history is the list of events so far, oldest first. `Since A B` is the past-time
"since" of temporal logic: some event was a `B`, and every event after it an `A`.
With `A` the events that do not concern an object it says that the last event which
does is a `B`. `Precedes a b` says that no `b` happened before the first `a`.
-/

namespace RtcClient.Lib

universe u

variable {α : Type u}

/-- Some event of the history satisfies `B` and every later one satisfies `A`. -/
def Since (A B : α → Prop) (es : List α) : Prop :=
  ∃ pre e post, es = pre ++ e :: post ∧ B e ∧ ∀ x ∈ post, A x

section Rules

variable {A B A' B' : α → Prop}

/-- Nothing has happened in the empty history. -/
@[simp] theorem not_since_nil : ¬ Since A B [] := by
  rintro ⟨pre, e, post, he, -, -⟩
  simp at he

/-- The newest event either starts the interval or lies in it. -/
theorem since_concat (es : List α) (e : α) :
    Since A B (es ++ [e]) ↔ B e ∨ (A e ∧ Since A B es) := by
  constructor
  · rintro ⟨pre, b, post, he, hb, ha⟩
    rcases List.eq_nil_or_concat post with rfl | ⟨post', x, rfl⟩
    · obtain ⟨-, h⟩ := List.append_inj' he rfl
      cases h
      exact .inl hb
    · rw [List.concat_eq_append, ← List.cons_append, ← List.append_assoc] at he
      obtain ⟨hes, h⟩ := List.append_inj' he rfl
      cases h
      refine .inr ⟨ha e (by simp), pre, b, post', hes, hb, ?_⟩
      intro x hx
      exact ha x (by simp [hx])
  · rintro (hb | ⟨ha, pre, b, post, rfl, hb, hpost⟩)
    · exact ⟨es, e, [], rfl, hb, by simp⟩
    · refine ⟨pre, b, post ++ [e], by simp, hb, ?_⟩
      intro x hx
      rcases List.mem_append.mp hx with hx | hx
      · exact hpost x hx
      · rw [List.mem_singleton.mp hx]
        exact ha

/-- The oldest event starts the interval when all later ones lie in it. -/
theorem since_cons (e : α) (es : List α) :
    Since A B (e :: es) ↔ (B e ∧ ∀ x ∈ es, A x) ∨ Since A B es := by
  constructor
  · rintro ⟨pre, b, post, he, hb, ha⟩
    cases pre with
    | nil =>
      cases he
      exact .inl ⟨hb, ha⟩
    | cons c pre =>
      cases he
      exact .inr ⟨pre, b, post, rfl, hb, ha⟩
  · rintro (⟨hb, ha⟩ | ⟨pre, b, post, rfl, hb, ha⟩)
    · exact ⟨[], e, es, rfl, hb, ha⟩
    · exact ⟨e :: pre, b, post, rfl, hb, ha⟩

/-- Both sides of `Since` are monotone. -/
theorem Since.imp {es : List α} (h : Since A B es) (ha : ∀ x, A x → A' x)
    (hb : ∀ x, B x → B' x) : Since A' B' es := by
  obtain ⟨pre, e, post, he, he', hpost⟩ := h
  exact ⟨pre, e, post, he, hb e he', fun x hx ↦ ha x (hpost x hx)⟩

/-- The event `Since` speaks of is an event of the history. -/
theorem Since.exists_mem {es : List α} (h : Since A B es) : ∃ e ∈ es, B e := by
  obtain ⟨pre, e, post, rfl, he, -⟩ := h
  exact ⟨e, by simp, he⟩

end Rules

/-- Every `b` of the history has an `a` before it. -/
def Precedes (a b : α) (es : List α) : Prop := ∀ pre post, es = pre ++ b :: post → a ∈ pre

/-- There is no `b` in the empty history. -/
@[simp] theorem precedes_nil (a b : α) : Precedes a b [] := by
  intro pre post he
  simp at he

/-- The newest event needs an `a` before it if it is a `b`. -/
theorem precedes_concat (a b : α) (es : List α) (e : α) :
    Precedes a b (es ++ [e]) ↔ Precedes a b es ∧ (e = b → a ∈ es) := by
  constructor
  · intro h
    constructor
    · intro pre post he
      exact h pre (post ++ [e]) (by rw [he, List.append_assoc, List.cons_append])
    · intro he
      exact h es [] (by rw [he])
  · rintro ⟨h, hlast⟩ pre post he
    rcases List.eq_nil_or_concat post with rfl | ⟨post', x, rfl⟩
    · obtain ⟨hes, hb⟩ := List.append_inj' he rfl
      cases hb
      rw [← hes]
      exact hlast rfl
    · rw [List.concat_eq_append, ← List.cons_append, ← List.append_assoc] at he
      obtain ⟨hes, -⟩ := List.append_inj' he rfl
      exact h pre post' hes

end RtcClient.Lib
