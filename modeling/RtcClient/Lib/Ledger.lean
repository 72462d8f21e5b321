import Mathlib.Data.List.Count
import Mathlib.Data.List.Range

/-!
# Ledgers of created and disposed objects

A ledger lists the kinds of the objects created so far, whose positions are their names, and
the names disposed so far. A program that owns the names of a list, its *held* objects, keeps
the ledger balanced when every object is held once or was disposed once, and not both. A
balanced ledger is conserved, with every object disposed exactly once, when nothing is held.
-/

namespace RtcClient.Lib

universe u

variable {κ : Type u}

/-- The kinds of the objects created, in the order of their names, and the names disposed. -/
structure Ledger (κ : Type u) where
  created : List κ := []
  disposed : List Nat := []
  deriving DecidableEq, Repr

namespace Ledger

/-- Name of the next object. -/
def fresh (l : Ledger κ) : Nat := l.created.length

/-- Adds an object of kind `k`, which is called `l.fresh`. -/
def create (l : Ledger κ) (k : κ) : Ledger κ := { l with created := l.created ++ [k] }

/-- Records one more disposal of `n`. -/
def dispose (l : Ledger κ) (n : Nat) : Ledger κ := { l with disposed := l.disposed ++ [n] }

/-- Names of the objects of kind `k`. -/
def ofKind [DecidableEq κ] (l : Ledger κ) (k : κ) : List Nat :=
  (List.range l.fresh).filter fun n ↦ l.created[n]? = some k

/-- Every object created has been disposed exactly once. -/
def Conserved (l : Ledger κ) : Prop := ∀ n < l.fresh, l.disposed.count n = 1

instance (l : Ledger κ) : Decidable l.Conserved :=
  inferInstanceAs (Decidable (∀ n < l.fresh, l.disposed.count n = 1))

/-- Every object created is held once or was disposed once, and not both; nothing else is held
or was disposed. -/
def Balanced (l : Ledger κ) (held : List Nat) : Prop :=
  ∀ n, l.disposed.count n + held.count n = if n < l.fresh then 1 else 0

/-- Each object takes one name. -/
@[simp] theorem fresh_create (l : Ledger κ) (k : κ) : (l.create k).fresh = l.fresh + 1 := by
  simp [fresh, create]

/-- A new object is not disposed. -/
@[simp] theorem disposed_create (l : Ledger κ) (k : κ) : (l.create k).disposed = l.disposed := rfl

/-- Disposal takes no name. -/
@[simp] theorem fresh_dispose (l : Ledger κ) (n : Nat) : (l.dispose n).fresh = l.fresh := rfl

section Kinds

variable [DecidableEq κ]

-- Objects created later have larger names.
private theorem filter_create (l : Ledger κ) (k k' : κ) :
    (List.range l.fresh).filter (fun n ↦ (l.create k').created[n]? = some k) = l.ofKind k := by
  apply List.filter_congr
  intro n hn
  rw [create, List.getElem?_append_left (List.mem_range.mp hn)]

/-- A new object is the last of its kind. -/
theorem ofKind_create_self (l : Ledger κ) (k : κ) :
    (l.create k).ofKind k = l.ofKind k ++ [l.fresh] := by
  have hlast : (l.create k).created[l.fresh]? = some k := by simp [create, fresh]
  rw [ofKind, fresh_create, List.range_succ, List.filter_append, filter_create]
  simp [hlast]

/-- It is none of another kind. -/
theorem ofKind_create_of_ne (l : Ledger κ) {k k' : κ} (h : k' ≠ k) :
    (l.create k').ofKind k = l.ofKind k := by
  have hlast : (l.create k').created[l.fresh]? = some k' := by simp [create, fresh]
  rw [ofKind, fresh_create, List.range_succ, List.filter_append, filter_create]
  simp [hlast, h]

/-- A disposed object has been created all the same. -/
@[simp] theorem ofKind_dispose (l : Ledger κ) (k : κ) (n : Nat) :
    (l.dispose n).ofKind k = l.ofKind k := rfl

end Kinds

section Rules

variable {l : Ledger κ} {held held' : List Nat} {n : Nat}

/-- Without objects nothing is owed. -/
theorem balanced_empty : Balanced ({} : Ledger κ) [] := by
  intro n
  simp [fresh]

/-- In which order the objects are held does not matter. -/
theorem Balanced.perm (h : l.Balanced held) (hp : held.Perm held') : l.Balanced held' := by
  intro n
  rw [← hp.count_eq]
  exact h n

/-- Whoever creates an object holds it. -/
theorem Balanced.create (h : l.Balanced held) (k : κ) :
    (l.create k).Balanced (l.fresh :: held) := by
  intro n
  have hn := h n
  rw [List.count_cons, fresh_create, disposed_create, ← Nat.add_assoc, hn]
  by_cases hlast : l.fresh = n
  · simp [hlast]
  · have hlt : n < l.fresh + 1 ↔ n < l.fresh := by omega
    simp [hlast, hlt]

/-- An object that is held may be disposed, and is no longer held. -/
theorem Balanced.dispose (h : l.Balanced (n :: held)) : (l.dispose n).Balanced held := by
  intro m
  have hm := h m
  rw [List.count_cons] at hm
  rw [fresh_dispose, Ledger.dispose, List.count_append, List.count_singleton, ← hm]
  omega

/-- What is held has not been disposed. -/
theorem Balanced.not_mem_disposed (h : l.Balanced held) (hn : n ∈ held) : n ∉ l.disposed := by
  have hheld := List.count_pos_iff.mpr hn
  have hcount := h n
  rw [← List.count_eq_zero]
  split at hcount <;> omega

/-- Nothing is missing exactly when nothing is held. -/
theorem Balanced.conserved_iff (h : l.Balanced held) : l.Conserved ↔ held = [] := by
  constructor
  · intro hc
    apply List.eq_nil_iff_forall_not_mem.mpr
    intro n hn
    have hheld := List.count_pos_iff.mpr hn
    have hcount := h n
    split at hcount
    · next hlt =>
      have hone := hc n hlt
      omega
    · omega
  · rintro rfl n hn
    simpa [hn] using h n

end Rules

end Ledger

end RtcClient.Lib
