import Mathlib.Data.Finset.Basic
import Mathlib.Logic.Function.Basic

/-!
# Slots over a keyed table of handles

An owner keeps at most one object in each of its named slots. The factory that makes the
objects files them in a table under a key chosen from outside, so that two objects may
compete for one entry. An object is closed on its own, through its slot, or with all the
others that the table still lists when the factory closes. An owner may also vacate slots
without closing what they hold. The results say what an owner can rely on for any choice of
keys, and when closing the factory reaches everything.
-/

namespace RtcClient.Lib

universe u v w

/-- Objects with an identity, a key to be filed under and the slot they are made for. -/
class Handle (O : Type u) (S : outParam (Type v)) (K : outParam (Type w)) where
  ref : O → Nat
  key : O → K
  home : O → S

open Handle

/-- Slots of the owner, table of the factory, closed identities, and all objects made. -/
structure Slots (O : Type u) (S : Type v) (K : Type w) [Ord K] where
  slot : S → Option O
  table : Std.ExtTreeMap K O
  closed : Finset Nat
  made : List O

namespace Slots

variable {O : Type u} {S : Type v} {K : Type w} [Ord K] [Std.TransOrd K] [Handle O S K]
  [DecidableEq S]

/-- A new object enters its slot and the table. -/
def add (σ : Slots O S K) (o : O) : Slots O S K where
  slot := Function.update σ.slot (home o) (some o)
  table := σ.table.insert (key o) o
  closed := σ.closed
  made := σ.made ++ [o]

/-- Closing an open object erases the entry under its key. -/
def close (σ : Slots O S K) (o : O) : Slots O S K :=
  if ref o ∈ σ.closed then σ
  else { σ with closed := insert (ref o) σ.closed, table := σ.table.erase (key o) }

omit [DecidableEq S] in
/-- Closing an object by itself leaves the slots alone. -/
theorem close_slot (σ : Slots O S K) (o : O) : (σ.close o).slot = σ.slot := by
  unfold close
  split <;> rfl

/-- Close the object of a slot, if there is one, and empty the slot. -/
def release (σ : Slots O S K) (s : S) : Slots O S K :=
  match σ.slot s with
  | none => σ
  | some o => { σ.close o with slot := Function.update σ.slot s none }

/-- A released slot is empty and the others keep what they hold. -/
theorem release_slot (σ : Slots O S K) (s : S) :
    (σ.release s).slot = Function.update σ.slot s none := by
  unfold release
  split
  · next h => rw [← h, Function.update_eq_self]
  · rfl

/-- The owner empties some slots and closes nothing. -/
def vacate (σ : Slots O S K) (ss : List S) : Slots O S K :=
  { σ with slot := fun s ↦ if s ∈ ss then none else σ.slot s }

/-- The factory tells one listed object that it has closed; the object's slot is emptied. -/
def factoryClosed (σ : Slots O S K) (o : O) : Slots O S K :=
  if ref o ∈ σ.closed then σ
  else { σ with
    closed := insert (ref o) σ.closed
    slot := Function.update σ.slot (home o) none }

/-- The factory closes and tells every object its table lists. -/
def closeAll (σ : Slots O S K) : Slots O S K :=
  σ.table.toList.foldl (fun σ kv ↦ σ.factoryClosed kv.2) σ

/-- What holds for any choice of keys; identities are below `n`. -/
structure WF (σ : Slots O S K) (n : Nat) : Prop where
  slot_home : ∀ s o, σ.slot s = some o → home o = s
  slot_made : ∀ s o, σ.slot s = some o → o ∈ σ.made
  slot_open : ∀ s o, σ.slot s = some o → ref o ∉ σ.closed
  made_held : ∀ o ∈ σ.made, ref o ∈ σ.closed ∨ σ.slot (home o) = some o
  made_inj : ∀ o ∈ σ.made, ∀ o' ∈ σ.made, ref o = ref o' → o = o'
  table_held : ∀ (k : K) (o : O), σ.table[k]? = some o → key o = k ∧ σ.slot (home o) = some o
  made_lt : ∀ o ∈ σ.made, ref o < n
  closed_lt : ∀ r ∈ σ.closed, r < n

/-- The table lists every object that a slot holds. -/
def Filed (σ : Slots O S K) : Prop := ∀ s o, σ.slot s = some o → σ.table[key o]? = some o

variable {σ : Slots O S K} {n : Nat}

omit [DecidableEq S] in
/-- Identities stay below a larger bound. -/
theorem WF.mono {m : Nat} (h : σ.WF n) (hnm : n ≤ m) : σ.WF m :=
  { h with
    made_lt := fun o ho ↦ Nat.lt_of_lt_of_le (h.made_lt o ho) hnm
    closed_lt := fun r hr ↦ Nat.lt_of_lt_of_le (h.closed_lt r hr) hnm }

omit [DecidableEq S] in
/-- Nothing has been made yet. -/
theorem WF.of_empty (hs : ∀ s, σ.slot s = none) (ht : σ.table = ∅) (hm : σ.made = [])
    (hc : σ.closed = ∅) : σ.WF n where
  slot_home := by simp [hs]
  slot_made := by simp [hs]
  slot_open := by simp [hs]
  made_held := by simp [hm]
  made_inj := by simp [hm]
  table_held := by simp [ht]
  made_lt := by simp [hm]
  closed_lt := by simp [hc]

omit [DecidableEq S] in
/-- Objects that the table lists under one key are in one slot. -/
theorem Filed.slot_inj (hf : σ.Filed) (h : σ.WF n) {s s' : S} {o o' : O} (hs : σ.slot s = some o)
    (hs' : σ.slot s' = some o') (hk : key o = key o') : s = s' := by
  have ho := hf s o hs
  rw [hk, hf s' o' hs'] at ho
  rw [← Option.some.inj ho] at hs
  exact (h.slot_home s o' hs).symm.trans (h.slot_home s' o' hs')

section Add

variable {o : O}

/-- A fresh object may enter an empty slot under any key. -/
theorem WF.add [Std.LawfulEqOrd K] (h : σ.WF n) (hempty : σ.slot (home o) = none)
    (href : ref o = n) : (σ.add o).WF (n + 1) := by
  have hne : ∀ s m, σ.slot s = some m → s ≠ home o := by
    intro s m hm he
    rw [he, hempty] at hm
    cases hm
  have hold : ∀ s m, σ.slot s = some m → (σ.add o).slot s = some m := by
    intro s m hm
    simp [Slots.add, Function.update_of_ne (hne s m hm), hm]
  have hcases : ∀ s m, (σ.add o).slot s = some m → (m = o ∧ s = home o) ∨ σ.slot s = some m := by
    intro s m hm
    by_cases hs : s = home o
    · subst hs
      simp [Slots.add] at hm
      exact .inl ⟨hm.symm, rfl⟩
    · simp [Slots.add, Function.update_of_ne hs] at hm
      exact .inr hm
  constructor
  · intro s m hm
    rcases hcases s m hm with ⟨rfl, rfl⟩ | hm
    · rfl
    · exact h.slot_home s m hm
  · intro s m hm
    rcases hcases s m hm with ⟨rfl, -⟩ | hm
    · simp [Slots.add]
    · exact List.mem_append_left _ (h.slot_made s m hm)
  · intro s m hm
    rcases hcases s m hm with ⟨rfl, -⟩ | hm
    · intro hc
      have := h.closed_lt _ hc
      omega
    · exact h.slot_open s m hm
  · intro m hm
    rcases List.mem_append.mp hm with hm | hm
    · exact (h.made_held m hm).imp_right (hold _ m)
    · rw [List.mem_singleton.mp hm]
      simp [Slots.add]
  · intro m hm m' hm' he
    have hlt := h.made_lt
    rcases List.mem_append.mp hm with hm | hm <;> rcases List.mem_append.mp hm' with hm' | hm'
    · exact h.made_inj m hm m' hm' he
    · rw [List.mem_singleton.mp hm'] at he
      have := hlt m hm
      omega
    · rw [List.mem_singleton.mp hm] at he
      have := hlt m' hm'
      omega
    · rw [List.mem_singleton.mp hm, List.mem_singleton.mp hm']
  · intro k m hm
    simp only [Slots.add, Std.ExtTreeMap.getElem?_insert] at hm
    split at hm
    · next hk =>
      have hmo : o = m := Option.some.inj hm
      subst hmo
      exact ⟨Std.compare_eq_iff_eq.mp hk, by simp [Slots.add]⟩
    · obtain ⟨hk, hs⟩ := h.table_held k m hm
      exact ⟨hk, hold _ m hs⟩
  · intro m hm
    rcases List.mem_append.mp hm with hm | hm
    · exact Nat.lt_succ_of_lt (h.made_lt m hm)
    · rw [List.mem_singleton.mp hm]
      omega
  · intro r hr
    exact Nat.lt_succ_of_lt (h.closed_lt r hr)

/-- A new object displaces no listed one when no slot holds its key. -/
theorem Filed.add [Std.LawfulEqOrd K] (h : σ.Filed)
    (hkey : ∀ s m, σ.slot s = some m → key m ≠ key o) : (σ.add o).Filed := by
  intro s m hm
  by_cases hs : s = home o
  · subst hs
    simp [Slots.add] at hm
    simp [Slots.add, hm]
  · simp [Slots.add, Function.update_of_ne hs] at hm
    have hk : key o ≠ key m := fun he ↦ hkey s m hm he.symm
    simp [Slots.add, Std.ExtTreeMap.getElem?_insert, hk, h s m hm]

end Add

section Release

/-- An object in a slot is open, so releasing it closes it. -/
theorem WF.release_eq (h : σ.WF n) {s : S} {o : O} (hs : σ.slot s = some o) :
    σ.release s = { σ with
      slot := Function.update σ.slot s none
      closed := insert (ref o) σ.closed
      table := σ.table.erase (key o) } := by
  have hopen := h.slot_open s o hs
  simp [release, hs, close, hopen]

/-- Releasing a slot keeps all that holds for any keys. -/
theorem WF.release [Std.LawfulEqOrd K] (h : σ.WF n) (s : S) : (σ.release s).WF n := by
  cases hs : σ.slot s with
  | none => simpa [Slots.release, hs] using h
  | some o =>
    rw [h.release_eq hs]
    have hhome := h.slot_home s o hs
    have hupd : ∀ s', s' ≠ s → Function.update σ.slot s none s' = σ.slot s' :=
      fun s' he ↦ Function.update_of_ne he _ _
    -- an object that stays in its slot is not the released one
    have hstay : ∀ s' m, Function.update σ.slot s none s' = some m →
        s' ≠ s ∧ σ.slot s' = some m := by
      intro s' m hm
      by_cases he : s' = s
      · subst he
        simp at hm
      · exact ⟨he, (hupd s' he).symm.trans hm⟩
    constructor
    · intro s' m hm
      exact h.slot_home s' m (hstay s' m hm).2
    · intro s' m hm
      exact h.slot_made s' m (hstay s' m hm).2
    · intro s' m hm hc
      obtain ⟨hne, hold⟩ := hstay s' m hm
      rcases Finset.mem_insert.mp hc with hr | hc
      · have hmo := h.made_inj m (h.slot_made s' m hold) o (h.slot_made s o hs) hr
        apply hne
        rw [← h.slot_home s' m hold, hmo, hhome]
      · exact h.slot_open s' m hold hc
    · intro m hm
      rcases h.made_held m hm with hc | hm
      · exact .inl (Finset.mem_insert_of_mem hc)
      · by_cases he : home m = s
        · rw [he, hs] at hm
          rw [← Option.some.inj hm]
          exact .inl (Finset.mem_insert_self _ _)
        · exact .inr ((hupd _ he).trans hm)
    · exact h.made_inj
    · intro k m hm
      rw [Std.ExtTreeMap.getElem?_erase] at hm
      split at hm
      · cases hm
      · next hk =>
        obtain ⟨hkm, hm⟩ := h.table_held k m hm
        refine ⟨hkm, ?_⟩
        by_cases he : home m = s
        · rw [he, hs] at hm
          rw [Option.some.inj hm, hkm] at hk
          exact absurd (Std.compare_self (a := k)) hk
        · exact (hupd _ he).trans hm
    · exact h.made_lt
    · intro r hr
      rcases Finset.mem_insert.mp hr with rfl | hr
      · exact h.made_lt o (h.slot_made s o hs)
      · exact h.closed_lt r hr

/-- Releasing a slot keeps the objects of the other slots listed. -/
theorem Filed.release [Std.LawfulEqOrd K] (hf : σ.Filed) (h : σ.WF n) (s : S) :
    (σ.release s).Filed := by
  cases hs : σ.slot s with
  | none => simpa [Slots.release, hs] using hf
  | some o =>
    rw [h.release_eq hs]
    intro s' m hm
    by_cases he : s' = s
    · subst he
      simp at hm
    · simp only [Function.update_of_ne he] at hm
      have hk : key o ≠ key m := fun hk ↦ he (hf.slot_inj h hs hm hk).symm
      rw [Std.ExtTreeMap.getElem?_erase]
      simp [hk, hf s' m hm]

end Release

section Vacate

omit [Std.TransOrd K] [Handle O S K] in
/-- Nothing is vacated by an empty list. -/
@[simp] theorem vacate_nil (σ : Slots O S K) : σ.vacate [] = σ := by
  simp [vacate]

omit [Std.TransOrd K] [Handle O S K] in
/-- Slots may be vacated one after the other. -/
theorem vacate_cons (σ : Slots O S K) (s : S) (ss : List S) :
    σ.vacate (s :: ss) = (σ.vacate [s]).vacate ss := by
  have hslot : (fun s' ↦ if s' ∈ s :: ss then none else σ.slot s') =
      fun s' ↦ if s' ∈ ss then none else if s' ∈ [s] then none else σ.slot s' := by
    funext s'
    by_cases hs : s' = s <;> by_cases hss : s' ∈ ss <;> simp [hs, hss]
  exact congrArg (fun f ↦ Slots.mk f _ _ _) hslot

omit [Std.TransOrd K] in
private theorem factoryClosed_vacate (σ : Slots O S K) (ss : List S) (o : O) :
    (σ.vacate ss).factoryClosed o = (σ.factoryClosed o).vacate ss := by
  unfold factoryClosed
  change (if ref o ∈ σ.closed then σ.vacate ss else _) = _
  split
  · rfl
  · have hslot : Function.update (σ.vacate ss).slot (home o) none =
        fun s ↦ if s ∈ ss then none else Function.update σ.slot (home o) none s := by
      funext s
      by_cases hs : s = home o
      · simp [hs]
      · simp [Function.update_of_ne hs, vacate]
    exact congrArg (fun f ↦ Slots.mk f _ _ _) hslot

/-- Closing the factory does not look at the slots. -/
theorem closeAll_vacate (σ : Slots O S K) (ss : List S) :
    (σ.vacate ss).closeAll = σ.closeAll.vacate ss := by
  unfold closeAll
  exact List.foldl_hom (fun σ : Slots O S K ↦ σ.vacate ss)
    fun σ kv ↦ factoryClosed_vacate σ ss kv.2

end Vacate

section CloseAll

omit [Std.TransOrd K] in
private theorem mem_closed_factoryClosed (o : O) (r : Nat) :
    r ∈ (σ.factoryClosed o).closed ↔ r ∈ σ.closed ∨ ref o = r := by
  unfold factoryClosed
  split
  · next h =>
    constructor
    · exact .inl
    · rintro (hr | rfl)
      · exact hr
      · exact h
  · simp only [Finset.mem_insert]
    constructor
    · rintro (rfl | hr)
      · exact .inr rfl
      · exact .inl hr
    · rintro (hr | rfl)
      · exact .inr hr
      · exact .inl rfl

omit [Std.TransOrd K] in
private theorem mem_closed_foldl (l : List (K × O)) (r : Nat) :
    r ∈ (l.foldl (fun σ kv ↦ σ.factoryClosed kv.2) σ).closed ↔
      r ∈ σ.closed ∨ ∃ kv ∈ l, ref kv.2 = r := by
  induction l generalizing σ with
  | nil => simp
  | cons kv l ih =>
    rw [List.foldl_cons, ih, mem_closed_factoryClosed]
    simp [or_assoc]

omit [Std.TransOrd K] in
private theorem factoryClosed_slot_none (o : O) {s : S} (h : σ.slot s = none) :
    (σ.factoryClosed o).slot s = none := by
  unfold factoryClosed
  split
  · exact h
  · by_cases hs : s = home o
    · simp [hs]
    · simp [Function.update_of_ne hs, h]

omit [Std.TransOrd K] in
private theorem foldl_slot_none (l : List (K × O)) {s : S} (h : σ.slot s = none) :
    (l.foldl (fun σ kv ↦ σ.factoryClosed kv.2) σ).slot s = none := by
  induction l generalizing σ with
  | nil => exact h
  | cons kv l ih => exact ih (factoryClosed_slot_none kv.2 h)

omit [Std.TransOrd K] in
private theorem foldl_slot_of_mem {l : List (K × O)} {kv : K × O} (hmem : kv ∈ l)
    (hopen : ref kv.2 ∉ σ.closed)
    (hsame : ∀ kv' ∈ l, ref kv'.2 = ref kv.2 → home kv'.2 = home kv.2) :
    (l.foldl (fun σ kv ↦ σ.factoryClosed kv.2) σ).slot (home kv.2) = none := by
  induction l generalizing σ with
  | nil => cases hmem
  | cons kv' l ih =>
    rw [List.foldl_cons]
    by_cases hr : ref kv'.2 = ref kv.2
    · -- the first entry of this identity empties the slot
      apply foldl_slot_none
      have hh := hsame kv' (by simp) hr
      rw [← hr] at hopen
      simp [factoryClosed, hopen, hh]
    · apply ih
      · rcases List.mem_cons.mp hmem with rfl | hmem
        · exact absurd rfl hr
        · exact hmem
      · rw [mem_closed_factoryClosed]
        rintro (hc | hc)
        · exact hopen hc
        · exact hr hc
      · intro kv'' hkv
        exact hsame kv'' (List.mem_cons_of_mem _ hkv)

/-- Closing the factory closes what was closed and what the table lists. -/
theorem mem_closed_closeAll [Std.LawfulEqOrd K] (r : Nat) :
    r ∈ σ.closeAll.closed ↔ r ∈ σ.closed ∨ ∃ (k : K) (o : O), σ.table[k]? = some o ∧ ref o = r := by
  rw [closeAll, mem_closed_foldl]
  constructor
  · rintro (h | ⟨⟨k, o⟩, hmem, hr⟩)
    · exact .inl h
    · exact .inr ⟨k, o, Std.ExtTreeMap.mem_toList_iff_getElem?_eq_some.mp hmem, hr⟩
  · rintro (h | ⟨k, o, hmem, hr⟩)
    · exact .inl h
    · exact .inr ⟨(k, o), Std.ExtTreeMap.mem_toList_iff_getElem?_eq_some.mpr hmem, hr⟩

/-- Closing the factory empties the slot of every object the table lists. -/
theorem WF.closeAll_slot [Std.LawfulEqOrd K] (h : σ.WF n) {k : K} {o : O}
    (ho : σ.table[k]? = some o) : σ.closeAll.slot (home o) = none := by
  have hheld : ∀ (k : K) (o : O), (k, o) ∈ σ.table.toList → σ.slot (home o) = some o := by
    intro k o hmem
    exact (h.table_held k o (Std.ExtTreeMap.mem_toList_iff_getElem?_eq_some.mp hmem)).2
  have hmem := Std.ExtTreeMap.mem_toList_iff_getElem?_eq_some.mpr ho
  have hs := hheld k o hmem
  apply foldl_slot_of_mem hmem (h.slot_open _ o hs)
  rintro ⟨k', o'⟩ hmem' hr
  have hmade := h.slot_made _ o' (hheld k' o' hmem')
  rw [h.made_inj o' hmade o (h.slot_made _ o hs) hr]

omit [Std.TransOrd K] in
private theorem foldl_made (l : List (K × O)) :
    (l.foldl (fun σ kv ↦ σ.factoryClosed kv.2) σ).made = σ.made := by
  induction l generalizing σ with
  | nil => rfl
  | cons kv l ih =>
    rw [List.foldl_cons, ih]
    unfold factoryClosed
    split <;> rfl

/-- Closing the factory makes nothing. -/
theorem closeAll_made : σ.closeAll.made = σ.made := foldl_made _

/-- A factory whose table is empty has nothing to tell. -/
theorem closeAll_of_empty (h : σ.table = ∅) : σ.closeAll = σ := by
  have hlist : σ.table.toList = [] := by
    rw [h]
    rfl
  rw [closeAll, hlist, List.foldl_nil]

/-- An empty slot stays empty when the factory closes. -/
theorem closeAll_slot_none {s : S} (h : σ.slot s = none) : σ.closeAll.slot s = none :=
  foldl_slot_none _ h

/-- The table lists what the slots hold exactly when closing the factory closes every object
ever made, whichever slots were vacated before, and then every slot is empty. -/
theorem WF.vacate_closeAll_complete_iff [Std.LawfulEqOrd K] (h : σ.WF n) (ss : List S) :
    ((∀ o ∈ σ.made, ref o ∈ (σ.vacate ss).closeAll.closed) ∧
      ∀ s, (σ.vacate ss).closeAll.slot s = none) ↔ σ.Filed := by
  rw [closeAll_vacate]
  constructor
  · rintro ⟨hclosed, -⟩ s o hs
    have hmade := h.slot_made s o hs
    rcases (mem_closed_closeAll _).mp (hclosed o hmade) with hc | ⟨k, m, hm, hr⟩
    · exact absurd hc (h.slot_open s o hs)
    · obtain ⟨hk, hheld⟩ := h.table_held k m hm
      have hmo := h.made_inj m (h.slot_made _ m hheld) o hmade hr
      rw [← hmo, hk]
      exact hm
  · intro hf
    constructor
    · intro o ho
      change ref o ∈ σ.closeAll.closed
      rw [mem_closed_closeAll]
      rcases h.made_held o ho with hc | hs
      · exact .inl hc
      · exact .inr ⟨key o, o, hf _ o hs, rfl⟩
    · intro s
      have hempty : σ.closeAll.slot s = none := by
        cases hs : σ.slot s with
        | none => exact closeAll_slot_none hs
        | some o =>
          rw [← h.slot_home s o hs]
          exact h.closeAll_slot (hf s o hs)
      simp [vacate, hempty]

/-- Closing the factory closes every object ever made and empties every slot exactly when
the table lists the objects the slots hold. -/
theorem WF.closeAll_complete_iff [Std.LawfulEqOrd K] (h : σ.WF n) :
    ((∀ o ∈ σ.made, ref o ∈ σ.closeAll.closed) ∧ ∀ s, σ.closeAll.slot s = none) ↔ σ.Filed := by
  have hiff := h.vacate_closeAll_complete_iff []
  rwa [vacate_nil] at hiff

end CloseAll

end Slots

end RtcClient.Lib
