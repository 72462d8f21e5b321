import Mathlib.Data.List.Nodup

/-!
# Sequences whose free places are taken first

A new element goes to the first place that is free, and to the end when none is. Two parties
that keep such a sequence on their own agree on every place as long as they agree on which
places are free: `map_place` is that statement. One of them may collect its free places in a
queue first; `place_eq_freePlaces` says that taking the head of the queue comes to the same.
-/

namespace RtcClient.Lib

universe u v

variable {α : Type u} {β : Type v}

/-- Put `x` at the first free place, or at the end. -/
def place (free : α → Bool) (x : α) : List α → List α
  | [] => [x]
  | a :: l => if free a then x :: l else a :: place free x l

/-- Where `place` puts an element. -/
theorem getElem?_place_findIdx (free : α → Bool) (x : α) (l : List α) :
    (place free x l)[l.findIdx free]? = some x := by
  induction l with
  | nil => rfl
  | cons a l ih =>
    cases h : free a with
    | true => simp [place, h, List.findIdx_cons]
    | false => simpa [place, h, List.findIdx_cons] using ih

/-- The first free place is taken. -/
theorem place_eq_set (free : α → Bool) (x : α) (l : List α) (h : l.findIdx free < l.length) :
    place free x l = l.set (l.findIdx free) x := by
  induction l with
  | nil => simp at h
  | cons a l ih =>
    cases hf : free a with
    | true => simp [place, hf, List.findIdx_cons]
    | false =>
      simp only [List.findIdx_cons, hf, cond_false, List.length_cons, Nat.add_lt_add_iff_right] at h
      simp [place, hf, List.findIdx_cons, ih h]

/-- Without a free place the list grows. -/
theorem place_eq_append (free : α → Bool) (x : α) (l : List α) (h : ∀ a ∈ l, free a = false) :
    place free x l = l ++ [x] := by
  induction l with
  | nil => rfl
  | cons a l ih =>
    have ha : free a = false := h a (by simp)
    simp [place, ha, ih fun b hb ↦ h b (by simp [hb])]

/-- What is found after `place` was put there or was there before, at the same position. -/
theorem getElem?_place (free : α → Bool) (x : α) (l : List α) (i : Nat) :
    (place free x l)[i]? = if i = l.findIdx free then some x else l[i]? := by
  induction l generalizing i with
  | nil => cases i <;> simp [place]
  | cons a l ih =>
    cases h : free a with
    | true => cases i <;> simp [place, h, List.findIdx_cons]
    | false =>
      cases i with
      | zero => simp [place, h, List.findIdx_cons]
      | succ i => simp [place, h, List.findIdx_cons, ih]

/-- What is there was there, or is new. -/
theorem mem_place {free : α → Bool} {x y : α} {l : List α} (h : y ∈ place free x l) :
    y = x ∨ y ∈ l := by
  induction l with
  | nil => simpa [place] using h
  | cons a l ih =>
    simp only [place] at h
    split at h
    · rcases List.mem_cons.mp h with rfl | h
      · exact .inl rfl
      · exact .inr (by simp [h])
    · rcases List.mem_cons.mp h with rfl | h
      · exact .inr (by simp)
      · exact (ih h).imp_right (by simp +contextual)

/-- The new element is there. -/
theorem mem_place_self (free : α → Bool) (x : α) (l : List α) : x ∈ place free x l :=
  List.mem_of_getElem? (getElem?_place_findIdx free x l)

/-- An element whose place is not free stays. -/
theorem mem_place_of_not_free {free : α → Bool} {x y : α} {l : List α} (hy : y ∈ l)
    (hf : free y = false) : y ∈ place free x l := by
  induction l with
  | nil => simp at hy
  | cons a l ih =>
    simp only [place]
    rcases List.mem_cons.mp hy with rfl | hy
    · simp [hf]
    · split
      · simp [hy]
      · exact List.mem_cons_of_mem _ (ih hy)

/-- A view of the elements that tells which places are free commutes with `place`. -/
theorem map_place {free : α → Bool} {free' : β → Bool} (f : α → β) (x : α) (l : List α)
    (h : ∀ a ∈ l, free' (f a) = free a) :
    (place free x l).map f = place free' (f x) (l.map f) := by
  induction l with
  | nil => rfl
  | cons a l ih =>
    have ha : free' (f a) = free a := h a (by simp)
    cases hf : free a with
    | true => simp [place, hf, ha]
    | false => simp [place, hf, ha, ih fun b hb ↦ h b (by simp [hb])]

/-- The free places in their order. -/
def freePlaces (free : α → Bool) (l : List α) : List Nat :=
  (l.zipIdx.filter fun p ↦ free p.1).map Prod.snd

private theorem head?_filter_zipIdx (free : α → Bool) (l : List α) (k : Nat) :
    (((l.zipIdx k).filter fun p ↦ free p.1).map Prod.snd).head? =
      if l.findIdx free < l.length then some (l.findIdx free + k) else none := by
  induction l generalizing k with
  | nil => simp
  | cons a l ih =>
    rw [List.zipIdx_cons, List.filter_cons]
    cases h : free a with
    | true => simp [List.findIdx_cons, h]
    | false =>
      simp only [h, Bool.false_eq_true, if_false, ih, List.findIdx_cons, cond_false,
        List.length_cons, Nat.add_lt_add_iff_right]
      split
      · congr 1
        omega
      · rfl

/-- The place in terms of the list of free places. -/
theorem place_eq_freePlaces (free : α → Bool) (x : α) (l : List α) :
    place free x l = match freePlaces free l with
      | [] => l ++ [x]
      | i :: _ => l.set i x := by
  have hhead := head?_filter_zipIdx free l 0
  change (freePlaces free l).head? = _ at hhead
  by_cases h : l.findIdx free < l.length
  · rw [if_pos h, Nat.add_zero] at hhead
    cases hq : freePlaces free l with
    | nil => simp [hq] at hhead
    | cons i rest =>
      obtain rfl : i = l.findIdx free := by simpa [hq] using hhead
      exact place_eq_set free x l h
  · rw [if_neg h] at hhead
    have hnone : ∀ a ∈ l, free a = false := by
      intro a ha
      by_contra hf
      exact h (List.findIdx_lt_length.mpr ⟨a, ha, by simpa using hf⟩)
    rw [place_eq_append free x l hnone]
    cases hq : freePlaces free l with
    | nil => rfl
    | cons i rest => simp [hq] at hhead

/-- A new element at one place of a list without duplicates. -/
theorem nodup_of_getElem?_eq_ite {l l' : List α} {i : Nat} {x : α}
    (h : ∀ j, l'[j]? = if j = i then some x else l[j]?) (hl : l.Nodup) (hx : x ∉ l) :
    l'.Nodup := by
  rw [List.nodup_iff_getElem?_ne_getElem?] at hl ⊢
  have hne (j : Nat) : l[j]? ≠ some x := fun hj ↦ hx (List.mem_of_getElem? hj)
  intro j k hjk hk he
  have hk' : l'[k]? ≠ none := by simpa using hk
  rw [h j, h k] at he
  rw [h k] at hk'
  split at he
  · split at he
    · omega
    · exact hne k he.symm
  · split at he
    · exact hne j he
    · next hkn =>
      rw [if_neg hkn] at hk'
      exact hl j k hjk (by simpa using hk') he

/-- The list does not shrink. -/
theorem length_place_le (free : α → Bool) (x : α) (l : List α) :
    l.length ≤ (place free x l).length := by
  induction l with
  | nil => simp
  | cons a l ih =>
    simp only [place]
    split <;> simp [ih]

end RtcClient.Lib
