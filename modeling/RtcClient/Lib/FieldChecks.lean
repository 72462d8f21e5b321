import RtcClient.Lib.Json
import RtcClient.Lib.Checked

/-!
# Checks that run member by member

A validator walks over the members it knows. At each one it throws, leaves the member alone,
puts a default there, changes the value in place, or erases it. When no member is visited
twice and each visit accepts what it has left behind, the whole validator accepts its own
result and changes nothing in it.
-/

namespace RtcClient.Lib

universe u

variable {ε : Type u}

/-- What a check does to the member it visits. -/
inductive Act where
  | keep
  | put (v : Json)
  | update (v : Json)
  | erase

/-- Change the value under a key in place, if there is one. -/
def Members.update : Members Json → String → Json → Members Json
  | [], _, _ => []
  | (k', v') :: m, k, v => if k = k' then (k, v) :: m else (k', v') :: Members.update m k v

/-- The members after an act. -/
def Act.apply (m : Members Json) (k : String) : Act → Members Json
  | keep => m
  | put v => m.set k v
  | update v => m.update k v
  | erase => m.erase k

/-- The check of one member. -/
structure FieldCheck (ε : Type u) where
  key : String
  check : Option Json → Except ε Act

/-- Run a check on an object. -/
def FieldCheck.run (c : FieldCheck ε) (m : Members Json) : Except ε (Members Json) := do
  return (← c.check (m.find? c.key)).apply m c.key

/-- Run checks one after another. -/
def runChecks (cs : List (FieldCheck ε)) (m : Members Json) : Except ε (Members Json) :=
  cs.foldlM (fun m c ↦ c.run m) m

section Kinds

variable (key : String) (p : Json → Bool) (e : ε)

/-- The member has to be there and valid. -/
def mandatory : FieldCheck ε where
  key := key
  check
    | some v => if p v then .ok .keep else .error e
    | none => .error e

/-- The member has to be there and valid, and then to pass a second test with its own error. -/
def mandatoryWhere (q : Json → Bool) (e' : ε) : FieldCheck ε where
  key := key
  check
    | some v => if p v then if q v then .ok .keep else .error e' else .error e
    | none => .error e

/-- The member has to be valid if it is there. -/
def whenPresent : FieldCheck ε where
  key := key
  check
    | some v => if p v then .ok .keep else .error e
    | none => .ok .keep

/-- A member that is absent or not valid is overwritten. -/
def orDefault (default : Json) : FieldCheck ε where
  key := key
  check
    | some v => .ok (if p v then .keep else .put default)
    | none => .ok (.put default)

/-- A member that is absent gets a value, and one that is there has to be valid. -/
def presentOr (default : Json) : FieldCheck ε where
  key := key
  check
    | some v => if p v then .ok .keep else .error e
    | none => .ok (.put default)

/-- A member that must not be there. -/
def erased : FieldCheck ε where
  key := key
  check
    | some _ => .ok .erase
    | none => .ok .keep

/-- A member that is computed. -/
def overridden (s : String) : FieldCheck ε where
  key := key
  check
    | some (.str t) => .ok (if t = s then .keep else .put (.str s))
    | _ => .ok (.put (.str s))

end Kinds

section Nested

variable (key : String) (f : Json → Except ε Json)

/-- An array whose elements are checked and changed in place; `absent` decides what happens
without one, and `invalid` with a value that is not an array. -/
def arrayOf (absent invalid : Except ε Act) : FieldCheck ε where
  key := key
  check
    | some (.arr l) => do return .update (.arr (← l.mapM f))
    | some _ => invalid
    | none => absent

/-- An array with at least one element, all of which are checked and changed in place. -/
def nonemptyArrayOf (e : ε) : FieldCheck ε where
  key := key
  check
    | some (.arr (v :: l)) => do return .update (.arr (← (v :: l).mapM f))
    | _ => .error e

/-- An object that is checked and changed in place. -/
def objectOf (absent invalid : Except ε Act) : FieldCheck ε where
  key := key
  check
    | some (.obj m) => do return .update (← f (.obj m))
    | some _ => invalid
    | none => absent

/-- An object whose members are only looked at; a value that is not an object is overwritten
with an empty one. -/
def membersOf (check : String × Json → Except ε Unit) : FieldCheck ε where
  key := key
  check
    | some (.obj m) => do
      m.forM check
      return .keep
    | _ => .ok (.put (.obj []))

end Nested

section Acts

variable {k k' : String}

private theorem Members.find?_update (m : Members Json) (k k' : String) (v : Json) :
    (m.update k v).find? k' = if k' = k then (m.find? k).map fun _ ↦ v else m.find? k' := by
  induction m with
  | nil => simp [Members.update]
  | cons kv m ih =>
    obtain ⟨k₁, v₁⟩ := kv
    simp only [Members.update]
    split
    · next hk =>
      subst hk
      by_cases h : k' = k <;> simp [Members.find?_cons, h]
    · next hk =>
      rw [Members.find?_cons, ih, Members.find?_cons, Members.find?_cons, if_neg hk]
      by_cases h : k' = k
      · rw [if_pos h, if_pos h, if_neg (h ▸ hk)]
      · rw [if_neg h, if_neg h]

/-- Writing the value that is there changes nothing. -/
theorem Members.update_of_find?_eq {m : Members Json} {v : Json} (h : m.find? k = some v) :
    m.update k v = m := by
  induction m with
  | nil => rfl
  | cons kv m ih =>
    obtain ⟨k₁, v₁⟩ := kv
    rw [Members.find?_cons] at h
    simp only [Members.update]
    split at h
    · next hk =>
      obtain rfl := Option.some.inj h
      rw [if_pos hk, hk]
    · next hk => rw [if_neg hk, ih h]

/-- The member after an act. -/
def Act.result (v : Option Json) : Act → Option Json
  | keep => v
  | put w => some w
  | update w => v.map fun _ ↦ w
  | erase => none

private theorem Act.find?_apply_self (m : Members Json) (k : String) (a : Act) :
    (a.apply m k).find? k = a.result (m.find? k) := by
  cases a with
  | keep => rfl
  | put v => exact Members.find?_set_self m k v
  | update v => rw [Act.apply, Members.find?_update, if_pos rfl]; rfl
  | erase => exact Members.find?_erase_self m k

/-- An act changes no other member. -/
theorem Act.find?_apply_of_ne (h : k' ≠ k) (m : Members Json) (a : Act) :
    (a.apply m k).find? k' = m.find? k' := by
  cases a with
  | keep => rfl
  | put v => exact Members.find?_set_of_ne h m v
  | update v => rw [Act.apply, Members.find?_update, if_neg h]
  | erase => exact Members.find?_erase_of_ne h m

end Acts

namespace FieldCheck

variable {c : FieldCheck ε} {cs : List (FieldCheck ε)} {m m' : Members Json}

/-- The check passes over the member and leaves it as it is. -/
def Accepts (c : FieldCheck ε) (v : Option Json) : Prop :=
  c.check v = .ok .keep ∨ ∃ w, v = some w ∧ c.check v = .ok (.update w)

/-- What the check leaves behind, it accepts. -/
def Settles (c : FieldCheck ε) : Prop := ∀ v a, c.check v = .ok a → c.Accepts (a.result v)

private theorem run_eq_ok : c.run m = .ok m' ↔
    ∃ a, c.check (m.find? c.key) = .ok a ∧ a.apply m c.key = m' := by
  rw [FieldCheck.run, bind_eq_ok]
  simp only [pure_eq_ok]

private theorem Accepts.run (h : c.Accepts (m.find? c.key)) : c.run m = .ok m := by
  rcases h with h | ⟨w, hw, h⟩
  · exact run_eq_ok.mpr ⟨.keep, h, rfl⟩
  · exact run_eq_ok.mpr ⟨.update w, h, Members.update_of_find?_eq hw⟩

private theorem runChecks_cons : runChecks (c :: cs) m = .ok m' ↔
    ∃ m₁, c.run m = .ok m₁ ∧ runChecks cs m₁ = .ok m' := by
  rw [runChecks, List.foldlM_cons, bind_eq_ok]
  rfl

/-- Checks change only the members they are for. -/
theorem find?_runChecks_of_notMem {k : String} (hk : k ∉ cs.map FieldCheck.key)
    (h : runChecks cs m = .ok m') : m'.find? k = m.find? k := by
  induction cs generalizing m with
  | nil =>
    rw [runChecks, List.foldlM_nil, pure_eq_ok] at h
    rw [h]
  | cons c cs ih =>
    rw [List.map_cons, List.mem_cons, not_or] at hk
    obtain ⟨m₁, h₁, h⟩ := runChecks_cons.mp h
    obtain ⟨a, -, rfl⟩ := run_eq_ok.mp h₁
    rw [ih hk.2 h, Act.find?_apply_of_ne hk.1]

/-- The member of a check is what its act made of it. -/
theorem find?_runChecks_of_mem (hkeys : (cs.map FieldCheck.key).Nodup) (hc : c ∈ cs)
    (h : runChecks cs m = .ok m') :
    ∃ a, c.check (m.find? c.key) = .ok a ∧ m'.find? c.key = a.result (m.find? c.key) := by
  induction cs generalizing m with
  | nil => cases hc
  | cons d cs ih =>
    rw [List.map_cons, List.nodup_cons] at hkeys
    obtain ⟨m₁, h₁, h⟩ := runChecks_cons.mp h
    obtain ⟨a, ha, rfl⟩ := run_eq_ok.mp h₁
    rcases List.mem_cons.mp hc with rfl | hc
    · exact ⟨a, ha, by rw [find?_runChecks_of_notMem hkeys.1 h, Act.find?_apply_self]⟩
    · have hne : c.key ≠ d.key := fun he ↦ hkeys.1 (he ▸ List.mem_map_of_mem hc)
      simpa only [Act.find?_apply_of_ne hne] using ih hkeys.2 hc h

/-- Checks that all accept change nothing. -/
theorem runChecks_of_accepts (h : ∀ c ∈ cs, c.Accepts (m.find? c.key)) :
    runChecks cs m = .ok m := by
  induction cs with
  | nil => rfl
  | cons c cs ih =>
    exact runChecks_cons.mpr ⟨m, (h c (by simp)).run, ih fun c hc ↦ h c (by simp [hc])⟩

/-- A validator of checks that settle, no two for one member, accepts its own result. -/
theorem runChecks_runChecks (hkeys : (cs.map FieldCheck.key).Nodup) (hs : ∀ c ∈ cs, c.Settles)
    (h : runChecks cs m = .ok m') : runChecks cs m' = .ok m' := by
  refine runChecks_of_accepts fun c hc ↦ ?_
  obtain ⟨a, ha, hm'⟩ := find?_runChecks_of_mem hkeys hc h
  rw [hm']
  exact hs c hc _ a ha

end FieldCheck

section Settle

variable (key : String) (p : Json → Bool) (e : ε)

open FieldCheck

/-- A valid member is kept. -/
theorem mandatory_settles : (mandatory key p e).Settles := by
  intro v a h
  cases v with
  | none => cases h
  | some v =>
    simp only [mandatory] at h
    split at h
    · next hp => cases h; exact .inl (if_pos hp)
    · cases h

/-- A member that passes both tests is kept. -/
theorem mandatoryWhere_settles (q : Json → Bool) (e' : ε) :
    (mandatoryWhere key p e q e').Settles := by
  intro v a h
  cases v with
  | none => cases h
  | some v =>
    simp only [mandatoryWhere] at h
    split at h
    · next hp =>
      split at h
      · next hq => cases h; exact .inl (by simp [mandatoryWhere, Act.result, hp, hq])
      · cases h
    · cases h

/-- An absent or valid member is kept. -/
theorem whenPresent_settles : (whenPresent key p e).Settles := by
  intro v a h
  cases v with
  | none => cases h; exact .inl rfl
  | some v =>
    simp only [whenPresent] at h
    split at h
    · next hp => cases h; exact .inl (if_pos hp)
    · cases h

variable {default : Json}

/-- A default that is valid is kept. -/
theorem orDefault_settles (hd : p default) : (orDefault (ε := ε) key p default).Settles := by
  have hput : (orDefault (ε := ε) key p default).Accepts (some default) := .inl (by
    simp [orDefault, hd])
  intro v a h
  cases v with
  | none => cases h; exact hput
  | some v =>
    simp only [orDefault] at h
    cases h
    by_cases hp : p v
    · simp only [hp, if_true]
      exact .inl (by simp [orDefault, Act.result, hp])
    · simpa [hp, Act.result] using hput

/-- A value for an absent member that is valid is kept. -/
theorem presentOr_settles (hd : p default) : (presentOr key p e default).Settles := by
  intro v a h
  cases v with
  | none => cases h; exact .inl (if_pos hd)
  | some v =>
    simp only [presentOr] at h
    split at h
    · next hp => cases h; exact .inl (if_pos hp)
    · cases h

/-- An erased member stays away. -/
theorem erased_settles : (erased (ε := ε) key).Settles := by
  intro v a h
  cases v with
  | none => cases h; exact .inl rfl
  | some v => cases h; exact .inl rfl

/-- A computed member is computed again. -/
theorem overridden_settles (s : String) : (overridden (ε := ε) key s).Settles := by
  have hput : (overridden (ε := ε) key s).Accepts (some (.str s)) := .inl (by simp [overridden])
  intro v a h
  simp only [overridden] at h
  split at h
  · next t =>
    cases h
    by_cases ht : t = s
    · simpa [ht, Act.result] using hput
    · simpa [ht, Act.result] using hput
  · cases h; exact hput

variable {f : Json → Except ε Json} {absent invalid : Except ε Act}

/-- A pass over a list whose results it accepts. -/
theorem mapM_of_settled (hf : ∀ v w, f v = .ok w → f w = .ok w) {l l' : List Json}
    (h : l.mapM f = .ok l') : l'.mapM f = .ok l' := by
  rw [mapM_eq_ok] at h ⊢
  induction h with
  | nil => exact .nil
  | cons h _ ih => exact .cons (hf _ _ h) ih

/-- Without an array, the check throws or puts an empty one. -/
theorem arrayOf_settles (hf : ∀ v w, f v = .ok w → f w = .ok w)
    (habsent : ∀ a, absent = .ok a → a = .put (.arr []))
    (hinvalid : ∀ a, invalid = .ok a → a = .put (.arr [])) :
    (arrayOf key f absent invalid).Settles := by
  have hput : (arrayOf key f absent invalid).Accepts (some (.arr [])) :=
    .inr ⟨.arr [], rfl, rfl⟩
  intro v a h
  simp only [arrayOf] at h
  split at h
  · next l =>
    obtain ⟨l', hl, h⟩ := bind_eq_ok.mp h
    cases h
    refine .inr ⟨.arr l', rfl, bind_eq_ok.mpr ⟨l', mapM_of_settled hf hl, rfl⟩⟩
  · rw [hinvalid a h]
    exact hput
  · rw [habsent a h]
    exact hput

/-- An array keeps its elements. -/
theorem nonemptyArrayOf_settles (hf : ∀ v w, f v = .ok w → f w = .ok w) :
    (nonemptyArrayOf key f e).Settles := by
  intro v a h
  simp only [nonemptyArrayOf] at h
  split at h
  · next v l =>
    obtain ⟨l', hl, h⟩ := bind_eq_ok.mp h
    cases h
    have hl' := mapM_of_settled hf hl
    cases mapM_eq_ok.mp hl with
    | @cons _ w _ l' =>
      exact .inr ⟨.arr (w :: l'), rfl, bind_eq_ok.mpr ⟨_, hl', rfl⟩⟩
  · cases h

/-- Without an object, the check throws or puts one that is accepted. -/
theorem objectOf_settles (m₀ : Members Json)
    (hf : ∀ m w, f (.obj m) = .ok w → ∃ m', w = .obj m' ∧ f w = .ok w)
    (hm₀ : f (.obj m₀) = .ok (.obj m₀))
    (habsent : ∀ a, absent = .ok a → a = .put (.obj m₀))
    (hinvalid : ∀ a, invalid = .ok a → a = .put (.obj m₀)) :
    (objectOf key f absent invalid).Settles := by
  have hput : (objectOf key f absent invalid).Accepts (some (.obj m₀)) :=
    .inr ⟨.obj m₀, rfl, bind_eq_ok.mpr ⟨_, hm₀, rfl⟩⟩
  intro v a h
  simp only [objectOf] at h
  split at h
  · next m =>
    obtain ⟨w, hw, h⟩ := bind_eq_ok.mp h
    cases h
    obtain ⟨m', rfl, hw'⟩ := hf m w hw
    exact .inr ⟨.obj m', rfl, bind_eq_ok.mpr ⟨_, hw', rfl⟩⟩
  · rw [hinvalid a h]
    exact hput
  · rw [habsent a h]
    exact hput

/-- An object that is looked at stays as it is. -/
theorem membersOf_settles (check : String × Json → Except ε Unit) :
    (membersOf key check).Settles := by
  intro v a h
  simp only [membersOf] at h
  split at h
  · next m =>
    obtain ⟨_, hm, h'⟩ := bind_eq_ok.mp h
    cases h'
    exact .inl h
  · cases h
    exact .inl rfl

end Settle

section Checked

variable {key : String} {p : Json → Bool} {e : ε} {cs : List (FieldCheck ε)} {m m' : Members Json}

open FieldCheck

/-- A member that has to be there and valid is so in the result. -/
theorem find?_of_mandatory (hkeys : (cs.map FieldCheck.key).Nodup) (hc : mandatory key p e ∈ cs)
    (h : runChecks cs m = .ok m') : ∃ v, m'.find? key = some v ∧ p v := by
  obtain ⟨a, ha, hm'⟩ := find?_runChecks_of_mem hkeys hc h
  simp only [mandatory] at ha hm'
  split at ha
  · next v hv =>
    split at ha
    · next hp =>
      cases ha
      exact ⟨v, hm'.trans hv, hp⟩
    · cases ha
  · cases ha

/-- So is one that has to pass a second test. -/
theorem find?_of_mandatoryWhere {q : Json → Bool} {e' : ε} (hkeys : (cs.map FieldCheck.key).Nodup)
    (hc : mandatoryWhere key p e q e' ∈ cs) (h : runChecks cs m = .ok m') :
    ∃ v, m'.find? key = some v ∧ p v ∧ q v := by
  obtain ⟨a, ha, hm'⟩ := find?_runChecks_of_mem hkeys hc h
  simp only [mandatoryWhere] at ha hm'
  split at ha
  · next v hv =>
    split at ha
    · next hp =>
      split at ha
      · next hq =>
        cases ha
        exact ⟨v, hm'.trans hv, hp, hq⟩
      · cases ha
    · cases ha
  · cases ha

/-- An array that must have elements has some in the result, and all of them are results. -/
theorem find?_of_nonemptyArrayOf {f : Json → Except ε Json} (hkeys : (cs.map FieldCheck.key).Nodup)
    (hc : nonemptyArrayOf key f e ∈ cs) (h : runChecks cs m = .ok m') :
    ∃ l, m'.find? key = some (.arr l) ∧ l ≠ [] ∧ ∀ w ∈ l, ∃ v, f v = .ok w := by
  obtain ⟨a, ha, hm'⟩ := find?_runChecks_of_mem hkeys hc h
  simp only [nonemptyArrayOf] at ha hm'
  split at ha
  · next v l hv =>
    obtain ⟨l', hl, ha⟩ := bind_eq_ok.mp ha
    cases ha
    rw [hv] at hm'
    refine ⟨l', hm', ?_, fun w hw ↦ ?_⟩
    · rintro rfl
      cases mapM_eq_ok.mp hl
    · obtain ⟨u, -, hu⟩ := exists_of_mem_mapM hl hw
      exact ⟨u, hu⟩
  · cases ha

end Checked

end RtcClient.Lib
