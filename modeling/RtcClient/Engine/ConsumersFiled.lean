import RtcClient.Engine.DestroySteps

/-!
# Held and listed consumers

`mConsumers` and the consumer table of the receive transport hold the same consumers, all of
them open: a consumer enters both when it is made and leaves both when the server closes it
(`RtcEngineEx.java:999–1010,1032–1045`).
-/

namespace RtcClient.Engine

open RtcClient.Native RtcClient.Store RtcClient.Lib

/-- The consumers held in `mConsumers` are the listed ones, under their own ids, open and
pairwise different. -/
structure ConsumersFiled (e : RtcEngineEx) : Prop where
  listed : ∀ c : String, (e.mConsumers[c]?).map (·.mConsumer) = e.openConsumers[c]?
  own : ∀ (c : String) (h : ConsumerHolder), e.mConsumers[c]? = some h → h.mConsumer.id = c
  opened : ∀ (c : String) (h : ConsumerHolder), e.mConsumers[c]? = some h →
    h.mConsumer.ref ∉ e.closedConsumers
  ref_lt : ∀ (c : String) (h : ConsumerHolder), e.mConsumers[c]? = some h →
    h.mConsumer.ref < e.nextRef
  ref_inj : ∀ (c c' : String) (h h' : ConsumerHolder), e.mConsumers[c]? = some h →
    e.mConsumers[c']? = some h' → h.mConsumer.ref = h'.mConsumer.ref → c = c'
  closed_lt : ∀ r ∈ e.closedConsumers, r < e.nextRef

/-- A step that leaves the consumers alone. -/
structure ConsumersKept (e e' : RtcEngineEx) : Prop where
  mConsumers : e'.mConsumers = e.mConsumers
  openConsumers : e'.openConsumers = e.openConsumers
  closedConsumers : e'.closedConsumers = e.closedConsumers
  nextRef : e.nextRef ≤ e'.nextRef

namespace ConsumersFiled

variable {e e' : RtcEngineEx}

/-- Such steps keep the agreement. -/
theorem kept (h : ConsumersFiled e) (hk : ConsumersKept e e') : ConsumersFiled e' where
  listed := by
    rw [hk.mConsumers, hk.openConsumers]
    exact h.listed
  own := by
    rw [hk.mConsumers]
    exact h.own
  opened := by
    rw [hk.mConsumers, hk.closedConsumers]
    exact h.opened
  ref_lt := by
    rw [hk.mConsumers]
    intro c holder hc
    exact Nat.lt_of_lt_of_le (h.ref_lt c holder hc) hk.nextRef
  ref_inj := by
    rw [hk.mConsumers]
    exact h.ref_inj
  closed_lt := by
    rw [hk.closedConsumers]
    intro r hr
    exact Nat.lt_of_lt_of_le (h.closed_lt r hr) hk.nextRef

-- A new consumer enters both tables under its id.
private theorem insert (h : ConsumersFiled e) {id : String} (holder : ConsumerHolder)
    (hid : holder.mConsumer.id = id) (href : holder.mConsumer.ref = e.nextRef)
    (hm : e'.mConsumers = e.mConsumers.insert id holder)
    (ho : e'.openConsumers = e.openConsumers.insert id holder.mConsumer)
    (hc : e'.closedConsumers = e.closedConsumers) (hn : e'.nextRef = e.nextRef + 1) :
    ConsumersFiled e' := by
  have hcases : ∀ (c : String) (x : ConsumerHolder), e'.mConsumers[c]? = some x →
      (c = id ∧ x = holder) ∨ (c ≠ id ∧ e.mConsumers[c]? = some x) := by
    intro c x hx
    rw [hm, Std.ExtTreeMap.getElem?_insert] at hx
    by_cases hcid : c = id
    · rw [hcid] at hx
      simp at hx
      exact .inl ⟨hcid, hx.symm⟩
    · simp [Ne.symm hcid] at hx
      exact .inr ⟨hcid, hx⟩
  constructor
  · intro c
    rw [hm, ho, Std.ExtTreeMap.getElem?_insert, Std.ExtTreeMap.getElem?_insert, ← h.listed c]
    split <;> rfl
  · intro c x hx
    rcases hcases c x hx with ⟨rfl, rfl⟩ | ⟨-, hx⟩
    · exact hid
    · exact h.own c x hx
  · intro c x hx
    rw [hc]
    rcases hcases c x hx with ⟨-, rfl⟩ | ⟨-, hx⟩
    · intro hr
      rw [href] at hr
      exact Nat.lt_irrefl _ (h.closed_lt _ hr)
    · exact h.opened c x hx
  · intro c x hx
    rw [hn]
    rcases hcases c x hx with ⟨-, rfl⟩ | ⟨-, hx⟩
    · rw [href]
      exact Nat.lt_succ_self _
    · exact Nat.lt_succ_of_lt (h.ref_lt c x hx)
  · intro c c' x x' hx hx' hr
    -- the new identity is above all the others
    rcases hcases c x hx with ⟨rfl, rfl⟩ | ⟨-, hx⟩ <;>
      rcases hcases c' x' hx' with ⟨hc', rfl⟩ | ⟨-, hx'⟩
    · exact hc'.symm
    · have hlt := h.ref_lt c' x' hx'
      rw [← hr, href] at hlt
      exact absurd hlt (Nat.lt_irrefl _)
    · have hlt := h.ref_lt c x hx
      rw [hr, href] at hlt
      exact absurd hlt (Nat.lt_irrefl _)
    · exact h.ref_inj c c' x x' hx hx' hr
  · rw [hc, hn]
    intro r hr
    exact Nat.lt_succ_of_lt (h.closed_lt r hr)

-- A held consumer is closed and leaves both tables.
private theorem erase (h : ConsumersFiled e) {id : String} {holder : ConsumerHolder}
    (hheld : e.mConsumers[id]? = some holder) (hm : e'.mConsumers = e.mConsumers.erase id)
    (ho : e'.openConsumers = e.openConsumers.erase id)
    (hc : e'.closedConsumers = Insert.insert holder.mConsumer.ref e.closedConsumers)
    (hn : e'.nextRef = e.nextRef) : ConsumersFiled e' := by
  have hcases : ∀ (c : String) (x : ConsumerHolder), e'.mConsumers[c]? = some x →
      c ≠ id ∧ e.mConsumers[c]? = some x := by
    intro c x hx
    rw [hm, Std.ExtTreeMap.getElem?_erase] at hx
    by_cases hcid : c = id
    · rw [hcid] at hx
      simp at hx
    · simp [Ne.symm hcid] at hx
      exact ⟨hcid, hx⟩
  constructor
  · intro c
    rw [hm, ho, Std.ExtTreeMap.getElem?_erase, Std.ExtTreeMap.getElem?_erase, ← h.listed c]
    split <;> rfl
  · intro c x hx
    exact h.own c x (hcases c x hx).2
  · intro c x hx hr
    obtain ⟨hne, hx⟩ := hcases c x hx
    rw [hc] at hr
    rcases Finset.mem_insert.mp hr with hr | hr
    · exact hne (h.ref_inj c id x holder hx hheld hr)
    · exact h.opened c x hx hr
  · intro c x hx
    rw [hn]
    exact h.ref_lt c x (hcases c x hx).2
  · intro c c' x x' hx hx'
    exact h.ref_inj c c' x x' (hcases c x hx).2 (hcases c' x' hx').2
  · rw [hc, hn]
    intro r hr
    rcases Finset.mem_insert.mp hr with rfl | hr
    · exact h.ref_lt id holder hheld
    · exact h.closed_lt r hr

/-- Consumers that agree are slots over the transport's table, all of them filed. -/
theorem slots (h : ConsumersFiled e) :
    (e.consumerSlots (e.mConsumers.toList.map (·.2.mConsumer))).WF e.nextRef ∧
      (e.consumerSlots (e.mConsumers.toList.map (·.2.mConsumer))).Filed := by
  have hslot : ∀ (c : String) (x : Consumer), (e.mConsumers[c]?).map (·.mConsumer) = some x →
      ∃ holder, e.mConsumers[c]? = some holder ∧ holder.mConsumer = x := by
    intro c x hx
    exact Option.map_eq_some_iff.mp hx
  have hmade : ∀ x ∈ e.mConsumers.toList.map (·.2.mConsumer),
      ∃ (c : String) (holder : ConsumerHolder), e.mConsumers[c]? = some holder ∧
        holder.mConsumer = x := by
    intro x hx
    obtain ⟨⟨c, holder⟩, hmem, rfl⟩ := List.mem_map.mp hx
    exact ⟨c, holder, Std.ExtTreeMap.mem_toList_iff_getElem?_eq_some.mp hmem, rfl⟩
  constructor
  · constructor
    · intro c x hx
      obtain ⟨holder, hh, rfl⟩ := hslot c x hx
      exact h.own c holder hh
    · intro c x hx
      obtain ⟨holder, hh, rfl⟩ := hslot c x hx
      exact List.mem_map.mpr
        ⟨(c, holder), Std.ExtTreeMap.mem_toList_iff_getElem?_eq_some.mpr hh, rfl⟩
    · intro c x hx
      obtain ⟨holder, hh, rfl⟩ := hslot c x hx
      exact h.opened c holder hh
    · intro x hx
      obtain ⟨c, holder, hh, rfl⟩ := hmade x hx
      refine .inr ?_
      change (e.mConsumers[holder.mConsumer.id]?).map (·.mConsumer) = some holder.mConsumer
      rw [h.own c holder hh, hh]
      rfl
    · intro x hx x' hx' hr
      obtain ⟨c, holder, hh, rfl⟩ := hmade x hx
      obtain ⟨c', holder', hh', rfl⟩ := hmade x' hx'
      have hcc := h.ref_inj c c' holder holder' hh hh' hr
      rw [hcc, hh'] at hh
      rw [Option.some.inj hh]
    · intro c x hx
      have hx' : e.openConsumers[c]? = some x := hx
      rw [← h.listed c] at hx'
      obtain ⟨holder, hh, rfl⟩ := hslot c x hx'
      have hid := h.own c holder hh
      refine ⟨hid, ?_⟩
      change (e.mConsumers[holder.mConsumer.id]?).map (·.mConsumer) = some holder.mConsumer
      rw [hid, hh]
      rfl
    · intro x hx
      obtain ⟨c, holder, hh, rfl⟩ := hmade x hx
      exact h.ref_lt c holder hh
    · exact h.closed_lt
  · intro c x hx
    obtain ⟨holder, hh, rfl⟩ := hslot c x hx
    change e.openConsumers[holder.mConsumer.id]? = some holder.mConsumer
    rw [h.own c holder hh, ← h.listed c, hh]
    rfl

/-- Handling a notification keeps the agreement. -/
theorem handleNotification (h : ConsumersFiled e) (n : Notification)
    (o : RecvTransport.ConsumeOutcome) : ConsumersFiled (e.handleNotification n o).engine := by
  cases n with
  | userConsumerClosed consumerId kind =>
    simp only [RtcEngineEx.handleNotification, RtcEngineEx.onConsumerClosed]
    split
    · exact h
    · next holder hheld =>
      have hopen := h.opened consumerId holder hheld
      have hid := h.own consumerId holder hheld
      -- the held consumer is open, so `Consumer::Close` takes it off the transport's table
      have herase : ∀ e₁, e₁ = ({ e with mConsumers := e.mConsumers.erase consumerId } :
          RtcEngineEx).closeConsumer holder.mConsumer → ConsumersFiled e₁ := by
        rintro e₁ rfl
        refine h.erase hheld ?_ ?_ ?_ ?_ <;> unfold RtcEngineEx.closeConsumer <;>
          rw [if_neg (by exact hopen)]
        unfold RtcEngineEx.openConsumers
        cases e.mRecvTransport with
        | none =>
          apply Std.ExtTreeMap.ext_getElem?
          intro c
          simp
        | some t => simp [RecvTransport.onClose, hid]
      have hfiled := herase _ rfl
      split
      · exact hfiled.kept ⟨rfl, rfl, rfl, Nat.le_refl _⟩
      · exact hfiled.kept ⟨rfl, rfl, rfl, Nat.le_refl _⟩
  | createUserConsumer msg =>
    simp only [RtcEngineEx.handleNotification, RtcEngineEx.onNewConsumer]
    split
    · exact h
    · next t ht =>
      split
      · exact h
      · exact h
      · next c t' hc =>
        unfold RecvTransport.consume at hc
        split at hc
        · cases hc
        · cases hc
        · next kind _ =>
          cases hc
          simp only [RtcEngineEx.addConsumer]
          split <;> refine h.insert ⟨msg.userId, ⟨e.nextRef, msg.id, msg.producerId, kind⟩⟩
            rfl rfl rfl ?_ rfl rfl <;>
            simp [RtcEngineEx.openConsumers, RtcEngineEx.callback, RtcEngineEx.emit, ht,
              RecvTransport.addConsumer]
  | createUserTextConsumer msg =>
    simp only [RtcEngineEx.handleNotification, RtcEngineEx.onNewDataConsumer]
    split
    · exact h
    · next t ht =>
      split
      · exact h
      · next d t' hd =>
        unfold RecvTransport.consumeData at hd
        split at hd
        · cases hd
        · cases hd
        · cases hd
          refine h.kept ⟨rfl, ?_, rfl, Nat.le_succ _⟩
          simp [RtcEngineEx.openConsumers, ht, RecvTransport.addDataConsumer]
  | _ => exact h.kept ⟨rfl, rfl, rfl, Nat.le_refl _⟩

end ConsumersFiled

end RtcClient.Engine
