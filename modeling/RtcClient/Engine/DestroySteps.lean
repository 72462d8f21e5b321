import RtcClient.Engine.Destroy
import RtcClient.Engine.Links
import RtcClient.Lib.Run

/-!
# What the destroy task does

The native closes tell exactly the objects their transport lists, so the task is
`Slots.closeAll` on the producers and on the data producers of the send transport, and on the
consumers of the receive transport. The data producers whose channels were open have left their
fields before (`Slots.vacate`). The receive transport is closed before the task walks
`mConsumers` (`RtcEngineEx.java:1330,1342`).
-/

namespace RtcClient.Engine

open RtcClient.Native RtcClient.Store RtcClient.Lib

instance : Handle Consumer String String := ⟨Consumer.ref, Consumer.id, Consumer.id⟩

namespace RtcEngineEx

/-- Consumers the receive transport lists. -/
def openConsumers (e : RtcEngineEx) : Std.ExtTreeMap String Consumer :=
  (e.mRecvTransport.map (·.consumers)).getD ∅

/-- The entries of `mConsumers` over the consumer table of the receive transport, with the
consumers that count as made. -/
def consumerSlots (e : RtcEngineEx) (made : List Consumer) : Slots Consumer String String where
  slot c := (e.mConsumers[c]?).map (·.mConsumer)
  table := e.openConsumers
  closed := e.closedConsumers
  made := made

/-- Fields that other threads and engines read. -/
def flags (e : RtcEngineEx) : Bool × Option String × Option Ref :=
  (e.mClosed, e.serverRoomId, e.mStartupClient)

/-- The sending side and the flags. -/
def sendView (e : RtcEngineEx) :
    Slots Producer Kind String × Slots DataProducer Label String × Bool × Option String ×
      Option Ref :=
  (e.producerSlots, e.dataSlots, e.flags)

/-- The labels of the data channels that the send transport has open. -/
def openLabels (e : RtcEngineEx) : List Label :=
  ((e.mSendTransport.map (·.channels)).getD []).map (·.label)

/-- The receiving side. -/
def recvView (e : RtcEngineEx) :
    Std.ExtTreeMap String ConsumerHolder × Option RecvTransport × Finset Ref :=
  (e.mConsumers, e.mRecvTransport, e.closedConsumers)

/-- How often the track of a consumer was switched off and disposed of. -/
def trackCalls (e : RtcEngineEx) (r : Ref) : Nat × Nat :=
  (e.calls.count (.trackSetEnabled r false), e.calls.count (.trackDispose r))

end RtcEngineEx

namespace RtcEngineEx

variable (e : RtcEngineEx)

/-! ### Single objects -/

private theorem producerSlots_onProducerTransportClose (k : Kind) :
    (e.onProducerTransportClose k).producerSlots =
      { e.producerSlots with slot := Function.update e.mProducer k none } := by
  cases k with
  | video =>
    have hslot : (e.onProducerTransportClose .video).mProducer =
        Function.update e.mProducer .video none := by
      funext k'
      cases k' <;> rfl
    exact congrArg (fun f ↦ Slots.mk f _ _ _) hslot
  | audio =>
    simp only [onProducerTransportClose]
    split
    · next ha =>
      have hself : Function.update e.mProducer .audio none = e.mProducer :=
        Function.update_eq_self_iff.mpr ha.symm
      rw [hself]
      rfl
    · next p _ =>
      have hslot :
          ({ e.removeProducer p.id with mAudioProducer := none } : RtcEngineEx).mProducer =
            Function.update e.mProducer .audio none := by
        funext k'
        cases k' <;> rfl
      exact congrArg (fun f ↦ Slots.mk f _ _ _) hslot

private theorem producerSlots_producerTransportClosed (p : Producer) :
    (e.producerTransportClosed p).producerSlots = e.producerSlots.factoryClosed p := by
  unfold producerTransportClosed Slots.factoryClosed
  change (if p.ref ∈ e.closedProducers then e else _).producerSlots =
    if p.ref ∈ e.closedProducers then e.producerSlots else _
  split
  · rfl
  · exact producerSlots_onProducerTransportClose _ _

private theorem producerTransportClosed_rest (p : Producer) :
    ((e.producerTransportClosed p).dataSlots, (e.producerTransportClosed p).flags,
      (e.producerTransportClosed p).recvView, (e.producerTransportClosed p).calls) =
    (e.dataSlots, e.flags, e.recvView, e.calls) := by
  unfold producerTransportClosed
  split
  · rfl
  · cases p.kind with
    | video => rfl
    | audio =>
      simp only [onProducerTransportClose]
      split <;> rfl

private theorem dataSlots_onDataProducerClose (p : DataProducer) :
    (e.onDataProducerClose p).dataSlots = e.dataSlots.vacate [p.label] := by
  have hslot : (e.onDataProducerClose p).mDataProducer =
      fun l ↦ if l ∈ [p.label] then none else e.mDataProducer l := by
    unfold onDataProducerClose
    funext l
    cases p.label <;> cases l <;> rfl
  unfold onDataProducerClose at hslot ⊢
  cases hp : p.label with
  | chat =>
    rw [hp] at hslot
    exact congrArg (fun f ↦ Slots.mk f _ _ _) hslot
  | bot =>
    rw [hp] at hslot
    exact congrArg (fun f ↦ Slots.mk f _ _ _) hslot

private theorem onDataProducerClose_rest (p : DataProducer) :
    ((e.onDataProducerClose p).producerSlots, (e.onDataProducerClose p).flags,
      (e.onDataProducerClose p).recvView, (e.onDataProducerClose p).calls) =
    (e.producerSlots, e.flags, e.recvView, e.calls) := by
  unfold onDataProducerClose
  cases p.label <;> rfl

private theorem dataSlots_foldl_onDataProducerClose (ps : List DataProducer) :
    (ps.foldl onDataProducerClose e).dataSlots = e.dataSlots.vacate (ps.map (·.label)) := by
  induction ps generalizing e with
  | nil => exact (Slots.vacate_nil _).symm
  | cons p ps ih =>
    rw [List.foldl_cons, ih, dataSlots_onDataProducerClose, List.map_cons]
    exact (Slots.vacate_cons _ _ _).symm

private theorem dataSlots_dataProducerTransportClosed (p : DataProducer) :
    (e.dataProducerTransportClosed p).dataSlots = e.dataSlots.factoryClosed p := by
  unfold dataProducerTransportClosed Slots.factoryClosed
  change (if p.ref ∈ e.closedDataProducers then e else _).dataSlots =
    if p.ref ∈ e.closedDataProducers then e.dataSlots else _
  split
  · rfl
  · have hslot : ∀ e' : RtcEngineEx, ∀ l, (e'.setDataProducer none l).mDataProducer =
        Function.update e'.mDataProducer l none := by
      intro e' l
      funext l'
      cases l <;> cases l' <;> rfl
    obtain ⟨r, id, l⟩ := p
    cases l <;> exact congrArg (fun f ↦ Slots.mk f _ _ _) (hslot _ _)

private theorem dataProducerTransportClosed_rest (p : DataProducer) :
    ((e.dataProducerTransportClosed p).producerSlots, (e.dataProducerTransportClosed p).flags,
      (e.dataProducerTransportClosed p).recvView, (e.dataProducerTransportClosed p).calls) =
    (e.producerSlots, e.flags, e.recvView, e.calls) := by
  unfold dataProducerTransportClosed
  split
  · rfl
  · cases p.label <;> rfl

private theorem consumerSlots_consumerTransportClosed (c : Consumer) (made : List Consumer) :
    (e.consumerTransportClosed c).consumerSlots made =
      (e.consumerSlots made).factoryClosed c := by
  unfold consumerTransportClosed Slots.factoryClosed
  change (if c.ref ∈ e.closedConsumers then e else _).consumerSlots made =
    if c.ref ∈ e.closedConsumers then e.consumerSlots made else _
  split
  · rfl
  · have hslot : (fun x ↦ ((e.mConsumers.erase c.id)[x]?).map (·.mConsumer)) =
        Function.update (fun x ↦ (e.mConsumers[x]?).map (·.mConsumer)) c.id none := by
      funext x
      by_cases hx : x = c.id
      · rw [hx]
        simp
      · rw [Function.update_of_ne hx, Std.ExtTreeMap.getElem?_erase]
        simp [Ne.symm hx]
    exact congrArg (fun f ↦ Slots.mk f _ _ _) hslot

private theorem consumerTransportClosed_rest (c : Consumer) :
    ((e.consumerTransportClosed c).sendView, (e.consumerTransportClosed c).calls) =
      (e.sendView, e.calls) := by
  unfold consumerTransportClosed
  split <;> rfl

/-! ### Transports -/

variable {e}

/-- Closing the send transport vacates the fields of the open channels and closes what its two
tables list. -/
theorem closeSendTransport_spec {t : SendTransport} (ht : e.mSendTransport = some t)
    (hopen : t.closed = false) :
    (e.closeSendTransport t).sendView =
        (e.producerSlots.closeAll, (e.dataSlots.vacate e.openLabels).closeAll, e.flags) ∧
      ((e.closeSendTransport t).recvView, (e.closeSendTransport t).calls) =
        (e.recvView, e.calls) := by
  have hproducers : ({ e with mSendTransport := some t.shut } : RtcEngineEx).producerSlots =
      e.producerSlots := by
    simp only [producerSlots, ht]
    rfl
  have hdata : ({ e with mSendTransport := some t.shut } : RtcEngineEx).dataSlots =
      e.dataSlots := by
    simp only [dataSlots, ht]
    rfl
  have htable : e.producerSlots.table = t.producers := by
    simp only [producerSlots, ht, Option.map_some, Option.getD_some]
  have hdataTable : (e.dataSlots.vacate e.openLabels).table = t.dataProducers := by
    simp only [Slots.vacate, dataSlots, ht, Option.map_some, Option.getD_some]
  have hlabels : e.openLabels = t.channels.map (·.label) := by
    simp only [openLabels, ht, Option.map_some, Option.getD_some]
  unfold closeSendTransport
  simp only [hopen, Bool.false_eq_true, if_false]
  -- channels, producers and data producers in turn; no fold touches the side of another
  generalize hchannels : t.channels.foldl onDataProducerClose
    { e with mSendTransport := some t.shut } = e₀
  have hvacated : e₀.dataSlots = e.dataSlots.vacate e.openLabels := by
    rw [← hchannels, dataSlots_foldl_onDataProducerClose, hdata, hlabels]
  have hrest₀ : (e₀.producerSlots, e₀.flags, e₀.recvView, e₀.calls) =
      (e.producerSlots, e.flags, e.recvView, e.calls) := by
    rw [← hchannels, ← hproducers]
    exact foldl_keeps (fun x : RtcEngineEx ↦ (x.producerSlots, x.flags, x.recvView, x.calls)) _ _
      fun x p ↦ x.onDataProducerClose_rest p
  generalize hfirst : t.producers.toList.foldl (fun e kv ↦ e.producerTransportClosed kv.2) e₀ = e₁
  have hslots : e₁.producerSlots = e.producerSlots.closeAll := by
    rw [← hfirst, Slots.closeAll, htable, ← (Prod.mk.inj hrest₀).1]
    exact (List.foldl_hom producerSlots fun x kv ↦
      (x.producerSlots_producerTransportClosed kv.2).symm).symm
  have hrest : (e₁.dataSlots, e₁.flags, e₁.recvView, e₁.calls) =
      (e₀.dataSlots, e₀.flags, e₀.recvView, e₀.calls) := by
    rw [← hfirst]
    exact foldl_keeps (fun x : RtcEngineEx ↦ (x.dataSlots, x.flags, x.recvView, x.calls)) _ _
      fun x kv ↦ x.producerTransportClosed_rest kv.2
  generalize hsecond : t.dataProducers.toList.foldl
    (fun e kv ↦ e.dataProducerTransportClosed kv.2) e₁ = e₂
  have hslots' : e₂.dataSlots = (e.dataSlots.vacate e.openLabels).closeAll := by
    rw [← hsecond, Slots.closeAll, hdataTable, ← hvacated, ← (Prod.mk.inj hrest).1]
    exact (List.foldl_hom dataSlots fun x kv ↦
      (x.dataSlots_dataProducerTransportClosed kv.2).symm).symm
  have hrest' : (e₂.producerSlots, e₂.flags, e₂.recvView, e₂.calls) =
      (e₁.producerSlots, e₁.flags, e₁.recvView, e₁.calls) := by
    rw [← hsecond]
    exact foldl_keeps (fun x : RtcEngineEx ↦ (x.producerSlots, x.flags, x.recvView, x.calls)) _ _
      fun x kv ↦ x.dataProducerTransportClosed_rest kv.2
  simp only [Prod.mk.injEq] at hrest₀ hrest hrest'
  unfold sendView
  simp only [hslots', hrest', hrest, hrest₀, hslots, and_self]

private theorem sendView_emit (e : RtcEngineEx) {c : Call} (hc : c.Silent) :
    (e.emit c).sendView = e.sendView := by
  have hstill : Still e (e.emitAll [c]) := Still.of_calls e (by simpa using hc)
  have hframe : (e.emit c).producerSlots = e.producerSlots ∧ (e.emit c).dataSlots = e.dataSlots :=
    ⟨hstill.producers, hstill.data⟩
  unfold sendView
  rw [hframe.1, hframe.2]
  rfl

private theorem trackCalls_emit (e : RtcEngineEx) {c : Call} (r : Ref)
    (hc : c ≠ .trackSetEnabled r false) (hc' : c ≠ .trackDispose r) :
    (e.emit c).trackCalls r = e.trackCalls r := by
  simp [trackCalls, emit, List.count_append, hc, hc']

private theorem sendView_dropSend (x : RtcEngineEx) :
    sendView { x.emit .disposeSendTransport with mSendTransport := none } =
      ({ x.producerSlots with table := ∅ }, { x.dataSlots with table := ∅ }, x.flags) := by
  have hp : (x.calls ++ [Call.disposeSendTransport]).filterMap Call.producer =
      x.returnedProducers := by
    rw [List.filterMap_append]
    exact List.append_nil _
  have hd : (x.calls ++ [Call.disposeSendTransport]).filterMap Call.dataProducer =
      x.returnedDataProducers := by
    rw [List.filterMap_append]
    exact List.append_nil _
  refine Prod.ext ?_ (Prod.ext ?_ rfl)
  · exact congrArg (Slots.mk x.mProducer ∅ x.closedProducers) hp
  · exact congrArg (Slots.mk x.mDataProducer ∅ x.closedDataProducers) hd

-- Disposing of the send transport also empties its tables.
private theorem disposeSendTransport_spec
    (hopen : ∀ t, e.mSendTransport = some t → t.closed = false) :
    e.disposeSendTransport.sendView =
        ({ e.producerSlots.closeAll with table := ∅ },
          { (e.dataSlots.vacate e.openLabels).closeAll with table := ∅ }, e.flags) ∧
      e.disposeSendTransport.recvView = e.recvView ∧
        ∀ r, e.disposeSendTransport.trackCalls r = e.trackCalls r := by
  cases ht : e.mSendTransport with
  | none =>
    have hproducers : e.producerSlots.table = ∅ := by
      simp only [producerSlots, ht, Option.map_none, Option.getD_none]
    have hdata : e.dataSlots.table = ∅ := by
      simp only [dataSlots, ht, Option.map_none, Option.getD_none]
    have hself : e.disposeSendTransport = e := by simp only [disposeSendTransport, ht]
    have hlabels : e.openLabels = [] := by
      simp only [openLabels, ht, Option.map_none, Option.getD_none, List.map_nil]
    rw [hself, hlabels, Slots.vacate_nil, Slots.closeAll_of_empty hproducers,
      Slots.closeAll_of_empty hdata, ← hproducers, ← hdata]
    exact ⟨rfl, rfl, fun _ ↦ rfl⟩
  | some t =>
    obtain ⟨hsend, hrest⟩ := closeSendTransport_spec ht (hopen t ht)
    simp only [disposeSendTransport, ht]
    generalize e.closeSendTransport t = x at hsend hrest
    simp only [sendView, Prod.mk.injEq] at hsend hrest
    refine ⟨?_, hrest.1, ?_⟩
    · rw [sendView_dropSend, hsend.1, hsend.2.1, hsend.2.2]
    · intro r
      have hcalls := x.trackCalls_emit (c := .disposeSendTransport) r (by simp) (by simp)
      have hsame : x.trackCalls r = e.trackCalls r := by
        unfold trackCalls
        rw [hrest.2]
      exact hcalls.trans hsame

/-- Closing the receive transport closes the consumers its table lists. -/
theorem closeRecvTransport_spec {t : RecvTransport} (ht : e.mRecvTransport = some t)
    (hopen : t.closed = false) (made : List Consumer) :
    (e.closeRecvTransport t).consumerSlots made = (e.consumerSlots made).closeAll ∧
      ((e.closeRecvTransport t).sendView, (e.closeRecvTransport t).calls) =
        (e.sendView, e.calls) := by
  have hslots : ({ e with mRecvTransport := some t.shut } : RtcEngineEx).consumerSlots made =
      e.consumerSlots made := by
    simp only [consumerSlots, openConsumers, ht]
    rfl
  have htable : (e.consumerSlots made).table = t.consumers := by
    simp only [consumerSlots, openConsumers, ht, Option.map_some, Option.getD_some]
  unfold closeRecvTransport
  simp only [hopen, Bool.false_eq_true, if_false]
  generalize hchannels : t.channels.foldl onDataConsumerClose
    { e with mRecvTransport := some t.shut } = e₀
  have hkept : (e₀.consumerSlots made, e₀.sendView, e₀.calls) =
      (e.consumerSlots made, e.sendView, e.calls) := by
    rw [← hchannels, ← hslots]
    exact foldl_keeps (fun x : RtcEngineEx ↦ (x.consumerSlots made, x.sendView, x.calls)) _ _
      fun _ _ ↦ rfl
  simp only [Prod.mk.injEq] at hkept
  generalize hfirst : t.consumers.toList.foldl (fun e kv ↦ e.consumerTransportClosed kv.2) e₀ = e₁
  have hslots₁ : e₁.consumerSlots made = (e.consumerSlots made).closeAll := by
    rw [← hfirst, Slots.closeAll, htable, ← hkept.1]
    exact (List.foldl_hom (fun x : RtcEngineEx ↦ x.consumerSlots made) fun x kv ↦
      (x.consumerSlots_consumerTransportClosed kv.2 made).symm).symm
  have hrest₁ : (e₁.sendView, e₁.calls) = (e.sendView, e.calls) := by
    rw [← hfirst, ← hkept.2.1, ← hkept.2.2]
    exact foldl_keeps (fun x : RtcEngineEx ↦ (x.sendView, x.calls)) _ _
      fun x kv ↦ x.consumerTransportClosed_rest kv.2
  rw [← hslots₁, ← hrest₁]
  have hsecond := foldl_keeps (fun x : RtcEngineEx ↦ (x.consumerSlots made, x.sendView, x.calls))
    (g := fun x kv ↦ x.dataConsumerTransportClosed kv.2) t.dataConsumers.toList e₁ fun _ _ ↦ rfl
  exact ⟨(Prod.mk.inj hsecond).1, (Prod.mk.inj hsecond).2⟩

-- Disposing of the receive transport leaves the sending side alone.
private theorem sendView_disposeRecvTransport
    (hopen : ∀ t, e.mRecvTransport = some t → t.closed = false) :
    e.disposeRecvTransport.sendView = e.sendView := by
  unfold disposeRecvTransport
  cases ht : e.mRecvTransport with
  | none => rfl
  | some t =>
    have hrest := (closeRecvTransport_spec ht (hopen t ht) []).2
    have hemit := (e.closeRecvTransport t).sendView_emit (c := .disposeRecvTransport)
      (by simp [Call.silent_iff])
    exact hemit.trans (Prod.mk.inj hrest).1

/-- When `mConsumers` and the table agree, the listeners empty `mConsumers`. -/
theorem closeRecvTransport_mConsumers {t : RecvTransport} (ht : e.mRecvTransport = some t)
    (hopen : t.closed = false) {made : List Consumer} {n : Nat}
    (hwf : (e.consumerSlots made).WF n) (hfiled : (e.consumerSlots made).Filed) :
    (e.closeRecvTransport t).mConsumers = ∅ := by
  have hclosed := (closeRecvTransport_spec ht hopen made).1
  generalize e.closeRecvTransport t = x at hclosed
  apply Std.ExtTreeMap.ext_getElem?
  intro c
  have hslot : (x.consumerSlots made).slot c = none := by
    rw [hclosed]
    exact (hwf.closeAll_complete_iff.mpr hfiled).2 c
  rw [Std.ExtTreeMap.getElem?_empty]
  exact Option.map_eq_none_iff.mp hslot

private theorem disposeRecvTransport_spec
    (hopen : ∀ t, e.mRecvTransport = some t → t.closed = false)
    (hrecv : e.mRecvTransport.isSome) {made : List Consumer} {n : Nat}
    (hwf : (e.consumerSlots made).WF n) (hfiled : (e.consumerSlots made).Filed) :
    e.disposeRecvTransport.mConsumers = ∅ ∧
      ∀ r, e.disposeRecvTransport.trackCalls r = e.trackCalls r := by
  obtain ⟨t, ht⟩ := Option.isSome_iff_exists.mp hrecv
  have hrest := (closeRecvTransport_spec ht (hopen t ht) made).2
  have hempty := closeRecvTransport_mConsumers ht (hopen t ht) hwf hfiled
  simp only [disposeRecvTransport, ht]
  generalize e.closeRecvTransport t = x at hempty hrest
  refine ⟨hempty, ?_⟩
  intro r
  have hcalls := x.trackCalls_emit (c := .disposeRecvTransport) r (by simp) (by simp)
  have hsame : x.trackCalls r = e.trackCalls r := by
    unfold trackCalls
    rw [(Prod.mk.inj hrest).2]
  exact hcalls.trans hsame

private theorem releaseConsumers_of_empty (h : e.mConsumers = ∅) : e.releaseConsumers = e := by
  have hlist : e.mConsumers.toList = [] := by
    rw [h]
    rfl
  rw [releaseConsumers, hlist, List.foldl_nil]

private theorem sendView_releaseConsumer (e : RtcEngineEx) (id : String) (holder : ConsumerHolder) :
    (e.releaseConsumer id holder).sendView = e.sendView := by
  have hsilent : ∀ r, (Call.trackSetEnabled r false).Silent ∧ (Call.trackDispose r).Silent := by
    simp [Call.silent_iff]
  unfold releaseConsumer
  simp only
  split
  · have h₁ := e.sendView_emit (hsilent holder.mConsumer.ref).1
    have h₂ := (e.emit (.trackSetEnabled holder.mConsumer.ref false)).sendView_emit
      (hsilent holder.mConsumer.ref).2
    exact h₂.trans h₁
  · rfl

private theorem releaseStartupClient_spec (e : RtcEngineEx) :
    e.releaseStartupClient.sendView =
        (e.producerSlots, e.dataSlots, e.mClosed, e.serverRoomId, none) ∧
      e.releaseStartupClient.recvView = e.recvView ∧
      e.releaseStartupClient.mSendTransport = e.mSendTransport ∧
        ∀ r, e.releaseStartupClient.trackCalls r = e.trackCalls r := by
  unfold releaseStartupClient
  split
  · next hnone =>
    refine ⟨?_, rfl, rfl, fun _ ↦ rfl⟩
    unfold sendView flags
    rw [hnone]
  · have hsend₁ := e.sendView_emit (c := .closeStartupClient)
      (by simp [Call.silent_iff])
    have hsend₂ := (e.emit .closeStartupClient).sendView_emit (c := .processorsClear)
      (by simp [Call.silent_iff])
    have hsend := hsend₂.trans hsend₁
    simp only [sendView, Prod.mk.injEq] at hsend
    refine ⟨Prod.ext hsend.1 (Prod.ext hsend.2.1 rfl), rfl, rfl, ?_⟩
    intro r
    have hcalls₁ := e.trackCalls_emit (c := .closeStartupClient) r (by simp) (by simp)
    have hcalls₂ := (e.emit .closeStartupClient).trackCalls_emit (c := .processorsClear) r
      (by simp) (by simp)
    exact hcalls₂.trans hcalls₁

/-! ### The task -/

/-- On the sending side the task vacates the fields of the open channels, closes what the
transport lists and forgets its tables; of the flags it only clears the client. -/
theorem sendView_destroyTask (h : e.TransportsOpen) :
    e.destroyTask.sendView =
      ({ e.producerSlots.closeAll with table := ∅ },
        { (e.dataSlots.vacate e.openLabels).closeAll with table := ∅ },
        e.mClosed, e.serverRoomId, none) := by
  obtain ⟨hsend, hrecv, htransport, -⟩ := e.releaseStartupClient_spec
  unfold destroyTask disposeTransportDevice
  generalize e.releaseStartupClient = e₁ at hsend hrecv htransport
  have hlabels : e₁.openLabels = e.openLabels := by
    unfold openLabels
    rw [htransport]
  obtain ⟨hsend', hrecv', -⟩ := e₁.disposeSendTransport_spec (by rw [htransport]; exact h.send)
  rw [hlabels] at hsend'
  generalize e₁.disposeSendTransport = e₂ at hsend' hrecv'
  have hopen : ∀ t, e₂.mRecvTransport = some t → t.closed = false := by
    have : e₂.mRecvTransport = e.mRecvTransport := by
      have := hrecv'.trans hrecv
      exact (Prod.mk.inj (Prod.mk.inj this).2).1
    rw [this]
    exact h.recv
  have hrelease : ∀ x : RtcEngineEx, x.releaseConsumers.sendView = x.sendView :=
    fun x ↦ foldl_keeps sendView _ x fun y kv ↦ y.sendView_releaseConsumer kv.1 kv.2
  rw [hrelease]
  have hdevice := ({ e₂.disposeRecvTransport with
    mDevice := { e₂.disposeRecvTransport.mDevice with disposed := true } } :
      RtcEngineEx).sendView_emit (c := .disposeDevice)
    (by simp [Call.silent_iff])
  refine (Eq.trans ?_ (hdevice.trans ((sendView_disposeRecvTransport hopen).trans hsend'))).trans ?_
  · rfl
  · simp only [sendView, Prod.mk.injEq] at hsend
    rw [hsend.1, hsend.2.1, hsend.2.2]

/-- `mClosed` and the room id stay, the client goes. -/
theorem destroyTask_flags (h : e.TransportsOpen) :
    e.destroyTask.mClosed = e.mClosed ∧ e.destroyTask.serverRoomId = e.serverRoomId ∧
      e.destroyTask.mStartupClient = none := by
  have hview := sendView_destroyTask h
  simp only [sendView, flags, Prod.mk.injEq] at hview
  exact hview.2.2

/-- When `mConsumers` and the table of the open receive transport agree, the loop over
`mConsumers` finds nothing left and releases no track. -/
theorem trackCalls_destroyTask (h : e.TransportsOpen) (hrecv : e.mRecvTransport.isSome)
    {made : List Consumer} {n : Nat} (hwf : (e.consumerSlots made).WF n)
    (hfiled : (e.consumerSlots made).Filed) (r : Ref) :
    e.destroyTask.trackCalls r = e.trackCalls r := by
  obtain ⟨-, hrecv₁, htransport, hcalls₁⟩ := e.releaseStartupClient_spec
  unfold destroyTask disposeTransportDevice
  generalize e.releaseStartupClient = e₁ at hrecv₁ htransport hcalls₁
  obtain ⟨-, hrecv₂, hcalls₂⟩ := e₁.disposeSendTransport_spec (by rw [htransport]; exact h.send)
  generalize e₁.disposeSendTransport = e₂ at hrecv₂ hcalls₂
  have hview := hrecv₂.trans hrecv₁
  simp only [recvView, Prod.mk.injEq] at hview
  have hslots : e₂.consumerSlots made = e.consumerSlots made := by
    unfold consumerSlots openConsumers
    rw [hview.1, hview.2.1, hview.2.2]
  obtain ⟨hempty, hcalls₃⟩ := e₂.disposeRecvTransport_spec (by rw [hview.2.1]; exact h.recv)
    (by rw [hview.2.1]; exact hrecv) (by rw [hslots]; exact hwf) (by rw [hslots]; exact hfiled)
  generalize e₂.disposeRecvTransport = e₃ at hempty hcalls₃
  -- nothing is left for the loop over `mConsumers`
  rw [releaseConsumers_of_empty (by exact hempty)]
  have hcalls₄ := e₃.trackCalls_emit (c := .disposeDevice) r (by simp) (by simp)
  rw [← hcalls₁ r, ← hcalls₂ r, ← hcalls₃ r]
  exact hcalls₄

end RtcEngineEx

end RtcClient.Engine
