import RtcClient.Engine.Links
import RtcClient.Engine.MediaWrites
import RtcClient.Engine.RecvMirror
import RtcClient.Engine.SendMirror

/-!
# The room store as a mirror of the open media

Both sides of the store together. The microphone's `onTransportClose` listener removes its
producer from the store; those of the camera and of the consumers do not. So the mirror is
current along a run exactly when no transport closes over a camera producer or over a
consumer.
-/

namespace RtcClient.Engine

open RtcClient.Native RtcClient.Store RtcClient.Lib

namespace RtcEngineEx

variable {e : RtcEngineEx}

private theorem sendKept_onRoomEvent (ev : RoomEvent) : SendKept e (e.onRoomEvent ev) := by
  have hnet : NetFrame e (e.onRoomEvent ev) := by
    cases ev with
    | notify n o => exact e.handleNotification_netFrame n o
    | joinReply users => exact e.onJoinReply_netFrame users
  exact ⟨congrArg Link.send hnet.link, hnet.producers, hnet.nextRef,
    (e.onRoomEvent_store ev).1⟩

private theorem sendKept_closeRecv : SendKept e (e.onStoreEvent .closeRecv) := by
  simp only [onStoreEvent]
  split
  · exact ⟨rfl, rfl, Nat.le_refl _, rfl⟩
  · next t _ =>
    obtain ⟨_, _, _, _, hwrites⟩ := e.closeRecvTransport_writes t
    rw [hwrites]
    exact ⟨rfl, rfl, Nat.le_refl _, rfl⟩

private theorem recvKept_task (env : Environment) (task : MediaTask) :
    RecvKept e (e.mediaStep (env, task)) := by
  have hstep := e.runMediaTask_step env task
  have hframe := hstep.frame
  have hstore := e.runMediaTask_keeps (fun x ↦ (x.mStore.consumers, x.mStore.peers)) ?_ env task
  · exact ⟨hframe.mRecvTransport, hframe.mConsumers, hframe.closedConsumers, hstep.nextRef_le,
      (Prod.mk.inj hstore).1, (Prod.mk.inj hstore).2⟩
  · intro x y hw
    cases hw with
    | track tr k => cases k <;> rfl
    | clear k => cases k <;> rfl
    | setData p l => cases l <;> rfl
    | close p =>
      obtain ⟨_, _, hwrites⟩ := x.closeProducer_writes p
      rw [hwrites]
    | store p => rfl
    | _ => rfl

private theorem recvKept_closeSend : RecvKept e (e.onStoreEvent .closeSend) := by
  simp only [onStoreEvent]
  split
  · exact ⟨rfl, rfl, rfl, Nat.le_refl _, rfl, rfl⟩
  · next t _ =>
    obtain ⟨_, _, _, _, _, _, _, _, hwrites⟩ := e.closeSendTransport_writes t
    rw [hwrites]
    exact ⟨rfl, rfl, rfl, Nat.le_refl _, rfl, rfl⟩

/-- Both mirrors. -/
structure StoreMirror (e : RtcEngineEx) : Prop where
  send : e.SendMirror
  recv : e.RecvMirror

-- One event keeps both mirrors, and the store current exactly when no open transport
-- closes over a camera producer or a consumer.
private theorem StoreMirror.step (h : e.StoreMirror) (ev : StoreEvent) (hids : e.IdsFresh ev) :
    (e.onStoreEvent ev).StoreMirror ∧
      (e.StoreCurrent → ((e.onStoreEvent ev).StoreCurrent ↔ e.ClosesOverNothing ev)) := by
  cases ev with
  | task env task =>
    have hkept := e.recvKept_task env task
    refine ⟨⟨h.send.task env task hids, h.recv.kept hkept⟩, ?_⟩
    intro hcur
    apply iff_of_true _ trivial
    exact ⟨hkept.current_iff.mpr hcur.toConsumersCurrent,
      h.send.listed_task env task hcur.producers⟩
  | room ev =>
    have hkept := e.sendKept_onRoomEvent ev
    obtain ⟨hrecv, hcurrent⟩ := h.recv.room ev hids
    refine ⟨⟨h.send.kept hkept, hrecv⟩, ?_⟩
    intro hcur
    apply iff_of_true
    · exact ⟨hcurrent hcur.toConsumersCurrent, hkept.listed_iff.mpr hcur.producers⟩
    · cases ev <;> trivial
  | closeSend =>
    have hkept := recvKept_closeSend (e := e)
    obtain ⟨hsend, hexact⟩ := h.send.closeSend
    refine ⟨⟨hsend, h.recv.kept hkept⟩, ?_⟩
    intro hcur
    rw [← hexact hcur.producers]
    constructor
    · intro hcur'
      exact hcur'.producers
    · intro hl
      exact ⟨hkept.current_iff.mpr hcur.toConsumersCurrent, hl⟩
  | closeRecv =>
    have hkept := sendKept_closeRecv (e := e)
    obtain ⟨hrecv, hexact⟩ := h.recv.closeRecv
    refine ⟨⟨h.send.kept hkept, hrecv⟩, ?_⟩
    intro hcur
    rw [← hexact hcur.toConsumersCurrent]
    constructor
    · intro hcur'
      exact hcur'.toConsumersCurrent
    · intro hcur'
      exact ⟨hcur', hkept.listed_iff.mpr hcur.producers⟩

/-- A fresh engine is mirrored. -/
theorem StoreFresh.storeMirror (h : e.StoreFresh) : e.StoreMirror where
  send := by
    cases ht : e.mSendTransport with
    | none => exact .closed (by simp [SendOver, ht]) h.noProducer
    | some t =>
      obtain ⟨hd, hc, htable⟩ := h.send t ht
      have hempty : e.producerSlots.table = ∅ := by
        simp only [producerSlots, ht, Option.map_some, Option.getD_some, htable]
      apply SendMirror.opened ⟨t, ht, hd, hc⟩
      · exact .of_empty h.noProducer hempty h.noneMade h.noneClosed
      · intro k p hp
        rw [show e.producerSlots.slot k = none from h.noProducer k] at hp
        cases hp
      · simp [ProducersListed, h.producers, h.noProducer]
  recv := by
    cases ht : e.mRecvTransport with
    | none => exact .closed (by simp [RecvOver, ht]) h.mConsumers
    | some t =>
      obtain ⟨hc, hd, htable⟩ := h.recv t ht
      apply RecvMirror.opened ⟨t, ht, hc, hd⟩
      · constructor <;> simp [h.mConsumers, h.closedConsumers, openConsumers, ht, htable]
      · simp [h.consumers, h.mConsumers]
      · intro p c hl
        exact absurd hl (h.unlisted p c)

/-- And its store is current. -/
theorem StoreFresh.storeCurrent (h : e.StoreFresh) : e.StoreCurrent where
  opened := by simp [h.consumers]
  listed p c hl := absurd hl (h.unlisted p c)
  producers := by simp [ProducersListed, h.producers, h.noProducer]

/-- When no id is taken twice, the store lists open media only in every state of a run
exactly when no open transport closes over a camera producer or over a consumer. -/
theorem storeCurrent_always_iff (hf : e.StoreFresh) {evs : List StoreEvent}
    (hids : Guarded onStoreEvent IdsFresh e evs) :
    Always onStoreEvent StoreCurrent e evs ↔ Guarded onStoreEvent ClosesOverNothing e evs := by
  apply hids.always_iff StoreMirror hf.storeMirror hf.storeCurrent
  · intro x ev hx hfresh
    exact (hx.step ev hfresh).1
  · intro x ev hx hfresh hcur
    exact (hx.step ev hfresh).2 hcur

end RtcEngineEx

open RtcEngineEx

/-- An engine that has just joined is fresh. -/
theorem joinedEngine_storeFresh : joinedEngine.StoreFresh where
  send t ht := by
    rw [← Option.some.inj ht]
    exact ⟨rfl, rfl, rfl⟩
  recv t ht := by
    rw [← Option.some.inj ht]
    exact ⟨rfl, rfl, rfl⟩
  noProducer k := by cases k <;> rfl
  noneMade := rfl
  noneClosed := rfl
  mConsumers := rfl
  closedConsumers := rfl
  producers := rfl
  consumers := rfl
  unlisted p c h := by simp [RtcEngineEx.Lists, Peers.consumersOf, Peers.getPeer, joinedEngine] at h

/-- One camera and one remote consumer, both released before their transports close. -/
theorem storeCurrent_released_before_closing :
    Always onStoreEvent StoreCurrent joinedEngine
      [.task { produce := .asks (.id "p") } (.enable .video),
        .room (.notify (.createUserConsumer ⟨"simple", "u", false, "c", "q", "video"⟩)
          (.returns .video)),
        .task { produce := .throws } (.disable .video),
        .room (.notify (.userConsumerClosed "c" "video") .throws), .closeSend, .closeRecv] := by
  apply (storeCurrent_always_iff joinedEngine_storeFresh ?_).mpr
  · simp only [guarded_cons, guarded_nil, ClosesOverNothing, and_true, true_and]
    exact ⟨fun _ ↦ by decide, fun _ ↦ by decide⟩
  · simp only [guarded_cons, guarded_nil, IdsFresh, and_true]
    refine ⟨?_, by decide⟩
    intro id k p _ hp
    cases k <;> cases hp

/-- A transport that closes over a camera producer, or over a consumer, leaves it in the
store. -/
theorem storeCurrent_fails_closing_over_media :
    (¬ Always onStoreEvent StoreCurrent joinedEngine
      [.task { produce := .asks (.id "p") } (.enable .video), .closeSend]) ∧
    ¬ Always onStoreEvent StoreCurrent joinedEngine
      [.room (.notify (.createUserConsumer ⟨"simple", "u", false, "c", "q", "video"⟩)
        (.returns .video)), .closeRecv] := by
  constructor
  · intro h
    obtain ⟨k, p, hp, -⟩ := (h.last.producers "p").mp (by decide)
    cases k with
    | audio => cases hp
    | video => cases hp
  · intro h
    have hopen := h.last.opened "c" (.new "simple" false ⟨0, "c", "q", .video⟩) (by decide)
    exact hopen (by decide)

end RtcClient.Engine
