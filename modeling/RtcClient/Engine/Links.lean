import RtcClient.Engine.Notifications
import RtcClient.Engine.Join
import RtcClient.Engine.MediaTasks

/-!
# What network events leave alone

The device, the transports' headers and the client of an engine form its `link` to the
server. Only `joinImpl` and the destroy task change it. Notifications and replies also leave
the sending side alone.
-/

namespace RtcClient.Engine

open RtcClient.Native RtcClient.Store RtcClient.Lib

/-- Device, transports without their tables, and client. -/
structure Link where
  device : Device
  send : Option (String × Bool × Bool)
  recv : Option (String × Bool × Bool)
  client : Option Ref

namespace RtcEngineEx

/-- The receive transport without its tables. -/
def recvHeader (e : RtcEngineEx) : Option (String × Bool × Bool) :=
  e.mRecvTransport.map fun t ↦ (t.id, t.closed, t.disposed)

/-- Both transports are open while they are set. -/
structure TransportsOpen (e : RtcEngineEx) : Prop where
  send : ∀ t, e.mSendTransport = some t → t.closed = false
  recv : ∀ t, e.mRecvTransport = some t → t.closed = false

/-- The link of an engine. -/
def link (e : RtcEngineEx) : Link := ⟨e.mDevice, e.sendHeader, e.recvHeader, e.mStartupClient⟩

end RtcEngineEx

/-- A step that neither touches the link nor the sending side. -/
structure NetFrame (e e' : RtcEngineEx) : Prop where
  link : e'.link = e.link
  producers : e'.producerSlots = e.producerSlots
  data : e'.dataSlots = e.dataSlots
  nextRef : e.nextRef ≤ e'.nextRef
  mClosed : e'.mClosed = e.mClosed
  serverRoomId : e'.serverRoomId = e.serverRoomId

namespace NetFrame

variable {e e' e'' : RtcEngineEx}

/-- Doing nothing. -/
theorem refl (e : RtcEngineEx) : NetFrame e e := ⟨rfl, rfl, rfl, Nat.le_refl _, rfl, rfl⟩

/-- Frames compose. -/
theorem trans (h : NetFrame e e') (h' : NetFrame e' e'') : NetFrame e e'' where
  link := h'.link.trans h.link
  producers := h'.producers.trans h.producers
  data := h'.data.trans h.data
  nextRef := Nat.le_trans h.nextRef h'.nextRef
  mClosed := h'.mClosed.trans h.mClosed
  serverRoomId := h'.serverRoomId.trans h.serverRoomId

/-- A media step that is still is framed in this sense too. -/
theorem of_still (h : Still e e') : NetFrame e e' where
  link := by
    unfold RtcEngineEx.link RtcEngineEx.recvHeader
    rw [h.mDevice, h.sendHeader, h.mRecvTransport, h.mStartupClient]
  producers := h.producers
  data := h.data
  nextRef := h.nextRef.ge
  mClosed := h.mClosed
  serverRoomId := h.serverRoomId

end NetFrame

namespace RtcEngineEx

variable (e : RtcEngineEx)

/-- Calling the application is framed. -/
theorem callback_netFrame (c : Callback) : NetFrame e (e.callback c) := by
  apply NetFrame.of_still
  exact Still.of_calls e (by simp [Call.silent_iff])

/-- The store is not part of it. -/
theorem store_netFrame (st : RoomStore) : NetFrame e { e with mStore := st } :=
  NetFrame.of_still (Still.of_store e st)

private theorem closeConsumer_netFrame (c : Consumer) : NetFrame e (e.closeConsumer c) := by
  unfold closeConsumer
  split
  · exact .refl e
  · refine ⟨?_, rfl, rfl, Nat.le_refl _, rfl, rfl⟩
    unfold link recvHeader
    cases e.mRecvTransport <;> rfl

private theorem onConsumerClosed_netFrame (consumerId kind : String) :
    NetFrame e (e.onConsumerClosed consumerId kind) := by
  unfold onConsumerClosed
  split
  · exact .refl e
  · next holder _ =>
    have herase : NetFrame e { e with mConsumers := e.mConsumers.erase consumerId } :=
      ⟨rfl, rfl, rfl, Nat.le_refl _, rfl, rfl⟩
    have hclose := herase.trans (closeConsumer_netFrame _ holder.mConsumer)
    simp only
    split
    · exact (hclose.trans (store_netFrame _ _)).trans (callback_netFrame _ _)
    · exact hclose.trans (store_netFrame _ _)

private theorem addConsumer_netFrame {msg : ConsumerMsg} {c : Consumer} {t t' : RecvTransport}
    (ht : e.mRecvTransport = some t)
    (hh : (t'.id, t'.closed, t'.disposed) = (t.id, t.closed, t.disposed)) :
    NetFrame e (e.addConsumer msg c t') := by
  have hadd : NetFrame e { e with
      nextRef := e.nextRef + 1
      mRecvTransport := some t'
      mConsumers := e.mConsumers.insert c.id ⟨msg.userId, c⟩
      mStore := e.mStore.addConsumer msg.userId msg.type c msg.producerPaused } := by
    refine ⟨?_, rfl, rfl, Nat.le_succ _, rfl, rfl⟩
    unfold link recvHeader
    rw [ht]
    simp only [Option.map_some, hh]
    rfl
  unfold addConsumer
  simp only
  split
  · exact hadd.trans (callback_netFrame _ _)
  · exact hadd

private theorem onNewConsumer_netFrame (msg : ConsumerMsg) (o : RecvTransport.ConsumeOutcome) :
    NetFrame e (e.onNewConsumer msg o).engine := by
  unfold onNewConsumer
  cases ht : e.mRecvTransport with
  | none => exact .refl e
  | some t =>
    simp only
    split
    · exact .refl e
    · exact .refl e
    · next c t' hc =>
      apply e.addConsumer_netFrame ht
      unfold RecvTransport.consume at hc
      split at hc
      · cases hc
      · cases hc
      · cases hc
        rfl

private theorem onNewDataConsumer_netFrame (msg : DataConsumerMsg)
    (o : RecvTransport.ConsumeOutcome) : NetFrame e (e.onNewDataConsumer msg o) := by
  unfold onNewDataConsumer
  cases ht : e.mRecvTransport with
  | none => exact .refl e
  | some t =>
    simp only
    split
    · exact .refl e
    · next d t' hd =>
      refine ⟨?_, rfl, rfl, Nat.le_succ _, rfl, rfl⟩
      have hh : (t'.id, t'.closed, t'.disposed) = (t.id, t.closed, t.disposed) := by
        unfold RecvTransport.consumeData at hd
        split at hd
        · cases hd
        · cases hd
        · cases hd
          rfl
      unfold link recvHeader
      rw [ht]
      simp only [Option.map_some, hh]
      rfl

/-- Handling a notification is framed. -/
theorem handleNotification_netFrame (n : Notification) (o : RecvTransport.ConsumeOutcome) :
    NetFrame e (e.handleNotification n o).engine := by
  cases n with
  | roomJoined => exact e.callback_netFrame _
  | userJoined info => exact (e.callback_netFrame _).trans (store_netFrame _ _)
  | userLeft userId id => exact (e.callback_netFrame _).trans (store_netFrame _ _)
  | usersOnline users => exact e.callback_netFrame _
  | roomClosed => exact e.callback_netFrame _
  | userConsumerClosed consumerId kind => exact e.onConsumerClosed_netFrame consumerId kind
  | createUserConsumer msg => exact e.onNewConsumer_netFrame msg o
  | createUserTextConsumer msg => exact e.onNewDataConsumer_netFrame msg o
  | consumerLayersChanged => exact .refl e
  | consumerScore => exact .refl e
  | producerScore => exact .refl e

/-- Handling the join reply is framed. -/
theorem onJoinReply_netFrame (users : List PeerInfo) : NetFrame e (e.onJoinReply users) := by
  rw [onJoinReply_eq]
  exact e.store_netFrame _

/-- The task of the `CREATE_ROOM` listener only sends. -/
theorem createRoomMediasoup_calls (reply : Reply Unit) :
    ∃ cs, (∀ c ∈ cs, c.Silent) ∧ (e.createRoomMediasoup reply).engine = e.emitAll cs := by
  have hput : ∀ key value, (Call.createRoomPut key value).Silent := by
    simp [Call.silent_iff]
  have hreq : (Call.request (.createRoomMediasoup e.roomBody)).Silent := silent_request (by simp)
  by_cases hp : e.rtcEngineConfig.channelProfile = 1
  · have hputs : ∀ c ∈ [Call.createRoomPut "frameWidth" (.int 1920),
        .createRoomPut "frameHeight" (.int 1080),
        .createRoomPut "backGroundUrl" (.ofOption e.rtcEngineConfig.backgroundUrl)], c.Silent := by
      simp [hput]
    cases hc : e.mStartupClient with
    | none =>
      refine ⟨_, hputs, ?_⟩
      simp [createRoomMediasoup, hp, send, hc, emit, emitAll]
    | some r =>
      refine ⟨_ ++ [.request (.createRoomMediasoup e.roomBody)],
        fun c h ↦ (List.mem_append.mp h).elim (hputs c) fun h ↦ List.mem_singleton.mp h ▸ hreq, ?_⟩
      cases reply <;> simp [createRoomMediasoup, hp, send, hc, request, emit, emitAll]
  · cases hc : e.mStartupClient with
    | none =>
      refine ⟨[], by simp, ?_⟩
      simp [createRoomMediasoup, hp, send, hc, emitAll_nil]
    | some r =>
      refine ⟨[.request (.createRoomMediasoup e.roomBody)], by simpa using hreq, ?_⟩
      cases reply <;> simp [createRoomMediasoup, hp, send, hc, request, emit, emitAll]

/-- Everything a step of `joinImpl` can do to the engine: send, load the device, or make a
transport. -/
inductive JoinChange : JoinPc → RtcEngineEx → Prop
  | calls (pc : JoinPc) (cs : List Call) (h : ∀ c ∈ cs, c.Silent) : JoinChange pc (e.emitAll cs)
  | load (caps : RouterCapabilities) (d : Device) (h : e.mDevice.load caps = .ok d) :
      JoinChange (.load caps) { e with mDevice := d }
  | sendTransport (id : String) :
      JoinChange (.newSendTransport (some id)) { e with mSendTransport := some { id := id } }
  | recvTransport (id : String) :
      JoinChange (.newRecvTransport (some id)) { e with mRecvTransport := some { id := id } }

private theorem JoinChange.same (pc : JoinPc) : e.JoinChange pc e := by
  have hcalls := JoinChange.calls (e := e) pc [] (by simp)
  rw [emitAll_nil] at hcalls
  exact hcalls

private theorem joinChange_sendThen (pc : JoinPc) {r : Request} (next : JoinNext)
    (hr : ∀ id, r ≠ .closeUserProducer id) : e.JoinChange pc (e.sendThen r next).1 := by
  unfold sendThen send
  cases e.mStartupClient with
  | none => exact .same e pc
  | some c => exact .calls pc [.request r] (by simpa using silent_request hr)

private theorem joinChange_awaitThen {α : Type} (pc : JoinPc) (r : Reply α) (next : α → JoinPc) :
    e.JoinChange pc (e.awaitThen r next).1 := by
  cases r <;> exact .same e pc

private theorem joinChange_withLoaded {pc : JoinPc} {next : RtcEngineEx × JoinNext}
    (h : e.JoinChange pc next.1) : e.JoinChange pc (e.withLoaded next).1 := by
  unfold withLoaded
  split
  · exact .same e pc
  · exact h

/-- Every step of `joinImpl` is one of these. -/
theorem joinStep_joinChange (env : JoinEnv) (pc : JoinPc) :
    e.JoinChange pc (e.joinStep env pc).1 := by
  cases pc with
  | start =>
    simp only [joinStep]
    split
    · exact e.joinChange_sendThen _ _ (by simp)
    · exact .calls _ [.callback _] (by simp [Call.silent_iff])
  | awaitRouterRtp => exact e.joinChange_awaitThen _ _ _
  | load caps =>
    simp only [joinStep]
    split
    · exact .same e _
    · next d hd => exact .load caps d hd
  | requestSendTransport => exact e.joinChange_withLoaded (e.joinChange_sendThen _ _ (by simp))
  | awaitSendTransport => exact e.joinChange_awaitThen _ _ _
  | newSendTransport id =>
    cases id with
    | none => exact .same e _
    | some id => exact e.joinChange_withLoaded (.sendTransport id)
  | requestRecvTransport => exact e.joinChange_sendThen _ _ (by simp)
  | awaitRecvTransport => exact e.joinChange_awaitThen _ _ _
  | newRecvTransport id =>
    cases id with
    | none => exact .same e _
    | some id => exact e.joinChange_withLoaded (.recvTransport id)
  | createRoom => exact e.joinChange_sendThen _ _ (by simp)
  | joinRoom => exact e.joinChange_sendThen _ _ (by simp)
  | awaitJoinRoom =>
    simp only [joinStep]
    split <;> exact .same e _
  | joinRoomMediasoup => exact e.joinChange_withLoaded (e.joinChange_sendThen _ _ (by simp))

/-- A media task leaves the link alone. -/
theorem link_runMediaTask (env : Environment) (task : MediaTask) :
    (e.runMediaTask env task).engine.link = e.link := by
  have hf := (e.runMediaTask_step env task).frame
  unfold link recvHeader
  rw [hf.mDevice, hf.sendHeader, hf.mRecvTransport, hf.mStartupClient]

end RtcEngineEx

end RtcClient.Engine
