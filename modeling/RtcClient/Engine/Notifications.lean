import RtcClient.Engine.State

/-!
# Server notifications

`RtcEngineEx.java:977–1121` and the join reply of `RtcEngineEx.java:367–377`. Each handler
is one atomic step on the network thread. The native consume of a notification is an
oracle; a handler that throws leaves the state it had reached.
-/

namespace RtcClient.Engine

open RtcClient.Native RtcClient.Store

/-- Body of `CREATE_USER_CONSUMER`; `RtcEngineEx.java:1023–1030`. -/
structure ConsumerMsg where
  type : String
  userId : String
  producerPaused : Bool
  id : String
  producerId : String
  kind : String
  deriving DecidableEq, Repr

/-- Body of `CREATE_USER_TEXT_CONSUMER`; `RtcEngineEx.java:1058–1065`. -/
structure DataConsumerMsg where
  peerId : String
  dataProducerId : String
  id : String
  label : String
  deriving DecidableEq, Repr

/-- Well-formed notifications, one for each registered processor;
`RtcEngineEx.java:690–865`. -/
inductive Notification where
  | roomJoined
  | userJoined (info : PeerInfo)
  | userLeft (userId : Option String) (id : String)
  | usersOnline (users : List PeerInfo)
  | roomClosed
  | userConsumerClosed (consumerId kind : String)
  | createUserConsumer (msg : ConsumerMsg)
  | createUserTextConsumer (msg : DataConsumerMsg)
  | consumerLayersChanged
  | consumerScore
  | producerScore
  deriving DecidableEq, Repr

namespace RtcEngineEx

/-- Native `Consumer::Close` and the transport's `OnClose`; a closed consumer stays as it
is. `Consumer.cpp:101–111`, `Transport.cpp:536–547`. -/
def closeConsumer (e : RtcEngineEx) (c : Consumer) : RtcEngineEx :=
  if c.ref ∈ e.closedConsumers then e
  else { e with
    closedConsumers := insert c.ref e.closedConsumers
    mRecvTransport := e.mRecvTransport.map (·.onClose c) }

/-- A consumer the transport has returned enters both tables;
`RtcEngineEx.java:1044–1049`. -/
def addConsumer (e : RtcEngineEx) (msg : ConsumerMsg) (c : Consumer) (t : RecvTransport) :
    RtcEngineEx :=
  let e := { e with
    nextRef := e.nextRef + 1
    mRecvTransport := some t
    mConsumers := e.mConsumers.insert c.id ⟨msg.userId, c⟩
    mStore := e.mStore.addConsumer msg.userId msg.type c msg.producerPaused }
  if c.kind = .video then e.callback (.onRemoteVideoStateChanged msg.userId msg.id true) else e

/-- Only a `MediasoupException` is caught; `RtcEngineEx.java:1021–1054`. -/
def onNewConsumer (e : RtcEngineEx) (msg : ConsumerMsg) (o : RecvTransport.ConsumeOutcome) :
    Result :=
  match e.mRecvTransport with
  | none => { engine := e, thrown := some .nullPointer }
  | some t =>
    match t.consume e.nextRef msg.id msg.producerId o with
    | .error .mediasoup => { engine := e }
    | .error ex => { engine := e, thrown := some ex }
    | .ok (c, t) => { engine := e.addConsumer msg c t }

/-- Every exception is caught; `RtcEngineEx.java:1056–1121`. -/
def onNewDataConsumer (e : RtcEngineEx) (msg : DataConsumerMsg)
    (o : RecvTransport.ConsumeOutcome) : RtcEngineEx :=
  match e.mRecvTransport with
  | none => e
  | some t =>
    match t.consumeData e.nextRef msg.id msg.dataProducerId msg.label o with
    | .error _ => e
    | .ok (d, t) => { e with
        nextRef := e.nextRef + 1
        mRecvTransport := some t
        mDataConsumers := e.mDataConsumers.insert d.id ⟨msg.peerId, d⟩
        mStore := e.mStore.addDataConsumer msg.peerId d }

/-- `USER_CONSUMER_CLOSED`: an id that is not held is ignored;
`RtcEngineEx.java:999–1010`. -/
def onConsumerClosed (e : RtcEngineEx) (consumerId kind : String) : RtcEngineEx :=
  match e.mConsumers[consumerId]? with
  | none => e
  | some holder =>
    let e := { e with mConsumers := e.mConsumers.erase consumerId }
    let e := e.closeConsumer holder.mConsumer
    let e := { e with mStore := e.mStore.removeConsumer holder.peerId holder.mConsumer.id }
    if kind = "video" then
      e.callback (.onRemoteVideoStateChanged holder.peerId holder.mConsumer.id false)
    else e

/-- `RtcEngineEx.java:977–1019`; layer and score messages have no case there. -/
def handleNotification (e : RtcEngineEx) (n : Notification) (o : RecvTransport.ConsumeOutcome) :
    Result :=
  match n with
  | .roomJoined => { engine := e.callback (.onJoinChannelSuccess e.rtcEngineConfig.userId) }
  | .userJoined info =>
    let e := e.callback (.onUserJoined info.id)
    { engine := { e with mStore := e.mStore.addPeer info.id info } }
  | .userLeft userId id =>
    let e := e.callback (.onUserOffline userId)
    { engine := { e with mStore := e.mStore.removePeer id } }
  | .usersOnline users => { engine := e.callback (.onUserOnline users) }
  | .roomClosed => { engine := e.callback .onCloseChannel }
  | .userConsumerClosed consumerId kind => { engine := e.onConsumerClosed consumerId kind }
  | .createUserConsumer msg => e.onNewConsumer msg o
  | .createUserTextConsumer msg => { engine := e.onNewDataConsumer msg o }
  | .consumerLayersChanged | .consumerScore | .producerScore => { engine := e }

/-- Listener of the `JOIN_ROOM_MEDIASOUP` reply: one `addPeer` for each listed user;
`RtcEngineEx.java:371–375`. -/
def onJoinReply (e : RtcEngineEx) (users : List PeerInfo) : RtcEngineEx :=
  users.foldl (fun e u ↦ { e with mStore := e.mStore.addPeer u.id u }) e

end RtcEngineEx

/-- What reaches the engine's tables from the network thread. -/
inductive RoomEvent where
  | notify (n : Notification) (o : RecvTransport.ConsumeOutcome)
  | joinReply (users : List PeerInfo)
  deriving DecidableEq, Repr

/-- One handled message; an exception ends its handler, not the engine. -/
def RtcEngineEx.onRoomEvent (e : RtcEngineEx) : RoomEvent → RtcEngineEx
  | .notify n o => (e.handleNotification n o).engine
  | .joinReply users => e.onJoinReply users

namespace RtcEngineEx

/-! ### Tables after each handler -/

variable (e : RtcEngineEx)

/-- The callback log is no table. -/
@[simp] theorem callback_mConsumers (c : Callback) : (e.callback c).mConsumers = e.mConsumers := rfl

/-- A callback does not touch the store. -/
@[simp] theorem callback_mStore (c : Callback) : (e.callback c).mStore = e.mStore := rfl

/-- Closing a consumer edits no Java table. -/
@[simp] theorem closeConsumer_mConsumers (c : Consumer) :
    (e.closeConsumer c).mConsumers = e.mConsumers := by
  unfold closeConsumer
  split <;> rfl

/-- Closing a consumer does not touch the store. -/
@[simp] theorem closeConsumer_mStore (c : Consumer) :
    (e.closeConsumer c).mStore = e.mStore := by
  unfold closeConsumer
  split <;> rfl

/-- Closing a consumer calls nothing back. -/
@[simp] theorem closeConsumer_calls (c : Consumer) : (e.closeConsumer c).calls = e.calls := by
  unfold closeConsumer
  split <;> rfl

/-- Closing a consumer does not touch the configuration. -/
@[simp] theorem closeConsumer_rtcEngineConfig (c : Consumer) :
    (e.closeConsumer c).rtcEngineConfig = e.rtcEngineConfig := by
  unfold closeConsumer
  split <;> rfl

/-- The consumer that `onNewConsumer` gets from the transport, if it gets one. -/
def consumed (msg : ConsumerMsg) (o : RecvTransport.ConsumeOutcome) : Option Consumer :=
  e.mRecvTransport.bind fun t ↦
    match t.consume e.nextRef msg.id msg.producerId o with
    | .error _ => none
    | .ok (c, _) => some c

/-- The data consumer that `onNewDataConsumer` gets from the transport, if it gets one. -/
def consumedData (msg : DataConsumerMsg) (o : RecvTransport.ConsumeOutcome) :
    Option DataConsumer :=
  e.mRecvTransport.bind fun t ↦
    match t.consumeData e.nextRef msg.id msg.dataProducerId msg.label o with
    | .error _ => none
    | .ok (d, _) => some d

/-- Without a consumer the handler changes nothing. -/
theorem onNewConsumer_of_none {msg : ConsumerMsg} {o : RecvTransport.ConsumeOutcome}
    (h : e.consumed msg o = none) : (e.onNewConsumer msg o).engine = e := by
  unfold onNewConsumer
  cases ht : e.mRecvTransport with
  | none => rfl
  | some t =>
    simp only [consumed, ht, Option.bind_some] at h
    cases hc : t.consume e.nextRef msg.id msg.producerId o with
    | error ex =>
      simp only [hc]
      cases ex <;> rfl
    | ok x => simp [hc] at h

/-- A consumer carries the ids of its message and enters the tables; the handler returns. -/
theorem onNewConsumer_of_some {msg : ConsumerMsg} {o : RecvTransport.ConsumeOutcome} {c : Consumer}
    (h : e.consumed msg o = some c) :
    c = ⟨e.nextRef, msg.id, msg.producerId, c.kind⟩ ∧
      ∃ t, e.mRecvTransport = some t ∧
        e.onNewConsumer msg o = { engine := e.addConsumer msg c (t.addConsumer c) } := by
  cases ht : e.mRecvTransport with
  | none => simp [consumed, ht] at h
  | some t =>
    simp only [consumed, ht, Option.bind_some] at h
    simp only [onNewConsumer, ht]
    unfold RecvTransport.consume at h ⊢
    cases hr : t.requireOpen with
    | error ex => simp [hr] at h
    | ok u =>
      cases o with
      | throws => simp [hr] at h
      | returns kind =>
        simp only [hr, Option.some.injEq] at h
        rw [← h]
        exact ⟨rfl, t, rfl, rfl⟩

/-- Without a data consumer the handler changes nothing. -/
theorem onNewDataConsumer_of_none {msg : DataConsumerMsg} {o : RecvTransport.ConsumeOutcome}
    (h : e.consumedData msg o = none) : e.onNewDataConsumer msg o = e := by
  unfold onNewDataConsumer
  cases ht : e.mRecvTransport with
  | none => rfl
  | some t =>
    simp only [consumedData, ht, Option.bind_some] at h
    cases hd : t.consumeData e.nextRef msg.id msg.dataProducerId msg.label o with
    | error ex => simp only [hd]
    | ok x => simp [hd] at h

/-- A data consumer carries the ids of its message and enters the tables. -/
theorem onNewDataConsumer_of_some {msg : DataConsumerMsg} {o : RecvTransport.ConsumeOutcome}
    {d : DataConsumer} (h : e.consumedData msg o = some d) :
    d = ⟨e.nextRef, msg.id, msg.dataProducerId, msg.label⟩ ∧
      ∃ t, e.mRecvTransport = some t ∧
        e.onNewDataConsumer msg o = { e with
          nextRef := e.nextRef + 1
          mRecvTransport := some (t.addDataConsumer d)
          mDataConsumers := e.mDataConsumers.insert d.id ⟨msg.peerId, d⟩
          mStore := e.mStore.addDataConsumer msg.peerId d } := by
  cases ht : e.mRecvTransport with
  | none => simp [consumedData, ht] at h
  | some t =>
    simp only [consumedData, ht, Option.bind_some] at h
    simp only [onNewDataConsumer, ht]
    unfold RecvTransport.consumeData at h ⊢
    cases hr : t.requireOpen with
    | error ex => simp [hr] at h
    | ok u =>
      cases o with
      | throws => simp [hr] at h
      | returns kind =>
        simp only [hr, Option.some.injEq] at h
        rw [← h]
        exact ⟨rfl, t, rfl, rfl⟩

/-- The join reply edits the peers of the store and nothing else. -/
theorem onJoinReply_eq (users : List PeerInfo) :
    e.onJoinReply users =
      { e with mStore :=
        { e.mStore with peers := users.foldl (fun ps u ↦ ps.addPeer u.id u) e.mStore.peers } } := by
  unfold onJoinReply
  induction users generalizing e with
  | nil => rfl
  | cons u users ih =>
    rw [List.foldl_cons, ih]
    rfl

end RtcEngineEx

end RtcClient.Engine
