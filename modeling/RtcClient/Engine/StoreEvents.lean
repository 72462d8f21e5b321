import RtcClient.Engine.ConsumerTables
import RtcClient.Engine.Destroy
import RtcClient.Engine.MediaSteps

/-!
# The room store and the events that write it

The store lists the local producers and the remote consumers that the application renders.
It is a mirror kept by hand: the tasks that open and close a producer, the handlers of the
server's notifications and the `onTransportClose` listeners each write their own part of it
(`RtcEngineEx.java:388–522,999–1054`, `RoomStore.java:112–167`).
-/

namespace RtcClient.Engine

open RtcClient.Native RtcClient.Store RtcClient.Lib

/-- A media task, a message from the server, or the closing of a transport, which tells
every object still listed on it. -/
inductive StoreEvent where
  | task (env : Environment) (task : MediaTask)
  | room (ev : RoomEvent)
  | closeSend
  | closeRecv
  deriving DecidableEq, Repr

namespace RtcEngineEx

/-- Handle one event; without a transport there is nothing to close. -/
def onStoreEvent (e : RtcEngineEx) : StoreEvent → RtcEngineEx
  | .task env task => e.mediaStep (env, task)
  | .room ev => e.onRoomEvent ev
  | .closeSend =>
    match e.mSendTransport with
    | none => e
    | some t => e.closeSendTransport t
  | .closeRecv =>
    match e.mRecvTransport with
    | none => e
    | some t => e.closeRecvTransport t

/-- The keys of the store's producers are the ids of the two producer fields. -/
def ProducersListed (e : RtcEngineEx) : Prop :=
  ∀ id : String, id ∈ e.mStore.producers.mProducers ↔ ∃ k p, e.mProducer k = some p ∧ p.id = id

/-- Stored consumers are open, and users list only consumers that are held. -/
structure ConsumersCurrent (e : RtcEngineEx) : Prop where
  opened : ∀ (id : String) (w : ConsumerWrapper), e.mStore.consumers.consumers[id]? = some w →
    w.mConsumer.ref ∉ e.closedConsumers
  listed : ∀ p c, e.Lists p c → c ∈ e.mConsumers

/-- The store lists open media only. -/
structure StoreCurrent (e : RtcEngineEx) : Prop extends ConsumersCurrent e where
  producers : e.ProducersListed

/-- A new producer or consumer does not take the id of one that is held. -/
def IdsFresh (e : RtcEngineEx) : StoreEvent → Prop
  | .task env (.enable _) =>
    ∀ id k p, e.producedId env.produce = some id → e.mProducer k = some p → p.id ≠ id
  | .room (.notify (.createUserConsumer msg) _) => msg.id ∉ e.mConsumers
  | _ => True

/-- No open transport closes over a camera producer or over a consumer. -/
def ClosesOverNothing (e : RtcEngineEx) : StoreEvent → Prop
  | .closeSend => e.SendOpen → e.mVideoProducer = none
  | .closeRecv => e.RecvOpen → e.mConsumers = ∅
  | _ => True

/-- Transports are open while they are set, and nothing has been produced or consumed. -/
structure StoreFresh (e : RtcEngineEx) : Prop where
  send : ∀ t, e.mSendTransport = some t → t.disposed = false ∧ t.closed = false ∧ t.producers = ∅
  recv : ∀ t, e.mRecvTransport = some t → t.closed = false ∧ t.disposed = false ∧ t.consumers = ∅
  noProducer : ∀ k, e.mProducer k = none
  noneMade : e.returnedProducers = []
  noneClosed : e.closedProducers = ∅
  mConsumers : e.mConsumers = ∅
  closedConsumers : e.closedConsumers = ∅
  producers : e.mStore.producers.mProducers = ∅
  consumers : e.mStore.consumers.consumers = ∅
  unlisted : ∀ p c, ¬ e.Lists p c

end RtcEngineEx

end RtcClient.Engine
