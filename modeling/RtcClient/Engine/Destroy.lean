import RtcClient.Engine.LocalMedia
import RtcClient.Lib.Run

/-!
# Destroying an engine

The worker task of `nativeDestroy` (`RtcEngineEx.java:1318–1378`) over the native closes it
calls. `SendTransport::Close` and `RecvTransport::Close` (`Transport.cpp:303–327,510–534`)
close the peer connection first. `PeerConnection::Close` closes every data channel that is
still open (`webrtc/src/pc/peer_connection.cc:1755`, `sdp_offer_answer.cc:4701–4716`,
`sctp_data_channel.cc:386–392,478–500`), and the observer of each one calls `onClose` of its
listener. Then `onTransportClose` of the listed objects is called. All of this happens before
they return, so that the fields, `mConsumers` and `mDataConsumers` change inside them.
-/

namespace RtcClient.Engine

open RtcClient.Native RtcClient.Store RtcClient.Lib

namespace RtcEngineEx

/-- Listener of the local producers: the camera's empties its field, the microphone's also
leaves the store. `RtcEngineEx.java:432–437,492–497`. -/
def onProducerTransportClose (e : RtcEngineEx) : Kind → RtcEngineEx
  | .video => { e with mVideoProducer := none }
  | .audio =>
    match e.mAudioProducer with
    | none => e
    | some p => { e.removeProducer p.id with mAudioProducer := none }

/-- `Producer::TransportClosed`; `Producer.cpp:216–226`. -/
def producerTransportClosed (e : RtcEngineEx) (p : Producer) : RtcEngineEx :=
  if p.ref ∈ e.closedProducers then e
  else { e with closedProducers := insert p.ref e.closedProducers }.onProducerTransportClose p.kind

/-- The channel of a data producer has closed: both listeners empty their field, and the bot's
also posts a notice; `DataProducer.cpp:123–145`, `RtcEngineEx.java:616–620,657–662`. -/
def onDataProducerClose (e : RtcEngineEx) (p : DataProducer) : RtcEngineEx :=
  match p.label with
  | .chat => { e with mChatDataProducer := none }
  | .bot => { e with
      mBotDataProducer := none
      mStore := e.mStore.addNotify "error" "Bot DataProducer closed" }

/-- `DataProducer::TransportClosed` with the listeners of `RtcEngineEx.java:628–630,670–672`;
`DataProducer.cpp:110–120`. -/
def dataProducerTransportClosed (e : RtcEngineEx) (p : DataProducer) : RtcEngineEx :=
  if p.ref ∈ e.closedDataProducers then e
  else
    { e with closedDataProducers := insert p.ref e.closedDataProducers }.setDataProducer none
      p.label

/-- `SendTransport::Close`: every open channel, then every listed producer, then every listed
data producer; `Transport.cpp:303–327`. -/
def closeSendTransport (e : RtcEngineEx) (t : SendTransport) : RtcEngineEx :=
  if t.closed then e
  else
    let e := { e with mSendTransport := some t.shut }
    let e := t.channels.foldl onDataProducerClose e
    let e := t.producers.toList.foldl (fun e kv ↦ e.producerTransportClosed kv.2) e
    t.dataProducers.toList.foldl (fun e kv ↦ e.dataProducerTransportClosed kv.2) e

/-- `Consumer::TransportClosed` with the listener of `RtcEngineEx.java:1034–1037`, which
forgets the consumer; `Consumer.cpp:158–168`. -/
def consumerTransportClosed (e : RtcEngineEx) (c : Consumer) : RtcEngineEx :=
  if c.ref ∈ e.closedConsumers then e
  else { e with
    closedConsumers := insert c.ref e.closedConsumers
    mConsumers := e.mConsumers.erase c.id }

/-- The channel of a data consumer has closed: its listener forgets whatever `mDataConsumers`
has under the id; `DataConsumer.cpp:28–52`, `RtcEngineEx.java:1083–1086`. -/
def onDataConsumerClose (e : RtcEngineEx) (d : DataConsumer) : RtcEngineEx :=
  { e with mDataConsumers := e.mDataConsumers.erase d.id }

/-- `DataConsumer::TransportClosed`; its listener is empty, `RtcEngineEx.java:1106–1108`. -/
def dataConsumerTransportClosed (e : RtcEngineEx) (d : DataConsumer) : RtcEngineEx :=
  { e with closedDataConsumers := insert d.ref e.closedDataConsumers }

/-- `RecvTransport::Close`: every open channel, then every listed consumer, then every listed
data consumer; `Transport.cpp:510–534`. -/
def closeRecvTransport (e : RtcEngineEx) (t : RecvTransport) : RtcEngineEx :=
  if t.closed then e
  else
    let e := { e with mRecvTransport := some t.shut }
    let e := t.channels.foldl onDataConsumerClose e
    let e := t.consumers.toList.foldl (fun e kv ↦ e.consumerTransportClosed kv.2) e
    t.dataConsumers.toList.foldl (fun e kv ↦ e.dataConsumerTransportClosed kv.2) e

/-- First half of `disposeTransportDevice`; `RtcEngineEx.java:1364–1368`. -/
def disposeSendTransport (e : RtcEngineEx) : RtcEngineEx :=
  match e.mSendTransport with
  | none => e
  | some t => { (e.closeSendTransport t).emit .disposeSendTransport with mSendTransport := none }

/-- Second half of `disposeTransportDevice`; `RtcEngineEx.java:1370–1374`. -/
def disposeRecvTransport (e : RtcEngineEx) : RtcEngineEx :=
  match e.mRecvTransport with
  | none => e
  | some t => { (e.closeRecvTransport t).emit .disposeRecvTransport with mRecvTransport := none }

/-- `RtcEngineEx.java:1361–1378`. -/
def disposeTransportDevice (e : RtcEngineEx) : RtcEngineEx :=
  let e := e.disposeSendTransport.disposeRecvTransport
  { e with mDevice := { e.mDevice with disposed := true } }.emit .disposeDevice

/-- Close the client and drop all processors; `RtcEngineEx.java:1324–1328,1380–1390`. -/
def releaseStartupClient (e : RtcEngineEx) : RtcEngineEx :=
  match e.mStartupClient with
  | none => e
  | some _ => { (e.emit .closeStartupClient).emit .processorsClear with mStartupClient := none }

/-- `setEnabled(false)` and `dispose()` on both local tracks; `RtcEngineEx.java:1332–1340`. -/
def disposeLocalTracks (e : RtcEngineEx) : RtcEngineEx :=
  { e with
    mLocalAudioTrack := e.mLocalAudioTrack.map fun _ ↦ { enabled := false, disposed := true }
    mLocalVideoTrack := e.mLocalVideoTrack.map fun _ ↦ { enabled := false, disposed := true } }

/-- Release the track of one held consumer if it is a `VideoTrack`, and forget the consumer;
`RtcEngineEx.java:1343–1349`. -/
def releaseConsumer (e : RtcEngineEx) (id : String) (holder : ConsumerHolder) : RtcEngineEx :=
  let e := if holder.mConsumer.kind = .video then
      (e.emit (.trackSetEnabled holder.mConsumer.ref false)).emit
        (.trackDispose holder.mConsumer.ref)
    else e
  { e with mConsumers := e.mConsumers.erase id }

/-- `mConsumers.forEach`; `RtcEngineEx.java:1342–1350`. -/
def releaseConsumers (e : RtcEngineEx) : RtcEngineEx :=
  e.mConsumers.toList.foldl (fun e kv ↦ e.releaseConsumer kv.1 kv.2) e

/-- Worker task of `nativeDestroy`, up to the end of its looper; `RtcEngineEx.java:1322–1358`. -/
def destroyTask (e : RtcEngineEx) : RtcEngineEx :=
  e.releaseStartupClient.disposeTransportDevice.disposeLocalTracks.releaseConsumers

/-! ### What closing a transport writes -/

/-- `x` is `e` up to its send transport, now `send`, and the fields that the listeners of
`SendTransport::Close` write. -/
def WritesSending (e : RtcEngineEx) (send : Option SendTransport) (x : RtcEngineEx) : Prop :=
  ∃ video audio chat bot closed closedData producers notify,
    x = { e with
      mSendTransport := send
      mVideoProducer := video
      mAudioProducer := audio
      mChatDataProducer := chat
      mBotDataProducer := bot
      closedProducers := closed
      closedDataProducers := closedData
      mStore := { e.mStore with producers := producers, notify := notify } }

/-- The same for `RecvTransport::Close`. -/
def WritesReceiving (e : RtcEngineEx) (recv : Option RecvTransport) (x : RtcEngineEx) : Prop :=
  ∃ consumers dataConsumers closed closedData,
    x = { e with
      mRecvTransport := recv
      mConsumers := consumers
      mDataConsumers := dataConsumers
      closedConsumers := closed
      closedDataConsumers := closedData }

variable (e : RtcEngineEx)

/-- Closing the send transport writes the sending side, the store's producers and its notice
only. -/
theorem closeSendTransport_writes (t : SendTransport) :
    e.WritesSending (if t.closed then e.mSendTransport else some t.shut)
      (e.closeSendTransport t) := by
  unfold closeSendTransport
  split
  · exact ⟨_, _, _, _, _, _, _, _, rfl⟩
  · refine run_invariant (e.WritesSending _) (run_invariant (e.WritesSending _)
      (run_invariant (e.WritesSending _) ?_ ?_ _) ?_ _) ?_ _
    · exact ⟨_, _, _, _, _, _, _, _, rfl⟩
    · rintro x p ⟨video, audio, chat, bot, closed, closedData, producers, notify, rfl⟩
      unfold onDataProducerClose
      cases p.label with
      | chat => exact ⟨_, _, _, _, _, _, _, _, rfl⟩
      | bot => exact ⟨_, _, _, _, _, _, _, _, rfl⟩
    · rintro x kv ⟨video, audio, chat, bot, closed, closedData, producers, notify, rfl⟩
      unfold producerTransportClosed
      split
      · exact ⟨_, _, _, _, _, _, _, _, rfl⟩
      · cases kv.2.kind with
        | video => exact ⟨_, _, _, _, _, _, _, _, rfl⟩
        | audio =>
          cases audio with
          | none => exact ⟨_, _, _, _, _, _, _, _, rfl⟩
          | some p => exact ⟨_, _, _, _, _, _, _, _, rfl⟩
    · rintro x kv ⟨video, audio, chat, bot, closed, closedData, producers, notify, rfl⟩
      unfold dataProducerTransportClosed
      split
      · exact ⟨_, _, _, _, _, _, _, _, rfl⟩
      · cases kv.2.label with
        | chat => exact ⟨_, _, _, _, _, _, _, _, rfl⟩
        | bot => exact ⟨_, _, _, _, _, _, _, _, rfl⟩

/-- Closing the receive transport writes the receiving side only. -/
theorem closeRecvTransport_writes (t : RecvTransport) :
    e.WritesReceiving (if t.closed then e.mRecvTransport else some t.shut)
      (e.closeRecvTransport t) := by
  unfold closeRecvTransport
  split
  · exact ⟨_, _, _, _, rfl⟩
  · refine run_invariant (e.WritesReceiving _) (run_invariant (e.WritesReceiving _)
      (run_invariant (e.WritesReceiving _) ?_ ?_ _) ?_ _) ?_ _
    · exact ⟨_, _, _, _, rfl⟩
    · rintro x d ⟨consumers, dataConsumers, closed, closedData, rfl⟩
      exact ⟨_, _, _, _, rfl⟩
    · rintro x kv ⟨consumers, dataConsumers, closed, closedData, rfl⟩
      unfold consumerTransportClosed
      split
      · exact ⟨_, _, _, _, rfl⟩
      · exact ⟨_, _, _, _, rfl⟩
    · rintro x kv ⟨consumers, dataConsumers, closed, closedData, rfl⟩
      exact ⟨_, _, _, _, rfl⟩

end RtcEngineEx

end RtcClient.Engine
