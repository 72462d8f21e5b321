import Mathlib.Data.Finset.Basic

/-!
# The native media library as the engine uses it

Device, transports and media objects of the bundled `libmediasoupclient`
(`rtc-sdk/deps/libmediasoupclient/src`) behind their Java wrappers
(`rtc-sdk/src/main/java/org/mediasoup/droid`). An object is its identity together
with the fields that never change; whether it is closed is kept by its owner, so
that all holders of one object see one flag. Codec negotiation, SDP and ICE are an
oracle: they only decide whether a call throws.
-/

namespace RtcClient.Native

/-- Identity of a native object. -/
abbrev Ref := Nat

/-- Kind of a media track. -/
inductive Kind where
  | audio
  | video
  deriving DecidableEq, Repr

/-- What a Java call can throw here; `abort` is the `RTC_CHECK` of a Java exception that
reaches native code (`jni/include/jni_generator_helper.h:32–33,86–88`). -/
inductive Throwable where
  | mediasoup
  | execution
  | illegalState
  | nullPointer
  | runtime
  | abort
  deriving DecidableEq, Repr

/-- Sender of one local track; `Producer.java:23–31`. -/
structure Producer where
  ref : Ref
  id : String
  kind : Kind
  deriving DecidableEq, Repr

/-- The two data channels the engine opens; `RtcEngineEx.java:602–688`. -/
inductive Label where
  | chat
  | bot
  deriving DecidableEq, Repr

/-- Sender of one data channel; `DataProducer.java`. -/
structure DataProducer where
  ref : Ref
  id : String
  label : Label
  deriving DecidableEq, Repr

/-- Receiver of one remote track. The wrapper caches its track, so the track is
identified with its consumer; it is a `VideoTrack` when `kind` is `video`. -/
structure Consumer where
  ref : Ref
  id : String
  producerId : String
  kind : Kind
  deriving DecidableEq, Repr

/-- Receiver of one remote data channel; `DataConsumer.java`. -/
structure DataConsumer where
  ref : Ref
  id : String
  dataProducerId : String
  label : String
  deriving DecidableEq, Repr

/-- Native device behind `Device.java`; `disposed` is a null `mNativeDevice`. -/
structure Device where
  loaded : Bool := false
  canProduceAudio : Bool := false
  canProduceVideo : Bool := false
  disposed : Bool := false
  deriving DecidableEq, Repr

/-- Router capabilities as `Device::Load` judges them: rejected, or accepted with the
kinds that can be sent. -/
inductive RouterCapabilities where
  | invalid
  | valid (audio video : Bool)
  deriving DecidableEq, Repr

namespace Device

/-- `Device.isLoaded` after its `checkDeviceExists`; `Device.java:46–49`. -/
def isLoaded (d : Device) : Except Throwable Bool :=
  if d.disposed then .error .illegalState else .ok d.loaded

/-- `Device::CanProduce`; `Device.cpp:104–114`. -/
def canProduce (d : Device) (kind : Kind) : Except Throwable Bool :=
  if d.disposed then .error .illegalState
  else if d.loaded then
    .ok (match kind with
      | .audio => d.canProduceAudio
      | .video => d.canProduceVideo)
  else .error .mediasoup

/-- `Device::Load` throws on a loaded device before it looks at the capabilities;
`Device.cpp:51–98`. -/
def load (d : Device) (caps : RouterCapabilities) : Except Throwable Device :=
  if d.disposed then .error .illegalState
  else if d.loaded then .error .mediasoup
  else match caps with
    | .invalid => .error .mediasoup
    | .valid audio video =>
      .ok { d with loaded := true, canProduceAudio := audio, canProduceVideo := video }

/-- `GetRtpCapabilities`, `GetSctpCapabilities` and the transport constructors all ask
for a loaded device; `Device.cpp:25–46,116–226`. -/
def requireLoaded (d : Device) : Except Throwable Unit :=
  if d.disposed then .error .illegalState
  else if d.loaded then .ok () else .error .mediasoup

end Device

/-- Native send transport behind `SendTransport.java`. Both tables are keyed by the id the
listener returned; `Transport.cpp:248,298`. -/
structure SendTransport where
  id : String
  closed : Bool := false
  disposed : Bool := false
  producers : Std.ExtTreeMap String Producer := ∅
  dataProducers : Std.ExtTreeMap String DataProducer := ∅
  /-- The observers of the data channels that its peer connection has open, oldest first;
  `sctp_data_channels_` of `webrtc/src/pc/data_channel_controller.h`. -/
  channels : List DataProducer := []

namespace SendTransport

/-- `producers[producer->GetId()] = producer`; `Transport.cpp:248`. -/
def addProducer (t : SendTransport) (p : Producer) : SendTransport :=
  { t with producers := t.producers.insert p.id p }

/-- `dataProducers[dataProducer->GetId()] = dataProducer`; `Transport.cpp:298`. The new object
observes its channel, `DataProducer.cpp:22`. -/
def addDataProducer (t : SendTransport) (p : DataProducer) : SendTransport :=
  { t with
    dataProducers := t.dataProducers.insert p.id p
    channels := t.channels ++ [p] }

/-- `Transport::Close` closes the peer connection, which drops its channels;
`Transport.cpp:49–60`, `data_channel_controller.cc:353–362`. -/
def shut (t : SendTransport) : SendTransport := { t with closed := true, channels := [] }

/-- `OnClose` erases by id, whichever object the table holds there;
`Transport.cpp:329–340`. -/
def onClose (t : SendTransport) (p : Producer) : SendTransport :=
  { t with producers := t.producers.erase p.id }

end SendTransport

/-- Native receive transport behind `RecvTransport.java`. -/
structure RecvTransport where
  id : String
  closed : Bool := false
  disposed : Bool := false
  consumers : Std.ExtTreeMap String Consumer := ∅
  dataConsumers : Std.ExtTreeMap String DataConsumer := ∅
  /-- The observers of the data channels that its peer connection has open, oldest first. -/
  channels : List DataConsumer := []

namespace RecvTransport

/-- `checkTransportExists`, then the closed test every native consume begins with;
`RecvTransport.java:27–31`, `Transport.cpp:415–416,490–491`. -/
def requireOpen (t : RecvTransport) : Except Throwable Unit :=
  if t.disposed then .error .illegalState
  else if t.closed then .error .mediasoup else .ok ()

/-- `consumers[consumer->GetId()] = consumer`; `Transport.cpp:444`. -/
def addConsumer (t : RecvTransport) (c : Consumer) : RecvTransport :=
  { t with consumers := t.consumers.insert c.id c }

/-- `dataConsumers[dataConsumer->GetId()] = dataConsumer`; `Transport.cpp:505`. The new object
observes its channel, `DataConsumer.cpp:24`. -/
def addDataConsumer (t : RecvTransport) (c : DataConsumer) : RecvTransport :=
  { t with
    dataConsumers := t.dataConsumers.insert c.id c
    channels := t.channels ++ [c] }

/-- The peer connection forgets a channel that has closed; the table keeps its data consumer.
`data_channel_controller.cc:327–351`. -/
def channelClosed (t : RecvTransport) (c : DataConsumer) : RecvTransport :=
  { t with channels := t.channels.erase c }

/-- `Transport::Close` closes the peer connection, which drops its channels. -/
def shut (t : RecvTransport) : RecvTransport := { t with closed := true, channels := [] }

/-- What negotiation inside a native consume decides; a returned consumer has a track of
the given kind. -/
inductive ConsumeOutcome where
  | throws
  | returns (kind : Kind)
  deriving DecidableEq, Repr

/-- `RecvTransport.consume` for a message's `id` and `producerId`;
`RecvTransport.java:62–72`, `Transport.cpp:405–470`. -/
def consume (t : RecvTransport) (ref : Ref) (id producerId : String) (o : ConsumeOutcome) :
    Except Throwable (Consumer × RecvTransport) :=
  match t.requireOpen, o with
  | .error ex, _ => .error ex
  | .ok _, .throws => .error .mediasoup
  | .ok _, .returns kind =>
    .ok (⟨ref, id, producerId, kind⟩, t.addConsumer ⟨ref, id, producerId, kind⟩)

/-- `RecvTransport.consumeData`; `RecvTransport.java:101–112`, `Transport.cpp:475–508`. -/
def consumeData (t : RecvTransport) (ref : Ref) (id dataProducerId label : String)
    (o : ConsumeOutcome) : Except Throwable (DataConsumer × RecvTransport) :=
  match t.requireOpen, o with
  | .error ex, _ => .error ex
  | .ok _, .throws => .error .mediasoup
  | .ok _, .returns _ =>
    .ok (⟨ref, id, dataProducerId, label⟩, t.addDataConsumer ⟨ref, id, dataProducerId, label⟩)

/-- `OnClose` of a consumer; `Transport.cpp:536–547`. -/
def onClose (t : RecvTransport) (c : Consumer) : RecvTransport :=
  { t with consumers := t.consumers.erase c.id }

end RecvTransport

end RtcClient.Native
