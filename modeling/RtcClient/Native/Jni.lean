import RtcClient.Native.Transport
import RtcClient.Lib.Widths

/-!
# Integers on their way into native code

A stream id is a `long` in Java, a `jlong` at the boundary and a `uint16_t` in
`RecvTransport::ConsumeData`; a spatial layer is an `int`, a `jint` and a `uint8_t`.
The glue code converts without a range check (`jni/transport_jni.cpp:363–402`,
`jni/producer_jni.cpp:65–71,109–124`). Behind it the data channel is created by the
bundled WebRTC, which gives out each stream id once and none above 1023
(`deps/webrtc/src/pc/sctp_data_channel.cc:121–142`). SDP and the encoder are an oracle,
as elsewhere: they only decide whether a call throws.
-/

namespace RtcClient.Native.Jni

open RtcClient.Lib

/-- The conversion of a `jlong` to `uint16_t`; `jni/transport_jni.cpp:400`. -/
def toUint16 (j : Int64) : UInt16 := j.toUInt64.toUInt16

/-- `static_cast<uint8_t>` of a `jint`; `jni/producer_jni.cpp:121`. -/
def toUint8 (j : Int32) : UInt8 := j.toUInt32.toUInt8

/-- The conversion of a `uint8_t` to `jint`; `jni/producer_jni.cpp:69–70`. -/
def toJint (u : UInt8) : Int32 := Int32.ofNat u.toNat

section DataChannels

/-- `kMaxSctpSid`; `media/sctp/sctp_transport_internal.h:46–47`. -/
def kMaxSctpSid : Nat := 1023

/-- The stream ids in use; `SctpSidAllocator`, `pc/sctp_data_channel.h`. -/
structure SctpSidAllocator where
  usedSids : Finset Nat := ∅

/-- `pc/sctp_data_channel.cc:136–142`, for the ids that are not negative. -/
def SctpSidAllocator.isSidAvailable (a : SctpSidAllocator) (sid : Nat) : Bool :=
  decide (sid ≤ kMaxSctpSid) && decide (sid ∉ a.usedSids)

/-- `pc/sctp_data_channel.cc:121–127`. -/
def SctpSidAllocator.reserveSid (a : SctpSidAllocator) (sid : Nat) : Option SctpSidAllocator :=
  if a.isSidAvailable sid then some ⟨insert sid a.usedSids⟩ else none

/-- What a receive transport has for data channels besides its tables: whether the server
gave SCTP parameters, the state of its peer connection, and whether a data channel has been
negotiated before; `Transport.hpp`, `Handler.hpp`. -/
structure Channels where
  hasSctpParameters : Bool := true
  pcClosed : Bool := false
  sidAllocator : SctpSidAllocator := {}
  hasDataChannelMediaSection : Bool := false

/-- `PeerConnection::CreateDataChannel` of a negotiated channel with an id;
`pc/data_channel_controller.cc:257–304`, `PeerConnection.cpp:369–387`. -/
def Channels.createDataChannel (ch : Channels) (sid : UInt16) : Option Channels :=
  if ch.pcClosed then none
  else (ch.sidAllocator.reserveSid sid.toNat).map fun a ↦ { ch with sidAllocator := a }

/-- `RecvHandler::ReceiveDataChannel`, which returns a channel with the id it is given. The
first channel also renegotiates, and a failure there leaves the id in use;
`Handler.cpp:711–762`. -/
def Channels.receiveDataChannel (ch : Channels) (sid : UInt16) (negotiates : Bool) :
    Except Throwable Nat × Channels :=
  match ch.createDataChannel sid with
  | none => (.error .mediasoup, ch)
  | some ch' =>
    if ch.hasDataChannelMediaSection || negotiates then
      (.ok sid.toNat, { ch' with hasDataChannelMediaSection := true })
    else (.error .mediasoup, ch')

/-- What the rest of a `consumeData` call meets: whether `appData` parses, and whether the
negotiation for a first channel succeeds. -/
structure ConsumeDataEnv where
  appDataParses : Bool := true
  negotiates : Bool := true
  deriving DecidableEq, Repr

/-- `RecvTransport::ConsumeData` up to the new channel, whose id is the result;
`Transport.cpp:475–508`. -/
def nativeConsumeData (t : RecvTransport) (ch : Channels) (id producerId : String)
    (streamId : UInt16) (env : ConsumeDataEnv) : Except Throwable Nat × Channels :=
  if t.closed then (.error .mediasoup, ch)
  else if id = "" then (.error .mediasoup, ch)
  else if producerId = "" then (.error .mediasoup, ch)
  else if !ch.hasSctpParameters then (.error .mediasoup, ch)
  else ch.receiveDataChannel streamId env.negotiates

/-- `JNI_RecvTransport_ConsumeData`; `jni/transport_jni.cpp:363–409`. -/
def jniConsumeData (t : RecvTransport) (ch : Channels) (id producerId : String)
    (streamId : Int64) (env : ConsumeDataEnv) : Except Throwable Nat × Channels :=
  if !env.appDataParses then (.error .mediasoup, ch)
  else nativeConsumeData t ch id producerId (toUint16 streamId) env

/-- `RecvTransport.consumeData` with the stream id of the message; `RecvTransport.java:101–112`,
`RtcEngineEx.java:1062,1105–1107`. -/
def consumeData (t : RecvTransport) (ch : Channels) (id producerId : String) (streamId : Int64)
    (env : ConsumeDataEnv) : Except Throwable Nat × Channels :=
  if t.disposed then (.error .illegalState, ch)
  else jniConsumeData t ch id producerId streamId env

/-- The call opens the channel of the message or throws. -/
def StreamIdKept (t : RecvTransport) (ch : Channels) (id producerId : String) (streamId : Int64)
    (env : ConsumeDataEnv) : Prop :=
  ∀ sid, (consumeData t ch id producerId streamId env).1 = .ok sid → (sid : Int) = streamId.toInt

/-- Nothing on the way keeps the call from opening a channel with the id `sid`. -/
structure Opens (t : RecvTransport) (ch : Channels) (id producerId : String) (sid : UInt16)
    (env : ConsumeDataEnv) : Prop where
  notDisposed : t.disposed = false
  parses : env.appDataParses = true
  notClosed : t.closed = false
  id : id ≠ ""
  producerId : producerId ≠ ""
  sctp : ch.hasSctpParameters = true
  pcOpen : ch.pcClosed = false
  inRange : sid.toNat ≤ kMaxSctpSid
  unused : sid.toNat ∉ ch.sidAllocator.usedSids
  negotiated : ch.hasDataChannelMediaSection = true ∨ env.negotiates = true

variable {t : RecvTransport} {ch : Channels} {id producerId : String} {env : ConsumeDataEnv}

/-- An id is reserved when it is in range and unused. -/
theorem SctpSidAllocator.reserveSid_isSome (a : SctpSidAllocator) (sid : Nat) :
    (a.reserveSid sid).isSome = true ↔ sid ≤ kMaxSctpSid ∧ sid ∉ a.usedSids := by
  rw [reserveSid, isSidAvailable]
  split
  · next h => simpa using h
  · next h => simpa using h

private theorem Channels.createDataChannel_isSome (ch : Channels) (sid : UInt16) :
    (ch.createDataChannel sid).isSome = true ↔ ch.pcClosed = false ∧
      sid.toNat ≤ kMaxSctpSid ∧ sid.toNat ∉ ch.sidAllocator.usedSids := by
  rw [createDataChannel]
  split
  · next h => simp [h]
  · next h => rw [Option.isSome_map, SctpSidAllocator.reserveSid_isSome]; simp [h]

/-- The handler returns a channel, and then with the id it was given, exactly when the id
can be reserved and the negotiation is done or succeeds. -/
theorem Channels.receiveDataChannel_ok_iff (ch : Channels) (sid : UInt16) (negotiates : Bool)
    (n : Nat) :
    (ch.receiveDataChannel sid negotiates).1 = .ok n ↔
      (ch.createDataChannel sid).isSome = true ∧
      (ch.hasDataChannelMediaSection = true ∨ negotiates = true) ∧ n = sid.toNat := by
  rw [receiveDataChannel]
  split
  · next h => simp [h]
  · next ch' h =>
    rw [h, ← Bool.or_eq_true]
    split
    · next hn => simp [hn, eq_comm]
    · next hn => simp [hn]

/-- The call returns exactly when nothing keeps it from opening the narrowed id, and that
is the id of the channel. -/
theorem consumeData_ok_iff (streamId : Int64) (n : Nat) :
    (consumeData t ch id producerId streamId env).1 = .ok n ↔
      Opens t ch id producerId (toUint16 streamId) env ∧ n = (toUint16 streamId).toNat := by
  constructor
  · intro h
    simp only [consumeData, jniConsumeData, nativeConsumeData] at h
    -- Each test that throws contradicts the result; the last branch is the handler's.
    repeat' split at h
    all_goals first
      | cases h
      | skip
    rw [Channels.receiveDataChannel_ok_iff, Channels.createDataChannel_isSome] at h
    obtain ⟨⟨hpc, hrange, hunused⟩, hneg, hn⟩ := h
    refine ⟨?_, hn⟩
    constructor <;> simp_all
  · rintro ⟨h, rfl⟩
    simp only [consumeData, jniConsumeData, nativeConsumeData, h.notDisposed, h.parses,
      h.notClosed, h.id, h.producerId, h.sctp]
    exact (Channels.receiveDataChannel_ok_iff ..).mpr
      ⟨(Channels.createDataChannel_isSome ..).mpr ⟨h.pcOpen, h.inRange, h.unused⟩,
        h.negotiated, rfl⟩

/-- The narrowed stream id is the stream id exactly when that is one of `uint16_t`. -/
theorem toUint16_toNat_eq_iff (streamId : Int64) :
    ((toUint16 streamId).toNat : Int) = streamId.toInt ↔
      0 ≤ streamId.toInt ∧ streamId.toInt < 2 ^ 16 :=
  toNat_setWidth_eq_toInt_iff streamId.toBitVec (by decide)

/-- The stream id is kept exactly when it is in the range of `uint16_t` or the call throws. -/
theorem streamIdKept_iff (streamId : Int64) :
    StreamIdKept t ch id producerId streamId env ↔
      (0 ≤ streamId.toInt ∧ streamId.toInt < 2 ^ 16) ∨
      ¬ Opens t ch id producerId (toUint16 streamId) env := by
  rw [← toUint16_toNat_eq_iff, or_iff_not_imp_right, not_not]
  constructor
  · intro h hopens
    exact h _ ((consumeData_ok_iff streamId _).mpr ⟨hopens, rfl⟩)
  · intro h sid hsid
    obtain ⟨hopens, rfl⟩ := (consumeData_ok_iff streamId sid).mp hsid
    exact h hopens

/-- A call on a transport that exists throws nothing but a `MediasoupException`. -/
theorem consumeData_error (hd : t.disposed = false) {streamId : Int64} {ex : Throwable}
    (h : (consumeData t ch id producerId streamId env).1 = .error ex) : ex = .mediasoup := by
  simp only [consumeData, hd, Bool.false_eq_true, if_false, jniConsumeData, nativeConsumeData,
    Channels.receiveDataChannel] at h
  repeat' split at h
  all_goals cases h
  all_goals rfl

/-- The answer of native code that the engine's model takes from an oracle. -/
def outcome (t : RecvTransport) (ch : Channels) (id producerId : String) (streamId : Int64)
    (env : ConsumeDataEnv) : RecvTransport.ConsumeOutcome :=
  match (consumeData t ch id producerId streamId env).1 with
  | .ok _ => .returns .audio
  | .error _ => .throws

/-- With that answer the engine's model of `consumeData` returns or throws as the call
does. -/
theorem consumeData_refines (ref : Ref) (label : String) (streamId : Int64) :
    (t.consumeData ref id producerId label (outcome t ch id producerId streamId env)).map
        (fun _ ↦ ()) =
      (consumeData t ch id producerId streamId env).1.map fun _ ↦ () := by
  cases hd : t.disposed with
  | true => simp [RecvTransport.consumeData, RecvTransport.requireOpen, consumeData, hd, Except.map]
  | false =>
    cases hr : (consumeData t ch id producerId streamId env).1 with
    | ok n =>
      have hopens := ((consumeData_ok_iff streamId n).mp hr).1
      simp [RecvTransport.consumeData, RecvTransport.requireOpen, outcome, hd, hr,
        hopens.notClosed, Except.map]
    | error ex =>
      rw [consumeData_error hd hr]
      cases hc : t.closed with
      | true => simp [RecvTransport.consumeData, RecvTransport.requireOpen, hd, hc, Except.map]
      | false =>
        simp [RecvTransport.consumeData, RecvTransport.requireOpen, outcome, hd, hc, hr, Except.map]

end DataChannels

section SpatialLayers

/-- A producer as `SetMaxSpatialLayer` sees it; `Producer.hpp:70–93`. -/
structure LayeredProducer where
  kind : Kind
  closed : Bool := false
  maxSpatialLayer : UInt8 := 0
  deriving DecidableEq, Repr

namespace LayeredProducer

/-- `Producer::SetMaxSpatialLayer`; the sender of the track accepts the new encodings or
throws; `Producer.cpp:195–211`. -/
def nativeSetMaxSpatialLayer (p : LayeredProducer) (spatialLayer : UInt8) (accepts : Bool) :
    Except Throwable LayeredProducer :=
  if p.closed then .error .mediasoup
  else if p.kind ≠ .video then .error .mediasoup
  else if spatialLayer = p.maxSpatialLayer then .ok p
  else if accepts then .ok { p with maxSpatialLayer := spatialLayer }
  else .error .mediasoup

/-- `Producer.java:106–108`, `jni/producer_jni.cpp:113–128`. -/
def setMaxSpatialLayer (p : LayeredProducer) (layer : Int32) (accepts : Bool) :
    Except Throwable LayeredProducer :=
  p.nativeSetMaxSpatialLayer (toUint8 layer) accepts

/-- `Producer.java:72–74`, `jni/producer_jni.cpp:65–71`. -/
def getMaxSpatialLayer (p : LayeredProducer) : Int32 := toJint p.maxSpatialLayer

/-- After a `setMaxSpatialLayer` that returns, `getMaxSpatialLayer` returns its argument. -/
def LayerKept (p : LayeredProducer) (layer : Int32) (accepts : Bool) : Prop :=
  ∀ p', p.setMaxSpatialLayer layer accepts = .ok p' → p'.getMaxSpatialLayer = layer

/-- Nothing on the way keeps the call from setting the layer `u`. -/
structure Sets (p : LayeredProducer) (u : UInt8) (accepts : Bool) : Prop where
  notClosed : p.closed = false
  video : p.kind = .video
  accepted : u = p.maxSpatialLayer ∨ accepts = true

/-- The call returns exactly when nothing keeps it from setting the narrowed layer, and
that is the layer of the producer then. -/
theorem setMaxSpatialLayer_ok_iff (p p' : LayeredProducer) (layer : Int32) (accepts : Bool) :
    p.setMaxSpatialLayer layer accepts = .ok p' ↔
      p.Sets (toUint8 layer) accepts ∧ p' = { p with maxSpatialLayer := toUint8 layer } := by
  rw [setMaxSpatialLayer, nativeSetMaxSpatialLayer]
  constructor
  · intro h
    split at h
    · cases h
    · next hc =>
      split at h
      · cases h
      · next hk =>
        have hset : ∀ hu, p.Sets (toUint8 layer) accepts :=
          fun hu ↦ ⟨by simpa using hc, by simpa using hk, hu⟩
        split at h
        · next hu =>
          cases h
          exact ⟨hset (.inl hu), by rw [hu]⟩
        · split at h
          · next ha =>
            cases h
            exact ⟨hset (.inr ha), rfl⟩
          · cases h
  · rintro ⟨h, rfl⟩
    rw [if_neg (by simp [h.notClosed]), if_neg (by simp [h.video])]
    split
    · next hu => rw [hu]
    · next hu => rw [if_pos (h.accepted.resolve_left hu)]

/-- The narrowed layer is the layer exactly when that is one of `uint8_t`. -/
theorem toJint_toUint8_eq_iff (layer : Int32) :
    toJint (toUint8 layer) = layer ↔ 0 ≤ layer.toInt ∧ layer.toInt < 2 ^ 8 := by
  have hlt := (toUint8 layer).toNat_lt
  have hint : (toJint (toUint8 layer)).toInt = (toUint8 layer).toNat :=
    Int32.toInt_ofNat_of_lt (by omega)
  rw [← Int32.toInt_inj, hint]
  exact toNat_setWidth_eq_toInt_iff layer.toBitVec (by decide)

/-- The layer is kept exactly when it is in the range of `uint8_t` or the call throws. -/
theorem layerKept_iff (p : LayeredProducer) (layer : Int32) (accepts : Bool) :
    p.LayerKept layer accepts ↔
      (0 ≤ layer.toInt ∧ layer.toInt < 2 ^ 8) ∨ ¬ p.Sets (toUint8 layer) accepts := by
  rw [← toJint_toUint8_eq_iff, or_iff_not_imp_right, not_not]
  constructor
  · intro h hsets
    exact h _ ((p.setMaxSpatialLayer_ok_iff _ layer accepts).mpr ⟨hsets, rfl⟩)
  · intro h p' hp'
    obtain ⟨hsets, rfl⟩ := (p.setMaxSpatialLayer_ok_iff p' layer accepts).mp hp'
    exact h hsets

end LayeredProducer

end SpatialLayers

/-- For every transport and every `long`: the channel of the message is opened, or the call
throws, exactly when the id is one of `uint16_t` or something keeps the call from opening the
narrowed id. For every producer and every `int`: the layer read back is the layer set exactly
when it is one of `uint8_t` or something keeps the call from setting the narrowed layer. -/
theorem integers_kept_iff (t : RecvTransport) (ch : Channels) (id producerId : String)
    (streamId : Int64) (env : ConsumeDataEnv) (p : LayeredProducer) (layer : Int32)
    (accepts : Bool) :
    (StreamIdKept t ch id producerId streamId env ↔
        (0 ≤ streamId.toInt ∧ streamId.toInt < 2 ^ 16) ∨
          ¬ Opens t ch id producerId (toUint16 streamId) env) ∧
      (p.LayerKept layer accepts ↔
        (0 ≤ layer.toInt ∧ layer.toInt < 2 ^ 8) ∨ ¬ p.Sets (toUint8 layer) accepts) :=
  ⟨streamIdKept_iff streamId, p.layerKept_iff layer accepts⟩

/-- On a new transport the stream id 65536 opens channel 0; on a new video producer the
layer 256 is read back as 0 and the layer -1 as 255. -/
theorem integers_wrap :
    (consumeData { id := "t" } {} "c" "p" 65536 {}).1 = .ok 0 ∧
    ¬ StreamIdKept { id := "t" } {} "c" "p" 65536 {} ∧
    ¬ LayeredProducer.LayerKept { kind := .video } 256 true ∧
    ¬ LayeredProducer.LayerKept { kind := .video } (-1) true := by
  refine ⟨by decide, ?_, ?_, ?_⟩
  · intro h
    exact absurd (h 0 (by decide)) (by decide)
  · intro h
    exact absurd (h { kind := .video } (by decide)) (by decide)
  · intro h
    exact absurd (h { kind := .video, maxSpatialLayer := 255 } (by decide)) (by decide)

end RtcClient.Native.Jni
