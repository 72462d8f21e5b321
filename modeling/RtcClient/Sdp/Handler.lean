import RtcClient.Sdp.PeerConnection
import RtcClient.Sdp.Streams
import RtcClient.Ortc.ReduceCodecs
import RtcClient.Ortc.Validate
import RtcClient.Lib.Triple

/-!
# Handlers

`SendHandler` and `RecvHandler` (`deps/libmediasoupclient/src/Handler.cpp`) drive the peer
connection of a transport: they make it offer or answer, and write the description of the
other side themselves with `RemoteSdp`. A method that throws leaves the peer connection and the
remote description as they are at that point.

One record stands for both classes; `nextSendSctpStreamId` belongs to the sending one. Each
`OnConnect` of the listener is recorded with the DTLS role that it was given and whether it
returned.
-/

namespace RtcClient.Sdp

open RtcClient.Ortc RtcClient.Lib RtcClient.Native

/-- The media type of a track. -/
def mediaTypeOf : Kind → MediaType
  | .audio => .audio
  | .video => .video

/-- What happens outside of a handler while one of its methods runs: whether WebRTC adds the
transceiver, how `OnConnect` of the listener ends and with which text it throws, what the
description factory writes into a section, what WebRTC thinks of the contents of the local and of
the remote description, of which a method sets at most one each, and how a float is written. -/
structure Surroundings where
  transceiverAdded : Bool := true
  connect : Except String Unit := .ok ()
  describe : Option Nat → LocalMedia := fun _ ↦ {}
  localContents : Contents := .accepted
  remoteContents : Contents := .accepted
  showFloat : UInt64 → String := fun _ ↦ ""

/-- `Handler.hpp:63–79`. -/
structure Handler where
  pc : PeerConnection := {}
  remoteSdp : RemoteSdp
  forcedLocalDtlsRole : Option String := none
  transportReady : Bool := false
  mapMidTransceiver : Std.ExtTreeMap String Nat := ∅
  hasDataChannelMediaSection : Bool := false
  nextSendSctpStreamId : Nat := 0
  connects : List (String × Bool) := []

/-- Why a method of a handler fails: WebRTC refuses a description, or something else throws. -/
inductive CallFailure where
  | refused (e : DescriptionError)
  | thrown (e : Failure)
  deriving DecidableEq, Repr

/-- A method of a handler. -/
abbrev HandlerM := EStateM CallFailure Handler

namespace Handler

/-- `Handler.cpp:61–82`. -/
def new (t : TransportParameters) : Handler where
  remoteSdp := RemoteSdp.new t
  forcedLocalDtlsRole :=
    if t.dtlsParameters.role = "auto" then none
    else some (if t.dtlsParameters.role = "server" then "client" else "server")

/-- A computation outside of WebRTC. -/
def attempt {α : Type} (x : Except Failure α) : HandlerM α := ofExcept (x.mapError .thrown)

/-- Change the peer connection. -/
def onPc (f : PeerConnection → PeerConnection) (h : Handler) : Handler := { h with pc := f h.pc }

/-- Change the remote description. -/
def onRemote (f : RemoteSdp → RemoteSdp) (h : Handler) : Handler :=
  { h with remoteSdp := f h.remoteSdp }

/-- `pc->CreateOffer`; a peer connection with a session error does not make offers;
`sdp_offer_answer.cc:2410–2450`. -/
def createOffer (env : Surroundings) : HandlerM (List MediaObject) := do
  let h ← get
  if h.pc.sessionError then throw (.refused .session)
  else do
    modify (onPc fun pc ↦ (pc.createOffer env.describe).2)
    return (h.pc.createOffer env.describe).1

/-- `pc->SetLocalDescription`. -/
def setLocalDescription (env : Surroundings) (type : PeerConnection.SdpType)
    (d : List MediaObject) : HandlerM Unit := do
  let h ← get
  modify (onPc fun pc ↦ (pc.setLocalDescription type d env.localContents).2)
  ofExcept ((h.pc.setLocalDescription type d env.localContents).1.mapError .refused)

/-- `pc->SetRemoteDescription` with the text of the remote description. -/
def setRemoteDescription (env : Surroundings) (type : PeerConnection.SdpType) : HandlerM Unit := do
  modify (onRemote fun r ↦ r.getSdp.2)
  let h ← get
  let media := h.remoteSdp.sdpObject.media
  modify (onPc fun pc ↦ (pc.setRemoteDescription type media env.remoteContents).2)
  ofExcept ((h.pc.setRemoteDescription type media env.remoteContents).1.mapError .refused)

/-- The role of the server; `Handler.cpp:141`. -/
def oppositeRole (localDtlsRole : String) : String :=
  if localDtlsRole = "client" then "server" else "client"

/-- `Handler::SetupTransport`; `Handler.cpp:127–147`. The remote role is written before the
listener is asked. -/
def setupTransport (env : Surroundings) (localDtlsRole : String) : HandlerM Unit := do
  modify (onRemote fun r ↦ r.updateDtlsRole (oppositeRole localDtlsRole))
  modify fun h ↦ { h with connects := h.connects ++ [(localDtlsRole, env.connect.isOk)] }
  attempt (env.connect.mapError .error)
  modify fun h ↦ { h with transportReady := true }

/-- The call of `SetupTransport` when the transport is not ready. -/
def ensureTransport (env : Surroundings) (defaultRole : String) : HandlerM Unit := do
  let h ← get
  if h.transportReady then pure ()
  else setupTransport env (h.forcedLocalDtlsRole.getD defaultRole)

end Handler

namespace SendHandler

open Handler

/-- The members of a `SendHandler` that never change. -/
structure Parameters where
  sendingRtpParametersByKind : Kind → RtpParameters
  sendingRemoteRtpParametersByKind : Kind → RtpParameters

/-- `SendHandler::SendResult`, with the transceiver of the sender. -/
structure SendResult where
  localId : String
  transceiver : Nat
  rtpParameters : RtpParameters
  deriving DecidableEq, Repr

/-- Several encodings are told apart by rids; `Handler.cpp:184–191`. -/
def nameRids (encodings : List RtpEncodingParameters) : List RtpEncodingParameters :=
  if encodings.length > 1 then
    encodings.mapIdx fun i e ↦ { e with rid := some ("r" ++ toString (i % 256)) }
  else encodings

/-- `sendingRtpParameters["codecs"][0]["mimeType"]` in lower case; null has no text. -/
def firstMimeType : List (Option RtpCodecParameters) → Except Failure String
  | some c :: _ => .ok (lower c.mimeType)
  | _ => .error .json

/-- Codecs of which none is null. -/
def presentCodecs (codecs : List (Option RtpCodecParameters)) :
    Except Failure (List RtpCodecParameters) :=
  codecs.mapM fun
    | some c => .ok c
    | none => .error .json

/-- The offer with the legacy simulcast in its section at a position; `Handler.cpp:253–259`. -/
def withLegacySimulcast (offer : List MediaObject) (idx numStreams : Nat) :
    Except Failure (List MediaObject) :=
  match offer[idx]? with
  | none => .error (.error "a=ssrc line with msid information not found")
  | some m => do return offer.set idx (← addLegacySimulcast m numStreams)

/-- The `try` block of `Send`: the mid of the transceiver, and whether the section has the
legacy simulcast; `Handler.cpp:223–271`. -/
def offerTrack (env : Surroundings) (encodings : List RtpEncodingParameters)
    (codecs : List (Option RtpCodecParameters)) (idx ref : Nat) : HandlerM (String × Bool) := do
  let offer ← createOffer env
  ensureTransport env "server"
  let layers := parseScalabilityMode
    ((encodings.head?.bind RtpEncodingParameters.scalabilityMode).getD "")
  let mimeType ← attempt (firstMimeType codecs)
  let hackVp9Svc :=
    encodings.length == 1 && decide (1 < layers.spatialLayers) && mimeType == "video/vp9"
  let offer ← attempt
    (if hackVp9Svc then withLegacySimulcast offer idx layers.spatialLayers else .ok offer)
  setLocalDescription env .offer offer
  let h ← get
  match (h.pc.transceivers.find? fun t ↦ t.ref == ref).bind RtpTransceiver.mid with
  | none => throw (.thrown .badOptionalAccess)
  | some localId => return (localId, hackVp9Svc)

/-- `fillJsonRtpEncodingParameters`; `Handler.cpp:855–877`. -/
def fillEncoding (json encoding : RtpEncodingParameters) : RtpEncodingParameters :=
  { json with
    rid := encoding.rid <|> json.rid
    scalabilityMode := encoding.scalabilityMode <|> json.scalabilityMode
    settings := encoding.settings }

/-- The encodings in the parameters of the sender; `Handler.cpp:289–320`. The first element of
an empty array is read without a check. -/
def describeEncodings (offer : MediaObject) (encodings : List RtpEncodingParameters)
    (hackVp9Svc : Bool) : Except Failure (List RtpEncodingParameters) :=
  match encodings with
  | [] => getRtpEncodings offer
  | [encoding] => do
    match ← getRtpEncodings offer with
    | [] => throw .undefined
    | first :: rest =>
      return fillEncoding first encoding :: if hackVp9Svc then [] else rest
  | _ => .ok (encodings.map (fillEncoding {}))

/-- Simulcast with VP8 or H264 has three temporal layers; `Handler.cpp:322–338`. -/
def addScalabilityMode (mimeType : String) (encodings : List RtpEncodingParameters) :
    List RtpEncodingParameters :=
  if encodings.length > 1 ∧ (mimeType = "video/vp8" ∨ mimeType = "video/h264") then
    encodings.map fun e ↦ { e with scalabilityMode := some "S1T3" }
  else encodings

/-- The RTP parameters of the sender, and the section that answers it; `Handler.cpp:281–345`. -/
def answerTrack (env : Surroundings) (p : Parameters) (kind : Kind)
    (encodings : List RtpEncodingParameters) (options : Option ProducerCodecOptions)
    (codecs remoteCodecs : List (Option RtpCodecParameters)) (idx : Nat)
    (reuseMid localId : String) (hackVp9Svc : Bool) (h : Handler) :
    Except Failure (RemoteSdp × RtpParameters) := do
  match (h.pc.localDescription.getD [])[idx]? with
  | none => throw .json
  | some offer =>
    let encodings ← describeEncodings offer encodings hackVp9Svc
    let mimeType ← firstMimeType codecs
    let rtp := p.sendingRtpParametersByKind kind
    let offerRtp : RtpParameters := { rtp with
      mid := some localId
      codecs := codecs.reduceOption
      encodings := addScalabilityMode mimeType encodings
      rtcp := { rtp.rtcp with cname := some (getCname offer) } }
    let answerRtp := { p.sendingRemoteRtpParametersByKind kind with
      codecs := ← presentCodecs remoteCodecs }
    h.remoteSdp.send env.showFloat offer reuseMid offerRtp answerRtp options

/-- What `Send` does after a failure of its `try` block; `Handler.cpp:272–279`. -/
def undo (ref : Nat) (pc : PeerConnection) : PeerConnection := (pc.deactivate ref).clearTrack ref

/-- `SendHandler::Send` of a track; `Handler.cpp:170–363`. -/
def send (env : Surroundings) (p : Parameters) (kind : Kind)
    (encodings : List RtpEncodingParameters) (options : Option ProducerCodecOptions)
    (codec : Option CodecKey) : HandlerM SendResult := do
  let encodings := nameRids encodings
  let codecs ← attempt (reduceCodecs (p.sendingRtpParametersByKind kind).codecs codec)
  let remoteCodecs ← attempt (reduceCodecs (p.sendingRemoteRtpParametersByKind kind).codecs codec)
  let h ← get
  let (idx, reuseMid) := h.remoteSdp.getNextMediaSectionIdx
  attempt (if env.transceiverAdded then .ok () else .error (.error "error creating transceiver"))
  let ref := h.pc.nextRef
  modify (onPc fun pc ↦ (pc.addTransceiver (mediaTypeOf kind)).2)
  let (localId, hackVp9Svc) ← tryCatch (offerTrack env encodings codecs idx ref) fun e ↦ do
    modify (onPc (undo ref))
    throw e
  let h ← get
  let (remoteSdp, rtp) ← attempt
    (answerTrack env p kind encodings options codecs remoteCodecs idx reuseMid localId hackVp9Svc h)
  modify (onRemote fun _ ↦ remoteSdp)
  setRemoteDescription env .answer
  modify fun h ↦ { h with mapMidTransceiver := h.mapMidTransceiver.insert localId ref }
  return ⟨localId, ref, rtp⟩

/-- The part of a `DataChannelInit` that is looked at. -/
structure DataChannelInit where
  ordered : Bool := true
  protocol : String := ""
  maxRetransmitTime : Option Int := none
  maxRetransmits : Option Int := none
  deriving DecidableEq, Repr

/-- `Handler.cpp:375–392`. -/
def sctpStreamParameters (streamId : Nat) (init : DataChannelInit) : Json :=
  let limit (key : String) (v : Option Int) : Members Json :=
    match v with
    | some n => [(key, .int n)]
    | none => []
  .obj (limit "maxPacketLifeTime" init.maxRetransmitTime ++
    limit "maxRetransmits" init.maxRetransmits ++
    [("ordered", .bool init.ordered), ("protocol", .str init.protocol),
      ("streamId", .unsigned streamId)])

/-- `SctpNumStreamsMis`; `Handler.cpp:16`. -/
def sctpNumStreamsMis : Nat := 1024

/-- The negotiation of the first data channel; `Handler.cpp:407–439`. -/
def offerData (env : Surroundings) : HandlerM Unit := do
  let offer ← createOffer env
  match offer.find? fun m ↦ m.type == .application with
  | none => throw (.thrown (.error "Missing 'application' media section in SDP offer"))
  | some m =>
    ensureTransport env "server"
    setLocalDescription env .offer offer
    let h ← get
    let remoteSdp ← attempt (h.remoteSdp.sendSctpAssociation env.showFloat m)
    modify (onRemote fun _ ↦ remoteSdp)
    setRemoteDescription env .answer
    modify fun h ↦ { h with hasDataChannelMediaSection := true }

/-- `SendHandler::SendDataChannel`; `Handler.cpp:365–448`. -/
def sendDataChannel (env : Surroundings) (init : DataChannelInit) : HandlerM Json := do
  let h ← get
  let streamId := h.nextSendSctpStreamId
  let parameters ← attempt (validateSctpStreamParameters (sctpStreamParameters streamId init))
  match h.pc.createDataChannel streamId with
  | none => throw (.thrown (.error "Failed creating data channel"))
  | some pc =>
    modify fun h ↦ { h with
      pc := pc, nextSendSctpStreamId := (h.nextSendSctpStreamId + 1) % sctpNumStreamsMis }
    if h.hasDataChannelMediaSection then return parameters
    else do
      offerData env
      return parameters

/-- An offer and the answer of the remote description as it stands. -/
def renegotiate (env : Surroundings) : HandlerM Unit := do
  let offer ← createOffer env
  setLocalDescription env .offer offer
  setRemoteDescription env .answer

/-- The transceiver of a local id; the map keeps the pointer to one that is gone. -/
def findTransceiver (localId : String) (h : Handler) : Except Failure RtpTransceiver :=
  match h.mapMidTransceiver[localId]? with
  | none => .error (.error "associated RtpTransceiver not found")
  | some ref =>
    match h.pc.transceivers.find? fun t ↦ t.ref == ref with
    | none => .error .undefined
    | some t => .ok t

/-- `SendHandler::StopSending`; `Handler.cpp:450–484`. The track is taken off the sender first. -/
def stopSending (env : Surroundings) (localId : String) : HandlerM Unit := do
  let h ← get
  let t ← attempt (findTransceiver localId h)
  modify (onPc fun pc ↦ (pc.clearTrack t.ref).removeTrack t.ref)
  match t.mid with
  | none => throw (.thrown .badOptionalAccess)
  | some mid =>
    let remoteSdp ← attempt (h.remoteSdp.closeMediaSection mid)
    modify (onRemote fun _ ↦ remoteSdp)
    renegotiate env

/-- `SendHandler::ReplaceTrack`; `Handler.cpp:486–503`. -/
def replaceTrack (localId : String) (track : Bool) : HandlerM Unit := do
  let h ← get
  let t ← attempt (findTransceiver localId h)
  modify (onPc fun pc ↦ { pc with
    transceivers := updateTransceiver pc.transceivers t.ref fun t ↦ { t with hasTrack := track } })

/-- `SendHandler::RestartIce`; `Handler.cpp:589–617`. -/
def restartIce (env : Surroundings) (ice : IceParameters) : HandlerM Unit := do
  modify (onRemote fun r ↦ r.updateIceParameters ice)
  let h ← get
  if h.transportReady then renegotiate env else pure ()

end SendHandler

namespace RecvHandler

open Handler

/-- The mid of a new receiver; `Handler.cpp:643–648`. -/
def localIdOf (rtp : RtpParameters) (h : Handler) : String :=
  match rtp.mid with
  | some mid => if mid = "" then toString h.mapMidTransceiver.size else mid
  | none => toString h.mapMidTransceiver.size

/-- The answer to the remote description, and its local id if there is one to look for;
`Handler.cpp:654–686,731–757`. -/
def answer (env : Surroundings) (localId : Option String) : HandlerM Unit := do
  setRemoteDescription env .offer
  let h ← get
  let answer := h.pc.createAnswer env.describe
  attempt (match localId with
    | some mid => if answer.any fun m ↦ m.mid == mid then .ok () else .error .undefined
    | none => .ok ())
  ensureTransport env "client"
  setLocalDescription env .answer answer

/-- The remote description with the section of a new receiver; `Handler.cpp:650–652`. -/
def offerTrack (env : Surroundings) (id : String) (kind : Kind) (rtp : RtpParameters)
    (h : Handler) : Except Failure RemoteSdp :=
  match rtp.rtcp.cname with
  | none => .error .undefined
  | some cname =>
    h.remoteSdp.receive env.showFloat (localIdOf rtp h) (mediaTypeOf kind) rtp cname id

/-- `RecvHandler::Receive`; `Handler.cpp:634–709`. -/
def receive (env : Surroundings) (id : String) (kind : Kind) (rtp : RtpParameters) :
    HandlerM String := do
  let h ← get
  let localId := localIdOf rtp h
  let remoteSdp ← attempt (offerTrack env id kind rtp h)
  modify (onRemote fun _ ↦ remoteSdp)
  answer env (some localId)
  let h ← get
  match findByMid h.pc.transceivers localId with
  | none => throw (.thrown (.error "new RTCRtpTransceiver not found"))
  | some t =>
    modify fun h ↦ { h with mapMidTransceiver := h.mapMidTransceiver.insert localId t.ref }
    return localId

/-- The parameters of a stream that is received; `Handler.cpp:718–724`. -/
def sctpStreamParameters (streamId : Nat) (ordered : Bool) : Json :=
  .obj [("ordered", .bool ordered), ("streamId", .int streamId)]

/-- `RecvHandler::ReceiveDataChannel`; `Handler.cpp:711–768`. -/
def receiveDataChannel (env : Surroundings) (streamId : Nat) (ordered : Bool) : HandlerM Json := do
  let h ← get
  let parameters ← attempt (validateSctpStreamParameters (sctpStreamParameters streamId ordered))
  match h.pc.createDataChannel streamId with
  | none => throw (.thrown (.error "Failed creating data channel"))
  | some pc =>
    modify (onPc fun _ ↦ pc)
    if h.hasDataChannelMediaSection then return parameters
    else do
      let remoteSdp ← attempt (h.remoteSdp.recvSctpAssociation env.showFloat)
      modify (onRemote fun _ ↦ remoteSdp)
      answer env none
      modify fun h ↦ { h with hasDataChannelMediaSection := true }
      return parameters

/-- The remote description as it stands is offered and answered, without a look at the
transport. -/
def renegotiate (env : Surroundings) : HandlerM Unit := do
  setRemoteDescription env .offer
  let h ← get
  setLocalDescription env .answer (h.pc.createAnswer env.describe)

/-- `RecvHandler::StopReceiving`; `Handler.cpp:770–803`. -/
def stopReceiving (env : Surroundings) (localId : String) : HandlerM Unit := do
  let h ← get
  let t ← attempt (SendHandler.findTransceiver localId h)
  match t.mid with
  | none => throw (.thrown .badOptionalAccess)
  | some mid =>
    let remoteSdp ← attempt (h.remoteSdp.closeMediaSection mid)
    modify (onRemote fun _ ↦ remoteSdp)
    renegotiate env

/-- `RecvHandler::RestartIce`; `Handler.cpp:824–850`. -/
def restartIce (env : Surroundings) (ice : IceParameters) : HandlerM Unit := do
  modify (onRemote fun r ↦ r.updateIceParameters ice)
  let h ← get
  if h.transportReady then renegotiate env else pure ()

end RecvHandler

end RtcClient.Sdp
