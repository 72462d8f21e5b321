import RtcClient.Store.RoomStore

/-!
# State of one engine

Fields of `rtc-sdk/src/main/java/com/zeewain/rtc/internal/RtcEngineEx.java:61–132`, the
closed flags of the native objects the engine has made, and the calls it has sent out:
server requests, application callbacks, and releases of native objects, oldest first.
Capture (`PeerConnectionUtils`) is an oracle of the tasks that use it.
-/

namespace RtcClient.Engine

open RtcClient.Native RtcClient.Store

/-- `RtcEngineConfig.java`; context and handler are the environment's. -/
structure RtcEngineConfig where
  channelProfile : Int := 0
  roomId : Option String := none
  userId : Option String := none
  token : Option String := none
  appId : Option String := none
  displayName : Option String := none
  backgroundUrl : Option String := none
  deriving DecidableEq, Repr

/-- `RtcEngineEx.java:102–112`. -/
structure ConsumerHolder where
  peerId : String
  mConsumer : Consumer
  deriving DecidableEq, Repr

/-- `RtcEngineEx.java:114–125`. -/
structure DataConsumerHolder where
  peerId : String
  mDataConsumer : DataConsumer
  deriving DecidableEq, Repr

/-- A local audio or video track. -/
structure LocalTrack where
  enabled : Bool
  disposed : Bool := false
  deriving DecidableEq, Repr

/-- `ErrorCode.java`. -/
inductive ErrorCode where
  | notReady
  | invalidToken
  | connectionLost
  | configParameterNotMatch
  deriving DecidableEq, Repr

/-- Calls on the application's handler; `IRtcEngineEventHandler.java`. -/
inductive Callback where
  | onError (err : ErrorCode)
  | onJoinChannelSuccess (uid : Option String)
  | onLeaveChannel
  | onCloseChannel
  | onUserJoined (uid : String)
  | onUserOffline (uid : Option String)
  | onUserOnline (users : List PeerInfo)
  | onRemoteVideoStateChanged (uid trackId : String) (state : Bool)
  deriving DecidableEq, Repr

/-- Values the engine puts into its room requests. -/
inductive JSONValue where
  | null
  | str (s : String)
  | int (n : Int)
  deriving DecidableEq, Repr

/-- A nullable Java string as a JSON value. -/
def JSONValue.ofOption (s : Option String) : JSONValue := s.elim .null .str

/-- A request body in the order of its `put` calls. -/
abbrev JSONObject := List (String × JSONValue)

/-- Arguments of `updateFusionSetting`, its floats by their bits;
`RtcEngineEx.java:1265–1288`. -/
structure FusionSetting where
  userNumber : Int
  scale : BitVec 32
  fromBottomRatio : BitVec 32
  scaleFromLeft : BitVec 32
  scaleFromWidth : BitVec 32
  rotationAngle : Int
  deriving DecidableEq, Repr

/-- Requests of `RtcServer.java:13–69` with the fields the engine sets. Capability, ICE,
DTLS and RTP texts pass through the engine unread and are left out. -/
inductive Request where
  | initClient (config : RtcEngineConfig)
  | exitRoom (userId roomId : Option String)
  | closeRoom (userId roomId : Option String)
  | getRouterRtpCapabilities (roomId userId : Option String)
  | createSendTransport
  | createRecvTransport (userId roomId : Option String)
  | createRoom (body : JSONObject)
  | createRoomMediasoup (body : JSONObject)
  | joinRoom (roomId userId : Option String) (fusion : Bool)
  | joinRoomMediasoup (displayName roomId userId : Option String)
  | createUserProduce (transportId : String) (kind : Kind) (roomId userId : Option String)
  | createUserTextProduce (transportId : String) (label : Label) (roomId userId : Option String)
  | closeUserProducer (producerId : String)
  | startFusion (roomId userId : Option String)
  | stopFusion (roomId userId : Option String)
  | updateFusionSetting (setting : FusionSetting) (roomId userId : Option String)
  | updateFusionBackground (backgroundUrl roomId userId : Option String)
  | restartICE (transportId roomId userId : Option String)
  | changeDisplayUserName (displayName roomId userId : Option String)
  deriving DecidableEq, Repr

/-- What the engine does to the world outside its own fields. -/
inductive Call where
  | callback (c : Callback)
  | request (r : Request)
  /-- The server answered `CREATE_USER_PRODUCE` with this id. -/
  | answered (kind : Kind) (id : String)
  /-- `SendTransport.produce` returned this object. -/
  | produced (p : Producer)
  /-- `SendTransport.produceData` returned this object. -/
  | producedData (p : DataProducer)
  /-- A later `put` on the body already handed over with `CREATE_ROOM`. -/
  | createRoomPut (key : String) (value : JSONValue)
  /-- The reply of a consumer processor; `RtcEngineEx.java:776–780,796–800`. -/
  | acknowledge (roomId userId : Option String)
  /-- `setEnabled` on the track of a remote consumer. -/
  | trackSetEnabled (consumer : Ref) (enabled : Bool)
  /-- `dispose` on the track of a remote consumer. -/
  | trackDispose (consumer : Ref)
  | closeStartupClient
  | processorsClear
  | disposeSendTransport
  | disposeRecvTransport
  | disposeDevice
  deriving DecidableEq, Repr

/-- One engine; `RtcEngineEx.java:65–100`. -/
structure RtcEngineEx where
  rtcEngineConfig : RtcEngineConfig := {}
  mDevice : Device := {}
  mStartupClient : Option Ref := some 0
  mSendTransport : Option SendTransport := none
  mRecvTransport : Option RecvTransport := none
  mChatDataProducer : Option DataProducer := none
  mBotDataProducer : Option DataProducer := none
  mVideoProducer : Option Producer := none
  mAudioProducer : Option Producer := none
  mLocalVideoTrack : Option LocalTrack := none
  mLocalAudioTrack : Option LocalTrack := none
  mClosed : Bool := false
  serverRoomId : Option String := none
  mConsumers : Std.ExtTreeMap String ConsumerHolder := ∅
  mDataConsumers : Std.ExtTreeMap String DataConsumerHolder := ∅
  mStore : RoomStore := {}
  /-- Identity of the next native object. -/
  nextRef : Ref := 0
  closedProducers : Finset Ref := ∅
  closedDataProducers : Finset Ref := ∅
  closedConsumers : Finset Ref := ∅
  closedDataConsumers : Finset Ref := ∅
  calls : List Call := []

namespace RtcEngineEx

/-- Append an outgoing call. -/
def emit (e : RtcEngineEx) (c : Call) : RtcEngineEx := { e with calls := e.calls ++ [c] }

/-- Call the application's handler. -/
def callback (e : RtcEngineEx) (c : Callback) : RtcEngineEx := e.emit (.callback c)

/-- Send a request to the server. -/
def request (e : RtcEngineEx) (r : Request) : RtcEngineEx := e.emit (.request r)

/-- `mService.…(mStartupClient.getChannel(), …)`: no request without a client. -/
def send (e : RtcEngineEx) (r : Request) : Except Throwable RtcEngineEx :=
  match e.mStartupClient with
  | none => .error .nullPointer
  | some _ => .ok (e.request r)

/-- What was sent is logged, and nothing else has changed. -/
theorem eq_request_of_send {e e' : RtcEngineEx} {r : Request} (h : e.send r = .ok e') :
    e' = e.request r := by
  unfold send at h
  split at h
  · cases h
  · exact (Except.ok.inj h).symm

/-- `mAudioProducer` or `mVideoProducer`. -/
def mProducer (e : RtcEngineEx) : Kind → Option Producer
  | .audio => e.mAudioProducer
  | .video => e.mVideoProducer

/-- Assign `mAudioProducer` or `mVideoProducer`. -/
def setProducer (e : RtcEngineEx) (p : Option Producer) : Kind → RtcEngineEx
  | .audio => { e with mAudioProducer := p }
  | .video => { e with mVideoProducer := p }

/-- `mLocalAudioTrack` or `mLocalVideoTrack`. -/
def mLocalTrack (e : RtcEngineEx) : Kind → Option LocalTrack
  | .audio => e.mLocalAudioTrack
  | .video => e.mLocalVideoTrack

/-- Assign `mLocalAudioTrack` or `mLocalVideoTrack`. -/
def setLocalTrack (e : RtcEngineEx) (t : Option LocalTrack) : Kind → RtcEngineEx
  | .audio => { e with mLocalAudioTrack := t }
  | .video => { e with mLocalVideoTrack := t }

/-- `mChatDataProducer` or `mBotDataProducer`. -/
def mDataProducer (e : RtcEngineEx) : Label → Option DataProducer
  | .chat => e.mChatDataProducer
  | .bot => e.mBotDataProducer

/-- Assign `mChatDataProducer` or `mBotDataProducer`. -/
def setDataProducer (e : RtcEngineEx) (p : Option DataProducer) : Label → RtcEngineEx
  | .chat => { e with mChatDataProducer := p }
  | .bot => { e with mBotDataProducer := p }

end RtcEngineEx

/-- An engine that has joined a room and has neither produced nor consumed anything. -/
def joinedEngine : RtcEngineEx where
  mDevice := { loaded := true, canProduceAudio := true, canProduceVideo := true }
  mSendTransport := some { id := "send" }
  mRecvTransport := some { id := "recv" }
  serverRoomId := some "room"

/-- Where a handler or task ended: with the state at that point and the exception that
left it, if any. -/
structure Result where
  engine : RtcEngineEx
  thrown : Option Throwable := none

end RtcClient.Engine
