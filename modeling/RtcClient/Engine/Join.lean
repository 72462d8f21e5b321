import RtcClient.Engine.LocalMedia

/-!
# Joining a room, step by step

`joinImpl` (`RtcEngineEx.java:276–378`) with `createSendTransport` and `createRecvTransport`
(`RtcEngineEx.java:561–600`), cut at every statement that waits, sends, or writes a field
other threads read. A reply is an argument of the step that waits for it.
-/

namespace RtcClient.Engine

open RtcClient.Native RtcClient.Store

/-- What `future.get().getData()` comes to: a value, an `ExecutionException`, or no data. -/
inductive Reply (α : Type) where
  | data (a : α)
  | failed
  | noData
  deriving DecidableEq, Repr

/-- Where a running `joinImpl` stands. -/
inductive JoinPc where
  | start
  | awaitRouterRtp
  | load (caps : RouterCapabilities)
  | requestSendTransport
  | awaitSendTransport
  | newSendTransport (id : Option String)
  | requestRecvTransport
  | awaitRecvTransport
  | newRecvTransport (id : Option String)
  | createRoom
  | joinRoom
  | awaitJoinRoom
  | joinRoomMediasoup
  deriving DecidableEq, Repr

/-- What the world decides at one step of `joinImpl`. A transport reply that the native
constructor rejects carries no id. -/
structure JoinEnv where
  available : Bool := true
  capabilities : Reply RouterCapabilities := .failed
  transport : Reply (Option String) := .failed
  joined : Reply Unit := .failed
  deriving DecidableEq, Repr

/-- What one step of `joinImpl` leads to. -/
inductive JoinNext where
  | goto (pc : JoinPc)
  /-- The early return without network. -/
  | returned
  /-- `JOIN_ROOM_MEDIASOUP` is sent and the method ends. -/
  | sent
  | threw (ex : Throwable)
  deriving DecidableEq, Repr

namespace RtcEngineEx

/-- `RtcEngineEx.java:269–274`. -/
def getVideoType (e : RtcEngineEx) : String :=
  if e.rtcEngineConfig.channelProfile = 0 then "rtc_video_call" else "rtc_video_fusion_call"

/-- Fields both room requests carry; `RtcEngineEx.java:299–301,316–318`. -/
def roomBody (e : RtcEngineEx) : JSONObject :=
  [("roomId", .ofOption e.serverRoomId), ("userId", .ofOption e.rtcEngineConfig.userId),
    ("videoType", .str e.getVideoType)]

/-- Body of `CREATE_ROOM`; `RtcEngineEx.java:298–309`. -/
def createRoomBody (e : RtcEngineEx) : JSONObject :=
  e.roomBody ++
    if e.rtcEngineConfig.channelProfile = 1 then
      [("frameWidth", .int 1920), ("frameHeight", .int 1080), ("fusionType", .str "StandardFusion"),
        ("frameRate", .int 20), ("rtcType", .str "ZWNRTC2"),
        ("backGroundUrl", .ofOption e.rtcEngineConfig.backgroundUrl)]
    else []

/-- Send a request and go on, or throw without a client. -/
def sendThen (e : RtcEngineEx) (r : Request) (next : JoinNext) : RtcEngineEx × JoinNext :=
  match e.send r with
  | .error ex => (e, .threw ex)
  | .ok e => (e, next)

/-- Wait for a reply and go on with its data. -/
def awaitThen {α : Type} (e : RtcEngineEx) (r : Reply α) (next : α → JoinPc) :
    RtcEngineEx × JoinNext :=
  match r with
  | .data a => (e, .goto (next a))
  | .failed => (e, .threw .execution)
  | .noData => (e, .threw .nullPointer)

/-- Go on with a loaded device, or throw. -/
def withLoaded (e : RtcEngineEx) (next : RtcEngineEx × JoinNext) : RtcEngineEx × JoinNext :=
  match e.mDevice.requireLoaded with
  | .error ex => (e, .threw ex)
  | .ok _ => next

/-- One step of `joinImpl`. The reply to `JOIN_ROOM` is only printed, so that it needs no
data; `RtcEngineEx.java:348–349`. -/
def joinStep (e : RtcEngineEx) (env : JoinEnv) : JoinPc → RtcEngineEx × JoinNext
  | .start =>
    if env.available then
      e.sendThen (.getRouterRtpCapabilities e.serverRoomId e.rtcEngineConfig.userId)
        (.goto .awaitRouterRtp)
    else (e.callback (.onError .connectionLost), .returned)
  | .awaitRouterRtp => e.awaitThen env.capabilities .load
  | .load caps =>
    match e.mDevice.load caps with
    | .error ex => (e, .threw ex)
    | .ok d => ({ e with mDevice := d }, .goto .requestSendTransport)
  | .requestSendTransport =>
    e.withLoaded (e.sendThen .createSendTransport (.goto .awaitSendTransport))
  | .awaitSendTransport => e.awaitThen env.transport .newSendTransport
  | .newSendTransport none => (e, .threw .mediasoup)
  | .newSendTransport (some id) =>
    e.withLoaded ({ e with mSendTransport := some { id := id } }, .goto .requestRecvTransport)
  | .requestRecvTransport =>
    e.sendThen (.createRecvTransport e.rtcEngineConfig.userId e.serverRoomId)
      (.goto .awaitRecvTransport)
  | .awaitRecvTransport => e.awaitThen env.transport .newRecvTransport
  | .newRecvTransport none => (e, .threw .mediasoup)
  | .newRecvTransport (some id) =>
    e.withLoaded ({ e with mRecvTransport := some { id := id } }, .goto .createRoom)
  | .createRoom => e.sendThen (.createRoom e.createRoomBody) (.goto .joinRoom)
  | .joinRoom =>
    e.sendThen (.joinRoom e.serverRoomId e.rtcEngineConfig.userId
      (e.rtcEngineConfig.channelProfile = 1)) (.goto .awaitJoinRoom)
  | .awaitJoinRoom =>
    match env.joined with
    | .failed => (e, .threw .execution)
    | _ => (e, .goto .joinRoomMediasoup)
  | .joinRoomMediasoup =>
    e.withLoaded (e.sendThen (.joinRoomMediasoup e.rtcEngineConfig.displayName e.serverRoomId
      e.rtcEngineConfig.userId) .sent)

/-- Media tasks that a step of `joinImpl` posts: a new send transport asks for both data
producers. `RtcEngineEx.java:576–580`. -/
def joinPosts : JoinPc → JoinNext → List MediaTask
  | .newSendTransport _, .goto _ => [.enableData .chat, .enableData .bot]
  | _, _ => []

/-- Task of the `CREATE_ROOM` listener. For fusion channels its extra fields go to the body
already sent with `CREATE_ROOM`; `RtcEngineEx.java:314–331`. -/
def createRoomMediasoup (e : RtcEngineEx) (reply : Reply Unit) : Result :=
  let body := e.roomBody
  let e := if e.rtcEngineConfig.channelProfile = 1 then
      ((e.emit (.createRoomPut "frameWidth" (.int 1920))).emit
        (.createRoomPut "frameHeight" (.int 1080))).emit
          (.createRoomPut "backGroundUrl" (.ofOption e.rtcEngineConfig.backgroundUrl))
    else e
  match e.send (.createRoomMediasoup body), reply with
  | .error ex, _ => { engine := e, thrown := some ex }
  | .ok e, .data _ => { engine := e }
  | .ok e, .failed => { engine := e, thrown := some .runtime }
  | .ok e, .noData => { engine := e, thrown := some .nullPointer }

end RtcEngineEx

end RtcClient.Engine
