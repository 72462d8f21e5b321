import RtcClient.Engine.Notifications
import RtcClient.Engine.Join
import RtcClient.Engine.Destroy

/-!
# One engine with its threads and its server

The caller's thread (`RtcEngineImpl.java:25–83`), the main looper, the worker looper, the
network thread and the server of one engine, as a state machine: each action is one atomic
step of one of them, and an action that is not enabled changes nothing. A worker task is one
step, except `joinImpl`, which other threads can observe between its statements. An
exception that leaves a worker task stops the worker (`crashed`); the end of the destroy task
quits its looper.
-/

namespace RtcClient.System

open RtcClient.Native RtcClient.Store RtcClient.Engine

/-- Runnables of the main handler that post on to the worker;
`RtcEngineEx.java:380–382,1123–1134`. -/
inductive MainTask where
  | enableCamera
  | setupLocalVideo
  deriving DecidableEq, Repr

/-- Runnables of the worker handler. -/
inductive Task where
  | joinImpl
  /-- The rethrown error codes of `RtcEngineEx.java:178–185`. -/
  | throwRuntimeException
  | createRoomMediasoup
  | media (task : MediaTask)
  | destroy
  deriving DecidableEq, Repr

/-- What the worker thread is doing. -/
inductive Worker where
  | idle
  | joining (pc : JoinPc)
  | crashed
  | quit
  deriving DecidableEq, Repr

/-- How an executed `joinImpl` ended. -/
inductive JoinEnd where
  | returned
  | sent
  | threw (ex : Throwable)
  deriving DecidableEq, Repr

/-- Reply to `INIT_CLIENT`; `RtcEngineEx.java:169–190`. -/
inductive InitReply where
  | code (n : Int) (serverRoomId : Option String)
  | failed
  deriving DecidableEq, Repr

/-- Next statement of a running `INIT_CLIENT` listener that got code 0;
`RtcEngineEx.java:172–174`. -/
inductive InitStage where
  | registerReceiver (serverRoomId : Option String)
  | setServerRoomId (serverRoomId : Option String)
  | onOpen
  deriving DecidableEq, Repr

/-- The engine, its queues, the requests in flight and the server's side. -/
structure Client where
  engine : RtcEngineEx
  mainQueue : List MainTask := []
  workQueue : List Task := []
  worker : Worker := .idle
  /-- `INIT_CLIENT` requests without a reply. -/
  initRequests : Nat := 0
  initListeners : List InitStage := []
  /-- Room ids of the `INIT_CLIENT` requests that were answered with code 0. -/
  completedInits : List (Option String) := []
  /-- The processors of this engine are in the processor table. -/
  registered : Bool := false
  exitRequests : Nat := 0
  createRoomRequests : Nat := 0
  /-- `JOIN_ROOM_MEDIASOUP` has been sent at least once. -/
  joinSent : Bool := false
  joinRequests : Nat := 0
  /-- The server has received `JOIN_ROOM_MEDIASOUP`. -/
  serverJoined : Bool := false
  /-- Notifications on their way to the client. -/
  downlink : List Notification := []
  /-- Consumer notifications handled and not yet acknowledged. -/
  pendingAcks : Nat := 0
  joinEnds : List JoinEnd := []

/-- What the world decides while the worker takes one step. -/
structure WorkEnv where
  media : Environment := { produce := .throws }
  join : JoinEnv := {}
  createRoom : Reply Unit := .failed
  deriving DecidableEq, Repr

/-- One step of one of the threads, the network or the server. -/
inductive Action where
  | joinChannel (available : Bool)
  | leaveChannel (available : Bool)
  | enableVideo
  | disableVideo
  | enableAudio
  | disableAudio
  | setupLocalVideo
  | destroy
  | initReply (r : InitReply)
  | initListener (stage : InitStage)
  | exitReply (ok : Bool)
  | createRoomReply (ok : Bool)
  | joinReply (users : Option (List PeerInfo))
  | serverJoin
  | serverSend (n : Notification)
  | deliver (n : Notification) (o : RecvTransport.ConsumeOutcome)
  | acknowledge
  | main
  | work (env : WorkEnv)
  deriving DecidableEq, Repr

/-- The notifications that create a consumer. -/
def isConsumer : Notification → Bool
  | .createUserConsumer _ | .createUserTextConsumer _ => true
  | _ => false

namespace Client

/-- A client that has just been created for this configuration, over this network client;
`RtcEngineEx.java:127–149`. -/
def initial (config : RtcEngineConfig) (client : Ref := 0) : Client :=
  { engine := { rtcEngineConfig := config, mStartupClient := some client } }

/-- `mWorkHandler.post`: a looper that has quit takes no message. -/
def post (s : Client) (t : Task) : Client :=
  if s.worker = .quit then s else { s with workQueue := s.workQueue ++ [t] }

/-- Replace the engine. -/
def withEngine (s : Client) (e : RtcEngineEx) : Client := { s with engine := e }

/-- Call the application's handler. -/
def callback (s : Client) (c : Callback) : Client := s.withEngine (s.engine.callback c)

/-! ### Calls of the application -/

/-- `nativeJoinChannel` up to its wait; `RtcEngineEx.java:155–168`. -/
def joinChannel (s : Client) (available : Bool) : Client :=
  if available then
    match s.engine.send (.initClient s.engine.rtcEngineConfig) with
    | .error _ => s
    | .ok e => { s with engine := e, initRequests := s.initRequests + 1 }
  else s.callback (.onError .connectionLost)

/-- `nativeLeaveChannel` up to its wait; `RtcEngineEx.java:201–212`. -/
def leaveChannel (s : Client) (available : Bool) : Client :=
  if available then
    match s.engine.send (.exitRoom s.engine.rtcEngineConfig.userId s.engine.serverRoomId) with
    | .error _ => s
    | .ok e => { s with engine := e, exitRequests := s.exitRequests + 1 }
  else s.callback (.onError .connectionLost)

/-- `nativeDestroy` on the caller's thread; `RtcEngineEx.java:1318–1322`. -/
def destroy (s : Client) : Client :=
  if s.engine.mClosed then s
  else (s.withEngine { s.engine with mClosed := true }).post .destroy

/-! ### Network thread -/

/-- Listener of the `INIT_CLIENT` reply. Code 1 has no `break` and falls through to code
1000; `RtcEngineEx.java:168–191`. -/
def initReply (s : Client) (r : InitReply) : Client :=
  if s.initRequests = 0 then s
  else
    let s := { s with initRequests := s.initRequests - 1 }
    match r with
    | .code n serverRoomId =>
      if n = 0 then
        { s with
          initListeners := s.initListeners ++ [.registerReceiver serverRoomId]
          completedInits := s.completedInits ++ [serverRoomId] }
      else
        let s := if n = 1 then
            (s.callback (.onError .invalidToken)).post .throwRuntimeException
          else s
        if n = 1 ∨ n = 1000 then
          (s.callback (.onError .configParameterNotMatch)).post .throwRuntimeException
        else s
    | .failed => s.callback (.onError .notReady)

/-- The next statement of a running listener; `RtcEngineEx.java:172–174,944–953`. -/
def initListener (s : Client) (stage : InitStage) : Client :=
  if stage ∈ s.initListeners then
    let s := { s with initListeners := s.initListeners.erase stage }
    match stage with
    | .registerReceiver r =>
      { s with registered := true, initListeners := s.initListeners ++ [.setServerRoomId r] }
    | .setServerRoomId r =>
      { s with
        engine := { s.engine with serverRoomId := r }
        initListeners := s.initListeners ++ [.onOpen] }
    | .onOpen => s.post .joinImpl
  else s

/-- Listener of the `EXIT_ROOM` reply; `RtcEngineEx.java:212–217`. -/
def exitReply (s : Client) (ok : Bool) : Client :=
  if s.exitRequests = 0 then s
  else
    let s := { s with exitRequests := s.exitRequests - 1 }
    if ok then s.callback .onLeaveChannel else s

/-- Listener of the `CREATE_ROOM` reply, `ok` for code 0; `RtcEngineEx.java:310–334`. -/
def createRoomReply (s : Client) (ok : Bool) : Client :=
  if s.createRoomRequests = 0 then s
  else
    let s := { s with createRoomRequests := s.createRoomRequests - 1 }
    if ok then s.post .createRoomMediasoup else s

/-- Listener of the `JOIN_ROOM_MEDIASOUP` reply; `RtcEngineEx.java:367–377`. -/
def joinReply (s : Client) (users : Option (List PeerInfo)) : Client :=
  if s.joinRequests = 0 then s
  else
    let s := { s with joinRequests := s.joinRequests - 1 }
    match users with
    | none => s
    | some us => s.withEngine (s.engine.onJoinReply us)

/-- A processor handles one notification; without processors it is lost. A consumer
notification is answered afterwards, unless its handler threw. -/
def deliver (s : Client) (n : Notification) (o : RecvTransport.ConsumeOutcome) : Client :=
  if n ∈ s.downlink then
    let s := { s with downlink := s.downlink.erase n }
    if s.registered then
      let r := s.engine.handleNotification n o
      { s with
        engine := r.engine
        pendingAcks := if isConsumer n ∧ r.thrown = none then s.pendingAcks + 1 else s.pendingAcks }
    else s
  else s

/-- The answer of a consumer processor; `RtcEngineEx.java:776–780,796–800`. -/
def acknowledge (s : Client) : Client :=
  if s.pendingAcks = 0 then s
  else
    { s with
      engine := s.engine.emit (.acknowledge s.engine.serverRoomId s.engine.rtcEngineConfig.userId)
      pendingAcks := s.pendingAcks - 1 }

/-! ### Server -/

/-- The server creates consumers for a client only after its `JOIN_ROOM_MEDIASOUP`. -/
def serverSend (s : Client) (n : Notification) : Client :=
  if isConsumer n ∧ s.serverJoined = false then s else { s with downlink := s.downlink ++ [n] }

/-! ### Loopers -/

/-- The main looper runs its next message. -/
def main (s : Client) : Client :=
  match s.mainQueue with
  | [] => s
  | .enableCamera :: q => { s with mainQueue := q }.post (.media (.enable .video))
  | .setupLocalVideo :: q => { s with mainQueue := q }.post (.media .setupLocalVideo)

/-- A task has ended, perhaps with an exception that nothing catches. -/
def finish (s : Client) (r : Result) : Client :=
  { s with engine := r.engine, worker := if r.thrown.isSome then .crashed else .idle }

/-- Where the worker stands after a step of `joinImpl` from `pc`. -/
def continueJoin (s : Client) (pc : JoinPc) : JoinNext → Client
  | .goto next =>
    { s with
      worker := .joining next
      createRoomRequests :=
        if pc = .createRoom then s.createRoomRequests + 1 else s.createRoomRequests }
  | .returned => { s with worker := .idle, joinEnds := s.joinEnds ++ [.returned] }
  | .sent =>
    { s with
      worker := .idle
      joinEnds := s.joinEnds ++ [.sent]
      joinSent := true
      joinRequests := s.joinRequests + 1 }
  | .threw ex => { s with worker := .crashed, joinEnds := s.joinEnds ++ [.threw ex] }

/-- The worker takes the next step of a running `joinImpl`. -/
def joinStep (s : Client) (env : JoinEnv) (pc : JoinPc) : Client :=
  let r := s.engine.joinStep env pc
  { s with
    engine := r.1
    workQueue := s.workQueue ++ (RtcEngineEx.joinPosts pc r.2).map Task.media }.continueJoin pc r.2

/-- The worker starts a task. -/
def runTask (s : Client) (env : WorkEnv) : Task → Client
  | .joinImpl => { s with worker := .joining .start }
  | .throwRuntimeException => { s with worker := .crashed }
  | .createRoomMediasoup => s.finish (s.engine.createRoomMediasoup env.createRoom)
  | .media task => s.finish (s.engine.runMediaTask env.media task)
  | .destroy =>
    { s with
      engine := s.engine.destroyTask
      worker := .quit
      workQueue := []
      registered := false }

/-- The worker takes its next step. -/
def work (s : Client) (env : WorkEnv) : Client :=
  match s.worker with
  | .joining pc => s.joinStep env.join pc
  | .crashed => s
  | .quit => s
  | .idle =>
    match s.workQueue with
    | [] => s
    | t :: q => { s with workQueue := q }.runTask env t

/-- One action. -/
def step (s : Client) : Action → Client
  | .joinChannel available => s.joinChannel available
  | .leaveChannel available => s.leaveChannel available
  | .enableVideo => { s with mainQueue := s.mainQueue ++ [.enableCamera] }
  | .disableVideo => s.post (.media (.disable .video))
  | .enableAudio => s.post (.media (.enable .audio))
  | .disableAudio => s.post (.media (.disable .audio))
  | .setupLocalVideo => { s with mainQueue := s.mainQueue ++ [.setupLocalVideo] }
  | .destroy => s.destroy
  | .initReply r => s.initReply r
  | .initListener stage => s.initListener stage
  | .exitReply ok => s.exitReply ok
  | .createRoomReply ok => s.createRoomReply ok
  | .joinReply users => s.joinReply users
  | .serverJoin => if s.joinSent then { s with serverJoined := true } else s
  | .serverSend n => s.serverSend n
  | .deliver n o => s.deliver n o
  | .acknowledge => s.acknowledge
  | .main => s.main
  | .work env => s.work env

end Client

end RtcClient.System
