import RtcClient.Engine.State

/-!
# Local media tasks

The worker tasks that start and stop the local producers and data producers
(`RtcEngineEx.java:388–522,602–688,867–905,1123–1185`) on top of `SendTransport::Produce`
and `ProduceData` (`Transport.cpp:175–301`). What the server, the camera and the native
negotiation decide is an argument of the task.
-/

namespace RtcClient.Engine

open RtcClient.Native RtcClient.Store

/-- How the server's answer to a produce request reads; `RtcEngineEx.java:1160–1185`. -/
inductive Answer where
  /-- A reply whose data names an id. -/
  | id (s : String)
  /-- A reply that raises the caught `JSONException`. -/
  | malformed
  /-- A failed request, rethrown as `RuntimeException` into native code. -/
  | failed
  deriving DecidableEq, Repr

/-- What a native produce comes to: it throws before it asks its listener, or it asks and
the server answers. -/
inductive ProduceOutcome where
  | throws
  | asks (answer : Answer)
  deriving DecidableEq, Repr

/-- Whether the camera could be opened; `PeerConnectionUtils.createVideoSource` throws
`IllegalStateException` without one. -/
inductive CameraOutcome where
  | opened
  | missing
  deriving DecidableEq, Repr

/-- How the body of a `try` block ended. -/
inductive Exit where
  | completed (e : RtcEngineEx)
  | returned (e : RtcEngineEx)
  | threw (e : RtcEngineEx) (ex : Throwable)

namespace RtcEngineEx

/-- `setEnabled` on a local track, if there is one. -/
def setTrackEnabled (e : RtcEngineEx) (kind : Kind) (enabled : Bool) : RtcEngineEx :=
  e.setLocalTrack ((e.mLocalTrack kind).map ({ · with enabled := enabled })) kind

/-- A closed engine answers with the empty id and sends nothing; `RtcEngineEx.java:871–887`
with `fetchProduceId`, `RtcEngineEx.java:1160–1171`. -/
def onProduce (e : RtcEngineEx) (transportId : String) (kind : Kind) (answer : Answer) :
    RtcEngineEx × Except Throwable String :=
  if e.mClosed then (e, .ok "")
  else
    match e.send (.createUserProduce transportId kind e.serverRoomId e.rtcEngineConfig.userId) with
    | .error _ => (e, .error .abort)
    | .ok e =>
      match answer with
      | .id s => (e.emit (.answered kind s), .ok s)
      | .malformed => (e, .ok "")
      | .failed => (e, .error .abort)

/-- `RtcEngineEx.java:889–905` with `fetchProduceDataId`, `RtcEngineEx.java:1173–1185`. -/
def onProduceData (e : RtcEngineEx) (transportId : String) (label : Label) (answer : Answer) :
    RtcEngineEx × Except Throwable String :=
  if e.mClosed then (e, .ok "")
  else
    match e.send
      (.createUserTextProduce transportId label e.serverRoomId e.rtcEngineConfig.userId) with
    | .error _ => (e, .error .abort)
    | .ok e =>
      match answer with
      | .id s => (e, .ok s)
      | .malformed => (e, .ok "")
      | .failed => (e, .error .abort)

/-- A new native producer is filed and returned; `Transport.cpp:238–250`. -/
def fileProducer (e : RtcEngineEx) (t : SendTransport) (p : Producer) : RtcEngineEx :=
  { e with nextRef := e.nextRef + 1, mSendTransport := some (t.addProducer p) }.emit (.produced p)

/-- A new native data producer is filed and returned; `Transport.cpp:290–300`. -/
def fileDataProducer (e : RtcEngineEx) (t : SendTransport) (p : DataProducer) : RtcEngineEx :=
  { e with nextRef := e.nextRef + 1, mSendTransport := some (t.addDataProducer p) }.emit
    (.producedData p)

/-- `SendTransport.produce`: the new producer is filed under the id its listener returned;
`SendTransport.java:107–124`, `Transport.cpp:175–251`. -/
def produce (e : RtcEngineEx) (t : SendTransport) (kind : Kind) (o : ProduceOutcome) :
    RtcEngineEx × Except Throwable Producer :=
  if t.disposed then (e, .error .illegalState)
  else if t.closed then (e, .error .mediasoup)
  else
    match o with
    | .throws => (e, .error .mediasoup)
    | .asks answer =>
      match e.onProduce t.id kind answer with
      | (e, .error ex) => (e, .error ex)
      | (e, .ok id) => (e.fileProducer t ⟨e.nextRef, id, kind⟩, .ok ⟨e.nextRef, id, kind⟩)

/-- `SendTransport.produceData` has neither the disposed nor the closed test of `produce`;
`SendTransport.java:151–168`, `Transport.cpp:253–301`. -/
def produceData (e : RtcEngineEx) (t : SendTransport) (label : Label) (o : ProduceOutcome) :
    RtcEngineEx × Except Throwable DataProducer :=
  if t.disposed then (e, .error .abort)
  else
    match o with
    | .throws => (e, .error .mediasoup)
    | .asks answer =>
      match e.onProduceData t.id label answer with
      | (e, .error ex) => (e, .error ex)
      | (e, .ok id) => (e.fileDataProducer t ⟨e.nextRef, id, label⟩, .ok ⟨e.nextRef, id, label⟩)

/-- `if (track == null)` create it and enable it; only the camera can be missing.
`RtcEngineEx.java:426–429,487–490`. -/
def ensureTrack (e : RtcEngineEx) (kind : Kind) (camera : CameraOutcome) :
    Except Throwable RtcEngineEx :=
  match e.mLocalTrack kind, kind, camera with
  | some _, _, _ => .ok e
  | none, .video, .missing => .error .illegalState
  | none, kind, _ => .ok (e.setLocalTrack (some { enabled := true }) kind)

/-- The producer becomes the field's value and enters the store;
`RtcEngineEx.java:430,442,492,499`. -/
def storeProducer (e : RtcEngineEx) (p : Producer) : RtcEngineEx :=
  { e.setProducer (some p) p.kind with mStore := e.mStore.addProducer p }

/-- The `try` block that `enableCameraImpl` and `enableAudioImpl` share up to the kind;
`RtcEngineEx.java:410–442,471–499`. -/
def tryProduce (e : RtcEngineEx) (kind : Kind) (camera : CameraOutcome) (o : ProduceOutcome) :
    Exit :=
  if (e.mProducer kind).isSome then .returned e
  else
    match e.mDevice.isLoaded with
    | .error ex => .threw e ex
    | .ok false => .returned e
    | .ok true =>
      match e.mDevice.canProduce kind with
      | .error ex => .threw e ex
      | .ok false => .returned e
      | .ok true =>
        match e.mSendTransport with
        | none => .returned e
        | some t =>
          match e.ensureTrack kind camera with
          | .error ex => .threw e ex
          | .ok e =>
            match e.produce t kind o with
            | (e, .error ex) => .threw e ex
            | (e, .ok p) => .completed (e.storeProducer p)

/-- `RtcEngineEx.java:1227–1244`; the reply's code is not used by the camera task. -/
def nativeStartFusion (e : RtcEngineEx) (available : Bool) : Result :=
  if available then
    match e.send (.startFusion e.serverRoomId e.rtcEngineConfig.userId) with
    | .error ex => { engine := e, thrown := some ex }
    | .ok e => { engine := e }
  else { engine := e.callback (.onError .connectionLost) }

/-- `mStore.setCamInProgress`. -/
def setCamInProgress (e : RtcEngineEx) (inProgress : Bool) : RtcEngineEx :=
  { e with mStore := e.mStore.setCamInProgress inProgress }

/-- What `enableCameraImpl` does after its `try` statement, which an early return skips;
`RtcEngineEx.java:449–453`. -/
def afterCamera (e : RtcEngineEx) (available : Bool) : Result :=
  if e.rtcEngineConfig.channelProfile = 1 then
    (e.setCamInProgress false).nativeStartFusion available
  else { engine := e.setCamInProgress false }

/-- Only `MediasoupException` is caught; `RtcEngineEx.java:406–454`. -/
def enableCameraImpl (e : RtcEngineEx) (camera : CameraOutcome) (o : ProduceOutcome)
    (available : Bool) : Result :=
  match (e.setCamInProgress true).tryProduce .video camera o with
  | .returned e => { engine := e }
  | .completed e => e.afterCamera available
  | .threw e .mediasoup => (e.setTrackEnabled .video false).afterCamera available
  | .threw e ex => { engine := e, thrown := some ex }

/-- Handler of `enableAudioImpl`, on a track that may not exist yet;
`RtcEngineEx.java:501–504`. -/
def audioFailed (e : RtcEngineEx) : Result :=
  match e.mLocalAudioTrack with
  | none => { engine := e, thrown := some .nullPointer }
  | some _ => { engine := e.setTrackEnabled .audio false }

/-- Every exception is caught; an abort of the process is none. `RtcEngineEx.java:468–505`. -/
def enableAudioImpl (e : RtcEngineEx) (o : ProduceOutcome) : Result :=
  match e.tryProduce .audio .opened o with
  | .returned e => { engine := e }
  | .completed e => { engine := e }
  | .threw e .abort => { engine := e, thrown := some .abort }
  | .threw e _ => e.audioFailed

/-- Native `Producer::Close` and the transport's `OnClose`; a closed producer stays as it
is. `Producer.cpp:99–109`, `Transport.cpp:329–340`. -/
def closeProducer (e : RtcEngineEx) (p : Producer) : RtcEngineEx :=
  if p.ref ∈ e.closedProducers then e
  else { e with
    closedProducers := insert p.ref e.closedProducers
    mSendTransport := e.mSendTransport.map (·.onClose p) }

/-- `CLOSE_USER_PRODUCER` inside a `try` that swallows every exception;
`RtcEngineEx.java:396–402,514–520`. -/
def closeUserProducer (e : RtcEngineEx) (producerId : String) : RtcEngineEx :=
  match e.send (.closeUserProducer producerId) with
  | .error _ => e
  | .ok e => e

/-- `mStore.removeProducer`. -/
def removeProducer (e : RtcEngineEx) (producerId : String) : RtcEngineEx :=
  { e with mStore := e.mStore.removeProducer producerId }

/-- The body `disableCameraImpl` and `disableAudioImpl` share up to the field. -/
def disableProducer (e : RtcEngineEx) (kind : Kind) : RtcEngineEx :=
  match e.mProducer kind with
  | none => e
  | some p =>
    let e := (e.closeProducer p).removeProducer p.id
    (e.closeUserProducer p.id).setProducer none kind

/-- `RtcEngineEx.java:388–404`. -/
def disableCameraImpl (e : RtcEngineEx) : RtcEngineEx := e.disableProducer .video

/-- `RtcEngineEx.java:507–522`. -/
def disableAudioImpl (e : RtcEngineEx) : RtcEngineEx := e.disableProducer .audio

/-- The task `enableChatDataProducer` and `enableBotDataProducer` post, up to the label;
every exception is caught. -/
def enableDataProducer (e : RtcEngineEx) (label : Label) (o : ProduceOutcome) : Result :=
  if (e.mDataProducer label).isSome then { engine := e }
  else
    match e.mSendTransport with
    | none => { engine := e }
    | some t =>
      match e.produceData t label o with
      | (e, .error .abort) => { engine := e, thrown := some .abort }
      | (e, .error _) => { engine := e }
      | (e, .ok p) => { engine := e.setDataProducer (some p) label }

/-- `RtcEngineEx.java:602–640`. -/
def enableChatDataProducer (e : RtcEngineEx) (o : ProduceOutcome) : Result :=
  e.enableDataProducer .chat o

/-- `RtcEngineEx.java:642–688`. -/
def enableBotDataProducer (e : RtcEngineEx) (o : ProduceOutcome) : Result :=
  e.enableDataProducer .bot o

/-- Worker part of `nativeSetupLocalVideo`; the sink is the renderer's.
`RtcEngineEx.java:1126–1132`. -/
def setupLocalVideo (e : RtcEngineEx) (camera : CameraOutcome) : Result :=
  match e.ensureTrack .video camera with
  | .error ex => { engine := e, thrown := some ex }
  | .ok e => { engine := e }

end RtcEngineEx

/-- Worker tasks of the local media; each is posted by an API call or by
`createSendTransport`. -/
inductive MediaTask where
  | setupLocalVideo
  | enable (kind : Kind)
  | disable (kind : Kind)
  | enableData (label : Label)
  deriving DecidableEq, Repr

/-- What the world decides while one media task runs. -/
structure Environment where
  camera : CameraOutcome := .opened
  produce : ProduceOutcome
  available : Bool := true
  deriving DecidableEq, Repr

/-- Run one media task to its end. -/
def RtcEngineEx.runMediaTask (e : RtcEngineEx) (env : Environment) : MediaTask → Result
  | .setupLocalVideo => e.setupLocalVideo env.camera
  | .enable .video => e.enableCameraImpl env.camera env.produce env.available
  | .enable .audio => e.enableAudioImpl env.produce
  | .disable .video => { engine := e.disableCameraImpl }
  | .disable .audio => { engine := e.disableAudioImpl }
  | .enableData .chat => e.enableChatDataProducer env.produce
  | .enableData .bot => e.enableBotDataProducer env.produce

/-- State after one media task; an exception ends the task, not the engine. -/
def RtcEngineEx.mediaStep (e : RtcEngineEx) (a : Environment × MediaTask) : RtcEngineEx :=
  (e.runMediaTask a.1 a.2).engine

/-- A media task during which every request succeeds and the server answers `id`. -/
def answering (id : String) (task : MediaTask) : Environment × MediaTask :=
  ({ produce := .asks (.id id) }, task)

/-- A media task whose native produce throws. -/
def throwing (task : MediaTask) : Environment × MediaTask := ({ produce := .throws }, task)

end RtcClient.Engine
