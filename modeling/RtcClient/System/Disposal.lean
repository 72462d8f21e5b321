import RtcClient.Engine.LiveObjects
import RtcClient.System.CallSteps

/-!
# Everything is released once, and nothing is used afterwards

Runs of all the calls of `RtcEngineImpl.java:16–124` on one engine. `nativeDestroy` posts its
task once, the task ends with `Looper.quit`, and a looper that has quit runs nothing more
(`RtcEngineEx.java:1318–1358`): the destroy task is the only one that releases anything, and
the last one. Calls that only read (`getRoomLink`, `hasVideoAvailable`, `setupRemoteVideo`)
change nothing here.
-/

namespace RtcClient.Engine.RtcEngineEx

open RtcClient.Native RtcClient.Store

variable (e : RtcEngineEx)

/-- A call that sends one request from the caller's thread and waits for the reply's code. -/
def callerRequest (r : Request) (available : Bool) : Result :=
  if available then
    match e.send r with
    | .error ex => { engine := e, thrown := some ex }
    | .ok e => { engine := e }
  else { engine := e.callback (.onError .connectionLost) }

/-- `RtcEngineEx.java:1187–1205`. -/
def nativeStartICE (transportId : Option String) : Bool → Result :=
  e.callerRequest (.restartICE transportId e.serverRoomId e.rtcEngineConfig.userId)

/-- `RtcEngineEx.java:1207–1225`. -/
def nativeChangeDisplayUserName (targetName : Option String) : Bool → Result :=
  e.callerRequest (.changeDisplayUserName targetName e.serverRoomId e.rtcEngineConfig.userId)

/-- `RtcEngineEx.java:1246–1263`. -/
def nativeStopFusion : Bool → Result :=
  e.callerRequest (.stopFusion e.serverRoomId e.rtcEngineConfig.userId)

/-- `RtcEngineEx.java:1265–1288`. -/
def nativeUpdateFusionSetting (setting : FusionSetting) : Bool → Result :=
  e.callerRequest (.updateFusionSetting setting e.serverRoomId e.rtcEngineConfig.userId)

/-- `nativeCloseChannel` up to its wait; `RtcEngineEx.java:227–238`. -/
def sendCloseRoom : Bool → Result :=
  e.callerRequest (.closeRoom e.rtcEngineConfig.userId e.serverRoomId)

/-- `nativeUpdateFusionBackground` up to its wait; `RtcEngineEx.java:1290–1300`. -/
def sendFusionBackground (imageUrl : Option String) : Bool → Result :=
  e.callerRequest (.updateFusionBackground imageUrl e.serverRoomId e.rtcEngineConfig.userId)

/-- `nativeStartFusion` has this shape too. -/
theorem nativeStartFusion_eq (available : Bool) :
    e.nativeStartFusion available =
      e.callerRequest (.startFusion e.serverRoomId e.rtcEngineConfig.userId) available := rfl

/-- Such a call logs its request or the error. -/
theorem adds_callerRequest {r : Request} (available : Bool) (hr : (Call.request r).Plain) :
    Adds Call.Plain e (e.callerRequest r available).engine := by
  unfold callerRequest send
  cases available with
  | false => exact .of_callback _ rfl
  | true =>
    cases e.mStartupClient with
    | none => exact .refl e
    | some c => exact .of_call hr rfl

end RtcClient.Engine.RtcEngineEx

namespace RtcClient.System

open RtcClient.Native RtcClient.Store RtcClient.Engine RtcClient.Lib

/-- The objects of an engine that has not been destroyed exist. -/
theorem LinkOk.objectsExist {e : RtcEngineEx} (h : LinkOk e.link) : e.ObjectsExist where
  device := by
    have hdevice : e.mDevice.disposed = false := h.notDisposed
    simp [Device.checkDeviceExists, hdevice]
  send t ht := by
    have hopen := h.sendOpen (t.id, t.closed, t.disposed) (by
      simp [RtcEngineEx.link, RtcEngineEx.sendHeader, ht])
    have hdisposed : t.disposed = false := congrArg Prod.snd hopen
    simp [SendTransport.checkTransportExists, hdisposed]
  recv t ht := by
    have hopen := h.recvOpen (t.id, t.closed, t.disposed) (by
      simp [RtcEngineEx.link, RtcEngineEx.recvHeader, ht])
    have hdisposed : t.disposed = false := congrArg Prod.snd hopen
    simp [RecvTransport.checkTransportExists, hdisposed]
  client := h.client

/-- Steps of a client under all its API calls: those of `Action`, the calls that stay on the
caller's thread with their replies, and worker runnables that use neither the device, nor a
transport, nor the client. -/
inductive ApiAction where
  | action (a : Action)
  | closeChannel (available : Bool)
  | restartICE (transportId : Option String) (available : Bool)
  | changeDisplayUserName (targetName : Option String) (available : Bool)
  | startFusion (available : Bool)
  | stopFusion (available : Bool)
  | updateFusionSetting (setting : FusionSetting) (available : Bool)
  | updateFusionBackground (imageUrl : Option String) (available : Bool)
  /-- Listener of the `CLOSE_ROOM` reply; `RtcEngineEx.java:238–243`. -/
  | closeReply
  /-- Listener of the `UPDATE_FUSION_BG_URL` reply; `RtcEngineEx.java:1300–1304`. -/
  | backgroundReply (imageUrl : Option String)
  /-- `nativeSwitchCamera` on the caller's thread; `RtcEngineEx.java:253–255`. -/
  | switchCamera
  /-- A method of its switch handler; `RtcEngineEx.java:256–264`. -/
  | cameraSwitched
  /-- The worker switches the camera or sends a message; `RtcEngineEx.java:255,524–552`. -/
  | runnable
  deriving DecidableEq, Repr

namespace Client

/-- One such step. -/
def apiStep (s : Client) : ApiAction → Client
  | .action a => s.step a
  | .closeChannel available => s.withEngine (s.engine.sendCloseRoom available).engine
  | .restartICE transportId available =>
    s.withEngine (s.engine.nativeStartICE transportId available).engine
  | .changeDisplayUserName targetName available =>
    s.withEngine (s.engine.nativeChangeDisplayUserName targetName available).engine
  | .startFusion available => s.withEngine (s.engine.nativeStartFusion available).engine
  | .stopFusion available => s.withEngine (s.engine.nativeStopFusion available).engine
  | .updateFusionSetting setting available =>
    s.withEngine (s.engine.nativeUpdateFusionSetting setting available).engine
  | .updateFusionBackground imageUrl available =>
    s.withEngine (s.engine.sendFusionBackground imageUrl available).engine
  | .closeReply => s.callback .onLeaveChannel
  | .backgroundReply imageUrl =>
    s.withEngine { s.engine with
      rtcEngineConfig := { s.engine.rtcEngineConfig with backgroundUrl := imageUrl } }
  | .switchCamera => s.withEngine (s.engine.setCamInProgress true)
  | .cameraSwitched => s.withEngine (s.engine.setCamInProgress false)
  | .runnable => s

/-- A step beside the worker: it releases nothing and leaves link and worker alone. -/
structure Aside (s s' : Client) : Prop where
  released : s'.engine.released = s.engine.released
  link : s'.engine.link = s.engine.link
  worker : s'.worker = s.worker
  joinSent : s'.joinSent = s.joinSent

variable {s s' : Client}

-- A call that stays on the caller's thread is such a step, and so plain in the log.
private theorem callerRequest_aside (s : Client) {r : Request} (available : Bool)
    (hr : (Call.request r).Plain) :
    RtcEngineEx.Adds Call.Plain s.engine (s.engine.callerRequest r available).engine ∧
      Aside s (s.withEngine (s.engine.callerRequest r available).engine) := by
  have hadds := s.engine.adds_callerRequest available hr
  refine ⟨hadds, hadds.uneventful.released, ?_, rfl, rfl⟩
  show (s.engine.callerRequest r available).engine.link = s.engine.link
  unfold RtcEngineEx.callerRequest RtcEngineEx.send
  cases available with
  | false => rfl
  | true => cases s.engine.mStartupClient <;> rfl

/-- Every step is one of `Action`, or writes the background of the configuration, or is a plain
step beside the worker. -/
theorem apiStep_cases (s : Client) (a : ApiAction) :
    (∃ a', a = .action a') ∨ (∃ imageUrl, a = .backgroundReply imageUrl) ∨
      RtcEngineEx.Adds Call.Plain s.engine (s.apiStep a).engine ∧ Aside s (s.apiStep a) := by
  cases a with
  | action a => exact .inl ⟨a, rfl⟩
  | backgroundReply imageUrl => exact .inr (.inl ⟨imageUrl, rfl⟩)
  | closeChannel available | restartICE _ available | changeDisplayUserName _ available
  | stopFusion available | updateFusionSetting _ available | updateFusionBackground _ available =>
    exact .inr (.inr (s.callerRequest_aside available ⟨⟨rfl, rfl⟩, rfl⟩))
  | startFusion available =>
    right; right
    simp only [apiStep, RtcEngineEx.nativeStartFusion_eq]
    exact s.callerRequest_aside available ⟨⟨rfl, rfl⟩, rfl⟩
  | closeReply =>
    have hadds : RtcEngineEx.Adds Call.Plain s.engine (s.callback .onLeaveChannel).engine :=
      .of_callback _ rfl
    exact .inr (.inr ⟨hadds, hadds.uneventful.released, rfl, rfl, rfl⟩)
  | switchCamera | cameraSwitched | runnable =>
    exact .inr (.inr ⟨.of_eq rfl, rfl, rfl, rfl, rfl⟩)

-- A step of the worker that is not the destroy task releases nothing.
private theorem work_released (s : Client) (env : WorkEnv) :
    (s.work env).engine.released = s.engine.released ∨
      s.worker = .idle ∧ (s.work env).worker = .quit ∧
        (s.work env).engine = s.engine.destroyTask := by
  unfold work
  cases hw : s.worker with
  | joining pc =>
    left
    simp only
    rw [joinStep_engine]
    exact s.engine.released_joinStep env.join pc
  | crashed => exact .inl rfl
  | quit => exact .inl rfl
  | idle =>
    cases hq : s.workQueue with
    | nil => exact .inl rfl
    | cons t q =>
      cases t with
      | joinImpl => exact .inl rfl
      | throwRuntimeException => exact .inl rfl
      | createRoomMediasoup => exact .inl (s.engine.released_createRoomMediasoup env.createRoom)
      | media task => exact .inl (s.engine.uneventful_runMediaTask env.media task).released
      | destroy => exact .inr ⟨rfl, rfl, rfl⟩

/-- Nothing is released before the destroy task, and nothing twice. -/
structure ReleaseInv (s : Client) : Prop where
  phases : s.PhaseInv
  before : s.worker ≠ .quit → s.engine.released = []
  once : s.engine.released.Nodup

private theorem ReleaseInv.aside (h : s.ReleaseInv) (ha : Aside s s') : s'.ReleaseInv where
  phases := by
    rcases h.phases with hq | hp
    · exact .inl (ha.worker.trans hq)
    · refine .inr ⟨by rw [ha.link]; exact hp.link, ?_, ?_⟩
      · intro pc hpc
        rw [ha.link]
        exact hp.pc pc (ha.worker.symm.trans hpc)
      · intro hsent
        rw [ha.link]
        exact hp.sent (ha.joinSent.symm.trans hsent)
  before hw := by
    rw [ha.released]
    exact h.before (ha.worker ▸ hw)
  once := by
    rw [ha.released]
    exact h.once

private theorem nodup_releaseCalls (e : RtcEngineEx) :
    (e.releaseCalls.filter Call.releases).Nodup := by
  unfold RtcEngineEx.releaseCalls
  split <;> split <;> split <;> decide

private theorem ReleaseInv.work (h : s.ReleaseInv) (env : WorkEnv) : (s.work env).ReleaseInv := by
  have hphases := h.phases.step (s.work_clientStep env)
  rcases s.work_released env with hsame | ⟨hidle, hquit, hengine⟩
  · refine ⟨hphases, ?_, by rw [hsame]; exact h.once⟩
    intro hw
    rw [hsame]
    apply h.before
    intro hq
    exact hw ((s.work_clientStep env).quit hq)
  · refine ⟨hphases, fun hw ↦ absurd hquit hw, ?_⟩
    rw [hengine, RtcEngineEx.released_destroyTask, h.before (by simp [hidle]), List.nil_append]
    exact nodup_releaseCalls s.engine

private theorem ReleaseInv.step (h : s.ReleaseInv) (a : Action) : (s.step a).ReleaseInv := by
  by_cases ha : ∃ env, a = .work env
  · obtain ⟨env, rfl⟩ := ha
    exact h.work env
  · have hne : ∀ env, a ≠ .work env := fun env he ↦ ha ⟨env, he⟩
    have houtside := s.step_outsideStep hne
    exact h.aside ⟨(s.step_queueStep hne).uneventful.released, houtside.engine.link,
      houtside.worker, houtside.joinSent⟩

/-- The invariant holds in every run. -/
theorem run_releaseInv (config : RtcEngineConfig) (as : List ApiAction) :
    (run apiStep (initial config) as).ReleaseInv := by
  apply run_invariant ReleaseInv
  · exact ⟨.inr (initial_phases config 0), fun _ ↦ rfl, by simp [initial, RtcEngineEx.released]⟩
  · intro s a h
    rcases s.apiStep_cases a with ⟨a, rfl⟩ | ⟨imageUrl, rfl⟩ | ⟨-, haside⟩
    · exact h.step a
    · exact h.aside ⟨rfl, rfl, rfl, rfl⟩
    · exact h.aside haside

/-- Whatever the worker does next finds the objects it uses: none has been released, every
check passes, and no task throws what a check or a missing client would. -/
structure WorkerSafe (s : Client) : Prop where
  released : s.engine.released = []
  exist : s.engine.ObjectsExist
  destroy : s.engine.checkedDestroyTask = .ok s.engine.destroyTask
  join : ∀ (env : JoinEnv) (pc : JoinPc) (ex : Throwable),
    (s.engine.joinStep env pc).2 = .threw ex →
      ex ≠ .illegalState ∧
        (ex = .nullPointer → env.capabilities = .noData ∨ env.transport = .noData)
  room : ∀ (reply : Reply Unit) (ex : Throwable),
    (s.engine.createRoomMediasoup reply).thrown = some ex →
      ex ≠ .illegalState ∧ (ex = .nullPointer → reply = .noData)
  media : ∀ (env : Environment) (task : MediaTask) (ex : Throwable),
    (s.engine.runMediaTask env task).thrown = some ex →
      ex ≠ .nullPointer ∧ (ex = .illegalState → env.camera = .missing)

private theorem ReleaseInv.workerSafe (h : s.ReleaseInv) (hw : s.worker ≠ .quit) :
    s.WorkerSafe := by
  have hexist := (h.phases.phases hw).link.objectsExist
  refine ⟨h.before hw, hexist, hexist.checkedDestroyTask_eq, ?_, ?_, ?_⟩
  · intro env pc ex ht
    rcases hexist.joinStep_threw ht with rfl | rfl | ⟨rfl, hreply⟩
    · simp
    · simp
    · exact ⟨by simp, fun _ ↦ hreply⟩
  · intro reply ex ht
    rw [hexist.createRoomMediasoup_thrown] at ht
    cases reply with
    | data a => cases ht
    | failed =>
      cases ht
      simp
    | noData =>
      cases ht
      simp
  · intro env task ex ht
    rcases hexist.runMediaTask_thrown ht with rfl | ⟨rfl, hcamera⟩
    · simp
    · exact ⟨by simp, fun _ ↦ hcamera⟩

/-- In every run of API calls, replies and worker steps each release is made at most once; as
long as the worker has not quit it is safe, and then it runs nothing more. -/
theorem releases_once (config : RtcEngineConfig) (as : List ApiAction) :
    let s := run apiStep (initial config) as
    (∀ c : Call, c.releases = true → s.engine.calls.count c ≤ 1) ∧
      (s.worker ≠ .quit → s.WorkerSafe) ∧
      (s.worker = .quit → ∀ env, s.work env = s) := by
  intro s
  have h : s.ReleaseInv := run_releaseInv config as
  refine ⟨?_, h.workerSafe, ?_⟩
  · intro c hc
    rw [← List.count_filter hc]
    exact List.nodup_iff_count_le_one.mp h.once c
  · intro hq env
    simp only [work, hq]

end Client

end RtcClient.System
