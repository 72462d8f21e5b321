import RtcClient.Engine.ConsumerTables
import RtcClient.Engine.MediaWrites
import RtcClient.System.CameraFacing
import RtcClient.System.Phases

/-!
# The camera-busy flag

`Me.mCamInProgress` is raised by `nativeSwitchCamera` and at the start of `enableCameraImpl`.
It is lowered at the end of `enableCameraImpl`, which its early returns skip, and by the
handler of a camera switch, which `switchCam` requests only from a capturer that is there
(`RtcEngineEx.java:253–267,406–454`, `PeerConnectionUtils.java:208–214`).
-/

namespace RtcClient.Engine

open RtcClient.Native RtcClient.Store RtcClient.Lib

/-- The `try` statement was left at its end or through its handler, not by a `return` and
not by another exception. -/
def Exit.Ends : Exit → Prop
  | .completed _ | .threw _ .mediasoup => True
  | _ => False

namespace RtcEngineEx

/-- `Me.isCamInProgress`; `Me.java:81–83`. -/
def isCamInProgress (e : RtcEngineEx) : Bool := e.mStore.me.mCamInProgress

/-- None of the early returns of `enableCameraImpl` applies, the camera can be opened if it
has to be, and the native produce returns or throws a `MediasoupException`. -/
structure CameraReady (e : RtcEngineEx) (camera : CameraOutcome) (o : ProduceOutcome) : Prop where
  noProducer : e.mVideoProducer = none
  canSend : e.CanSend .video
  camera : e.mLocalVideoTrack = none → camera = .opened
  produce : ∃ t, e.mSendTransport = some t ∧ t.disposed = false ∧
    (t.closed = true ∨ o = .throws ∨ (e.producedId o).isSome)

/-! ### The enable task -/

variable (e : RtcEngineEx)

-- The native produce returns or throws a `MediasoupException`.
private theorem produce_ends_iff (t : SendTransport) (kind : Kind) (o : ProduceOutcome) :
    ((e.produce t kind o).2 = .error .mediasoup ∨ ∃ p, (e.produce t kind o).2 = .ok p) ↔
      t.disposed = false ∧ (t.closed = true ∨ o = .throws ∨ (e.producedId o).isSome) := by
  have hprod := e.produce_step t kind o
  generalize e.produce t kind o = r at hprod
  cases hprod with
  | disposed hd => simp [hd]
  | failed hd hfail => simp [hd, ← or_assoc, hfail]
  | refused answer ho hd hcl hid => simp [hcl, ho ▸ hid, ho]
  | filed answer id _ hd _ hid => simp [hd, hid]

private theorem ends_ofProduce_iff (r : RtcEngineEx × Except Throwable Producer) :
    (Exit.ofProduce r).Ends ↔ r.2 = .error .mediasoup ∨ ∃ p, r.2 = .ok p := by
  obtain ⟨x, ex | p⟩ := r
  · cases ex <;> simp [Exit.ofProduce, Exit.Ends]
  · simp [Exit.ofProduce, Exit.Ends]

private theorem tryProduce_ends_iff (camera : CameraOutcome) (o : ProduceOutcome) :
    (e.tryProduce .video camera o).Ends ↔ e.CameraReady camera o := by
  have hstep := e.tryProduce_step .video camera o
  generalize e.tryProduce .video camera o = exit at hstep
  cases hstep with
  | returned hno =>
    apply iff_of_false (by simp [Exit.Ends])
    intro h
    obtain ⟨t, ht, -⟩ := h.produce
    exact hno t ⟨h.noProducer, h.canSend, fun _ ↦ h.camera, ht⟩
  | threw hfail =>
    apply iff_of_false (by simp [Exit.Ends])
    intro h
    rcases hfail with hd | ⟨-, htrack, hmissing⟩
    · rw [h.canSend.1] at hd
      cases hd
    · rw [h.camera htrack] at hmissing
      cases hmissing
  | produced t hattempts =>
    have hid : (e.withTrack .video).producedId o = e.producedId o := rfl
    rw [ends_ofProduce_iff, produce_ends_iff, hid]
    constructor
    · intro h
      exact ⟨hattempts.noProducer, hattempts.canSend, hattempts.camera rfl, t,
        hattempts.transport, h⟩
    · intro h
      obtain ⟨t', ht', h⟩ := h.produce
      have htt : t' = t := Option.some.inj (ht'.symm.trans hattempts.transport)
      rw [← htt]
      exact h

private theorem isCamInProgress_afterCamera (available : Bool) :
    (e.afterCamera available).engine.isCamInProgress = false := by
  obtain ⟨cs, hcs, -⟩ := e.afterCamera_calls available
  rw [hcs]
  rfl

/-- `enableCameraImpl` ends with the flag lowered exactly when the camera is ready. -/
theorem isCamInProgress_enableCameraImpl (camera : CameraOutcome) (o : ProduceOutcome)
    (available : Bool) :
    (e.enableCameraImpl camera o available).engine.isCamInProgress = false ↔
      e.CameraReady camera o := by
  have hready : (e.setCamInProgress true).CameraReady camera o ↔ e.CameraReady camera o :=
    ⟨fun h ↦ ⟨h.1, h.2, h.3, h.4⟩, fun h ↦ ⟨h.1, h.2, h.3, h.4⟩⟩
  have hflag :
      ((e.setCamInProgress true).tryProduce .video camera o).engine.isCamInProgress = true :=
    congrArg Me.mCamInProgress ((e.setCamInProgress true).writes_tryProduce .video camera o).me
  rw [← hready, ← tryProduce_ends_iff]
  unfold enableCameraImpl
  split
  · next x hx =>
    rw [hx] at hflag ⊢
    have hraised : x.isCamInProgress = true := hflag
    simp [Exit.Ends, hraised]
  · next x hx =>
    rw [hx]
    exact iff_of_true (x.isCamInProgress_afterCamera available) trivial
  · next x hx =>
    rw [hx]
    exact iff_of_true (isCamInProgress_afterCamera _ available) trivial
  · next x ex hne hx =>
    rw [hx] at hflag ⊢
    have hraised : x.isCamInProgress = true := hflag
    cases ex with
    | mediasoup => exact absurd rfl hne
    | _ => simp [Exit.Ends, hraised]

end RtcEngineEx

end RtcClient.Engine

namespace RtcClient.System

open RtcClient.Native RtcClient.Store RtcClient.Engine RtcClient.Lib
open CaptureProcess (twoCameras)

/-! ### Everything else -/

-- Nothing outside the worker writes the flag.
private theorem NetStep.isCamInProgress {e e' : RtcEngineEx} (h : NetStep e e') :
    e'.isCamInProgress = e.isCamInProgress := by
  cases h with
  | notify n o => exact congrArg Me.mCamInProgress (e.onRoomEvent_store (.notify n o)).2
  | joinReply users => exact congrArg Me.mCamInProgress (e.onRoomEvent_store (.joinReply users)).2
  | _ => rfl

-- Nor does a step of `joinImpl`.
private theorem isCamInProgress_joinStep (e : RtcEngineEx) (env : JoinEnv) (pc : JoinPc) :
    (e.joinStep env pc).1.isCamInProgress = e.isCamInProgress := by
  have hchange := e.joinStep_joinChange env pc
  generalize (e.joinStep env pc).1 = e' at hchange
  cases hchange <;> rfl

-- Nor does the destroy task.
private theorem isCamInProgress_destroyTask (e : RtcEngineEx) :
    e.destroyTask.isCamInProgress = e.isCamInProgress := by
  have hstartup :
      ∀ x : RtcEngineEx, x.releaseStartupClient.isCamInProgress = x.isCamInProgress := by
    intro x
    unfold RtcEngineEx.releaseStartupClient
    split <;> rfl
  have hsend : ∀ x : RtcEngineEx, x.disposeSendTransport.isCamInProgress = x.isCamInProgress := by
    intro x
    unfold RtcEngineEx.disposeSendTransport
    split
    · rfl
    · next t _ =>
      obtain ⟨_, _, _, _, _, _, _, _, hwrites⟩ := x.closeSendTransport_writes t
      rw [hwrites]
      rfl
  have hrecv : ∀ x : RtcEngineEx, x.disposeRecvTransport.isCamInProgress = x.isCamInProgress := by
    intro x
    unfold RtcEngineEx.disposeRecvTransport
    split
    · rfl
    · next t _ =>
      obtain ⟨_, _, _, _, hwrites⟩ := x.closeRecvTransport_writes t
      rw [hwrites]
      rfl
  have hrelease : ∀ x : RtcEngineEx, x.releaseConsumers.isCamInProgress = x.isCamInProgress := by
    intro x
    apply foldl_keeps
    intro y kv
    unfold RtcEngineEx.releaseConsumer
    split <;> rfl
  calc e.destroyTask.isCamInProgress
      = e.releaseStartupClient.disposeSendTransport.disposeRecvTransport.isCamInProgress :=
        hrelease _
    _ = e.isCamInProgress := by rw [hrecv, hsend, hstartup]

namespace Client

/-- No step of the client writes the flag but the worker's `enableCameraImpl`. -/
theorem isCamInProgress_step (c : Client) {a : Action}
    (h : c.mediaNext a ≠ some (.enable .video)) :
    (c.step a).engine.isCamInProgress = c.engine.isCamInProgress := by
  by_cases ha : ∃ env, a = .work env
  · obtain ⟨env, rfl⟩ := ha
    change (c.work env).engine.isCamInProgress = _
    unfold work
    cases hw : c.worker with
    | joining pc =>
      rw [show (c.joinStep env.join pc).engine = _ from c.joinStep_engine env.join pc]
      exact isCamInProgress_joinStep c.engine env.join pc
    | crashed => rfl
    | quit => rfl
    | idle =>
      cases hq : c.workQueue with
      | nil => rfl
      | cons t q =>
        cases t with
        | joinImpl => rfl
        | throwRuntimeException => rfl
        | createRoomMediasoup =>
          obtain ⟨cs, -, heq⟩ := c.engine.createRoomMediasoup_calls env.createRoom
          simp only [runTask, finish, heq]
          rfl
        | media task =>
          have htask : task ≠ .enable .video := by
            intro htask
            apply h
            simp only [mediaNext, hw, hq, htask]
          exact congrArg Me.mCamInProgress (c.engine.runMediaTask_quiet env.media htask).me
        | destroy => exact isCamInProgress_destroyTask c.engine
  · exact NetStep.isCamInProgress (c.step_outsideStep fun env he ↦ ha ⟨env, he⟩).engine

end Client

/-! ### Runs -/

/-- Worker tasks of the camera calls. -/
inductive CameraTask where
  | enableCameraImpl
  | disableCameraImpl
  | switchCam
  deriving DecidableEq, Repr

/-- An engine with its camera and the camera tasks of its loopers. -/
structure CameraLoop where
  engine : RtcEngineEx
  capture : Capture := {}
  /-- `PeerConnectionUtils.mPreferCameraFace`. -/
  mPreferCameraFace : String := ""
  /-- Runnables of `nativeEnableCamera` on the main handler. -/
  mainQueue : Nat := 0
  workQueue : List CameraTask := []
  /-- Camera switches that were started and have not called their handler. -/
  pendingSwitches : Nat := 0

/-- The camera calls, the loopers, the handler of a switch, and whatever else happens to the
engine. -/
inductive CameraAction where
  | switchCamera
  | enableVideo
  | disableVideo
  | main
  | work (env : Environment) (cams : Cameras)
  | onCameraSwitchDone (isFrontCamera : Bool)
  | onCameraSwitchError (errorDescription : String)
  | elsewhere (engine : RtcEngineEx) (capture : Capture) (mPreferCameraFace : String)

namespace CameraLoop

/-- `mWorkHandler.post`. -/
def post (s : CameraLoop) (t : CameraTask) : CameraLoop :=
  { s with workQueue := s.workQueue ++ [t] }

/-- `mStore.setCamInProgress`. -/
def setCamInProgress (s : CameraLoop) (inProgress : Bool) : CameraLoop :=
  { s with engine := s.engine.setCamInProgress inProgress }

/-- What the camera comes to when `enableCameraImpl` runs now. -/
def camera (s : CameraLoop) (env : Environment) (cams : Cameras) : CameraOutcome :=
  (s.capture.serve s.engine (.enable .video) s.mPreferCameraFace cams).2.2.getD env.camera

/-- Run one task. A switch starts only on a capturer that is there,
`PeerConnectionUtils.java:208–214`. -/
def runTask (s : CameraLoop) (env : Environment) (cams : Cameras) : CameraTask → CameraLoop
  | .enableCameraImpl =>
    let r := s.capture.serve s.engine (.enable .video) s.mPreferCameraFace cams
    { s with
      engine := (s.engine.enableCameraImpl (s.camera env cams) env.produce env.available).engine
      capture := r.2.1
      mPreferCameraFace := r.1 }
  | .disableCameraImpl => { s with engine := s.engine.disableCameraImpl }
  | .switchCam =>
    match s.capture.mCamCapture with
    | none => s
    | some _ => { s with pendingSwitches := s.pendingSwitches + 1 }

/-- The handler of a started switch is called once. Both of its methods do the same;
`RtcEngineEx.java:256–264`. -/
def switched (s : CameraLoop) : CameraLoop :=
  if s.pendingSwitches = 0 then s
  else { s.setCamInProgress false with pendingSwitches := s.pendingSwitches - 1 }

/-- One action. What happens elsewhere leaves the flag as it is. -/
def step (s : CameraLoop) : CameraAction → CameraLoop
  | .switchCamera => (s.setCamInProgress true).post .switchCam
  | .enableVideo => { s with mainQueue := s.mainQueue + 1 }
  | .disableVideo => s.post .disableCameraImpl
  | .main =>
    if s.mainQueue = 0 then s else { s with mainQueue := s.mainQueue - 1 }.post .enableCameraImpl
  | .work env cams =>
    match s.workQueue with
    | [] => s
    | t :: q => { s with workQueue := q }.runTask env cams t
  | .onCameraSwitchDone _ => s.switched
  | .onCameraSwitchError _ => s.switched
  | .elsewhere engine capture mPreferCameraFace =>
    { s with
      engine := engine.setCamInProgress s.engine.isCamInProgress
      capture := capture
      mPreferCameraFace := mPreferCameraFace }

/-- No camera task is queued or running and no switch is pending. -/
structure Quiet (s : CameraLoop) : Prop where
  mainQueue : s.mainQueue = 0
  workQueue : s.workQueue = []
  pendingSwitches : s.pendingSwitches = 0

/-- The flag is down whenever nothing is left to lower it. -/
def FlagComesBack (s : CameraLoop) : Prop := s.Quiet → s.engine.isCamInProgress = false

/-- An enable task runs when the camera is ready, and a switch when there is a capturer. -/
def TaskLowersFlag (s : CameraLoop) : CameraAction → Prop
  | .work env cams =>
    match s.workQueue with
    | .enableCameraImpl :: _ => s.engine.CameraReady (s.camera env cams) env.produce
    | .switchCam :: _ => s.capture.mCamCapture.isSome
    | _ => True
  | _ => True

/-- A raised flag belongs to a switch. -/
def FlagOwned (s : CameraLoop) : Prop :=
  s.engine.isCamInProgress = true → .switchCam ∈ s.workQueue ∨ 0 < s.pendingSwitches

variable {s : CameraLoop}

private theorem FlagOwned.of_lowered (h : s.engine.isCamInProgress = false) : s.FlagOwned := by
  intro hraised
  rw [h] at hraised
  cases hraised

private theorem FlagOwned.comesBack (h : s.FlagOwned) : s.FlagComesBack := by
  intro hquiet
  by_contra hraised
  rcases h (by simpa using hraised) with hmem | hpending
  · rw [hquiet.workQueue] at hmem
    cases hmem
  · rw [hquiet.pendingSwitches] at hpending
    cases hpending

private theorem FlagOwned.switched (h : s.FlagOwned) : s.switched.FlagOwned := by
  unfold CameraLoop.switched
  split
  · exact h
  · exact .of_lowered rfl

private theorem isCamInProgress_disableCameraImpl (e : RtcEngineEx) :
    e.disableCameraImpl.isCamInProgress = e.isCamInProgress :=
  congrArg Me.mCamInProgress
    (e.runMediaTask_quiet { produce := .throws }
      (show MediaTask.disable .video ≠ .enable .video by simp)).me

-- The step lemma.
private theorem FlagOwned.step (h : s.FlagOwned) {a : CameraAction} (hg : s.TaskLowersFlag a) :
    (s.step a).FlagOwned := by
  cases a with
  | switchCamera =>
    intro _
    exact .inl (by simp [CameraLoop.step, post])
  | enableVideo => exact h
  | disableVideo =>
    intro hraised
    exact (h hraised).imp_left fun hmem ↦ List.mem_append_left _ hmem
  | main =>
    simp only [CameraLoop.step]
    split
    · exact h
    · intro hraised
      exact (h hraised).imp_left fun hmem ↦ List.mem_append_left _ hmem
  | onCameraSwitchDone _ => exact h.switched
  | onCameraSwitchError _ => exact h.switched
  | elsewhere engine capture face => exact h
  | work env cams =>
    simp only [CameraLoop.step]
    cases hq : s.workQueue with
    | nil => exact h
    | cons t q =>
      simp only [TaskLowersFlag, hq] at hg
      cases t with
      | enableCameraImpl =>
        apply FlagOwned.of_lowered
        exact (s.engine.isCamInProgress_enableCameraImpl _ _ _).mpr hg
      | disableCameraImpl =>
        intro hraised
        have hraised : s.engine.isCamInProgress = true :=
          (isCamInProgress_disableCameraImpl s.engine).symm.trans hraised
        rcases h hraised with hmem | hpending
        · have hrest : CameraTask.switchCam ∈ q := by
            rw [hq] at hmem
            simpa using hmem
          exact .inl hrest
        · exact .inr hpending
      | switchCam =>
        obtain ⟨k, hk⟩ := Option.isSome_iff_exists.mp hg
        intro _
        refine .inr ?_
        simp [runTask, hk]

/-- If every enable task runs when the camera is ready and every switch when there is a
capturer, the flag is down whenever no camera task is left. -/
theorem flagComesBack_always (hs : s.engine.isCamInProgress = false) {as : List CameraAction}
    (hg : Guarded step TaskLowersFlag s as) : Always step FlagComesBack s as := by
  refine hg.always FlagOwned (.of_lowered hs) ?_ ?_
  · intro x a hx ha
    exact hx.step ha
  · intro x hx
    exact hx.comesBack

/-- The camera is enabled, switched and disabled again. -/
theorem flagComesBack_enabled_and_switched :
    Always step FlagComesBack { engine := joinedEngine }
      [.enableVideo, .main, .work { produce := .asks (.id "p") } twoCameras, .switchCamera,
        .disableVideo, .work { produce := .throws } twoCameras, .onCameraSwitchDone false,
        .work { produce := .throws } twoCameras] := by
  apply flagComesBack_always rfl
  simp only [guarded_cons, guarded_nil, and_true]
  have hready : joinedEngine.CameraReady .opened (.asks (.id "p")) :=
    ⟨rfl, ⟨rfl, rfl, rfl⟩, fun _ ↦ rfl, _, rfl, rfl, .inr (.inr rfl)⟩
  exact ⟨trivial, trivial, hready, trivial, trivial, rfl, trivial, trivial⟩

/-- The flag stays up after a second enable, which returns early, and after a switch without
a capturer. -/
theorem flagComesBack_fails_stuck :
    (¬ Always step FlagComesBack { engine := joinedEngine }
      [.enableVideo, .main, .work { produce := .asks (.id "p") } twoCameras, .enableVideo, .main,
        .work { produce := .throws } twoCameras]) ∧
    ¬ Always step FlagComesBack { engine := joinedEngine }
      [.switchCamera, .work { produce := .throws } twoCameras] := by
  constructor
  · intro h
    cases h.last ⟨rfl, rfl, rfl⟩
  · intro h
    cases h.last ⟨rfl, rfl, rfl⟩

end CameraLoop

end RtcClient.System
