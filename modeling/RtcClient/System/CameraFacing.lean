import RtcClient.Engine.Capture
import RtcClient.System.Process

/-!
# Which camera an engine opens

The process with the capture of each of its engines and the static that they share. The
static `mPreferCameraFace` is written on one branch of `createVideoTrack` only
(`RtcEngineEx.java:1136–1142`): an engine that is configured for the front sets it, and no
engine ever clears it, so that a later engine configured for the rear still opens the front
camera.
-/

namespace RtcClient.System

open RtcClient.Native RtcClient.Store RtcClient.Engine RtcClient.Lib

/-- A device opened by `createCamCapture`, the cameras it was chosen from and the engine's
direction at that moment. -/
structure Opening where
  deviceName : String
  cams : Cameras
  cameraDirection : Option CameraDirection

/-- The process and its cameras. -/
structure CaptureProcess where
  process : Process := {}
  /-- Capture of each engine, by its index. -/
  captures : Nat → Capture := fun _ ↦ {}
  /-- `PeerConnectionUtils.mPreferCameraFace`. -/
  mPreferCameraFace : String := ""
  openings : List Opening := []

/-- A step of the process, over the cameras present at that moment, or
`RtcEngineImpl.setupCameraConfig`. -/
inductive CaptureAction where
  | process (a : ProcessAction) (cams : Cameras)
  | setupCameraConfig (i : Nat) (config : Option CameraConfig)

namespace Client

/-- The media task that the worker takes up in this step. -/
def mediaNext (c : Client) : Action → Option MediaTask
  | .work _ =>
    match c.worker, c.workQueue with
    | .idle, .media task :: _ => some task
    | _, _ => none
  | _ => none

end Client

/-- The camera decides what the step's media task is told about it. -/
def Action.withCamera : Action → Option CameraOutcome → Action
  | .work env, camera => .work { env with media := env.media.withCamera camera }
  | a, _ => a

namespace CaptureProcess

/-- Camera side of a step: the static, the captures and the opened device, if any. -/
structure Served where
  mPreferCameraFace : String
  captures : Nat → Capture
  camera : Option CameraOutcome := none
  opening : Option Opening := none

/-- The device that a media task has opened. -/
def opened (before after : Capture) (cams : Cameras) : Option Opening :=
  match before.mCamCapture, after.mCamCapture with
  | none, some k => some ⟨k.deviceName, cams, before.cameraDirection⟩
  | _, _ => none

/-- A media task of engine `i` may create the video track; its destroy task disposes of the
capturer, `RtcEngineEx.java:1352–1354`. -/
def serve (s : CaptureProcess) (i : Nat) (c : Client) (a : Action) (cams : Cameras) : Served :=
  match c.mediaNext a with
  | some task =>
    let r := (s.captures i).serve c.engine task s.mPreferCameraFace cams
    { mPreferCameraFace := r.1
      captures := Function.update s.captures i r.2.1
      camera := r.2.2
      opening := opened (s.captures i) r.2.1 cams }
  | none =>
    { mPreferCameraFace := s.mPreferCameraFace
      captures :=
        if c.runsDestroy a then
          Function.update s.captures i { s.captures i with
            mPeerConnectionUtils := (s.captures i).mPeerConnectionUtils.dispose }
        else s.captures }

/-- One action of engine `i`. -/
def act (s : CaptureProcess) (i : Nat) (a : Action) (cams : Cameras) : CaptureProcess :=
  match s.process.engines[i]? with
  | none => s
  | some c =>
    let r := s.serve i c a cams
    { process := s.process.act i (a.withCamera r.camera)
      captures := r.captures
      mPreferCameraFace := r.mPreferCameraFace
      openings := s.openings ++ r.opening.toList }

/-- `nativeSetupCameraConfig` of a created engine; `RtcEngineEx.java:456–458`. -/
def setupCameraConfig (s : CaptureProcess) (i : Nat) (config : Option CameraConfig) :
    CaptureProcess :=
  if i < s.process.engines.length then
    { s with captures :=
      Function.update s.captures i { s.captures i with mCameraConfig := config } }
  else s

/-- One step. -/
def step (s : CaptureProcess) : CaptureAction → CaptureProcess
  | .process (.act i a) cams => s.act i a cams
  | .process a _ => { s with process := s.process.step a }
  | .setupCameraConfig i config => s.setupCameraConfig i config

/-- The device that the step opens. -/
def opening (s : CaptureProcess) : CaptureAction → Option Opening
  | .process (.act i a) cams => s.process.engines[i]?.bind fun c ↦ (s.serve i c a cams).opening
  | _ => none

/-- Every opened camera faces the way its engine was configured for. -/
def CamerasFaceConfigured (s : CaptureProcess) : Prop :=
  ∀ o ∈ s.openings, FacesConfigured o.cams o.cameraDirection o.deviceName

/-- If the step opens a camera, its engine is configured for the front or the static does not
ask for it, and the first device that faces the configured way has a name. -/
def OpensConfigured (s : CaptureProcess) (a : CaptureAction) : Prop :=
  ∀ o, s.opening a = some o →
    (o.cameraDirection = some .CAMERA_FRONT ∨ s.mPreferCameraFace ≠ "front") ∧
      o.cams.deviceNames.find?
        (fun d ↦ o.cams.isFrontFacing d == decide (o.cameraDirection = some .CAMERA_FRONT)) ≠
      some ""

variable (s : CaptureProcess)

/-- The openings are exactly those of the steps. -/
theorem openings_step (a : CaptureAction) :
    (s.step a).openings = s.openings ++ (s.opening a).toList := by
  cases a with
  | setupCameraConfig i config =>
    simp only [step, setupCameraConfig, opening]
    split <;> simp
  | process a cams =>
    cases a with
    | create config => simp [step, opening]
    | destroy => simp [step, opening]
    | act i a =>
      simp only [step, act, opening]
      cases s.process.engines[i]? <;> simp

/-- To the rest of the process the cameras are what its media tasks take from their
environment. -/
theorem process_run (as : List CaptureAction) :
    ∃ bs, (run step s as).process = run Process.step s.process bs := by
  induction as generalizing s with
  | nil => exact ⟨[], rfl⟩
  | cons a as ih =>
    obtain ⟨bs, hbs⟩ := ih (s.step a)
    have hstep : ∃ cs, (s.step a).process = run Process.step s.process cs := by
      cases a with
      | setupCameraConfig i config =>
        refine ⟨[], ?_⟩
        simp only [step, setupCameraConfig]
        split <;> rfl
      | process a cams =>
        cases a with
        | create config => exact ⟨[.create config], rfl⟩
        | destroy => exact ⟨[.destroy], rfl⟩
        | act i a =>
          simp only [step, act]
          cases s.process.engines[i]? with
          | none => exact ⟨[], rfl⟩
          | some c => exact ⟨[.act i (a.withCamera (s.serve i c a cams).camera)], rfl⟩
    obtain ⟨cs, hcs⟩ := hstep
    refine ⟨cs ++ bs, ?_⟩
    rw [run_cons, hbs, hcs, run_append]

/-- An opened camera faces the configured way exactly when the condition on the state before
is met. -/
theorem facesConfigured_opening {a : CaptureAction} {o : Opening} (h : s.opening a = some o) :
    FacesConfigured o.cams o.cameraDirection o.deviceName ↔
      (o.cameraDirection = some .CAMERA_FRONT ∨ s.mPreferCameraFace ≠ "front") ∧
        o.cams.deviceNames.find?
          (fun d ↦ o.cams.isFrontFacing d == decide (o.cameraDirection = some .CAMERA_FRONT)) ≠
            some "" := by
  cases a with
  | setupCameraConfig i config => cases h
  | process a cams =>
    cases a with
    | create config => cases h
    | destroy => cases h
    | act i a =>
      obtain ⟨c, -, hserve⟩ := Option.bind_eq_some_iff.mp h
      unfold serve at hserve
      split at hserve
      · next task _ =>
        simp only [opened] at hserve
        split at hserve
        · next k hnone hk =>
          obtain ⟨direction, hdirection, hselected⟩ := Capture.serve_opens hnone hk
          rw [← Option.some.inj hserve]
          simp only [hdirection, Option.some.injEq]
          have hiff := facesConfigured_iff direction hselected
          simpa only [Option.some.injEq] using hiff
        · cases hserve
      · cases hserve

/-- Every camera that an engine of the process opens faces the configured way exactly when
each one is opened with a configuration for the front, or before any engine has asked for
the front. -/
theorem camerasFaceConfigured_always_iff (as : List CaptureAction) :
    Always step CamerasFaceConfigured {} as ↔ Guarded step OpensConfigured {} as := by
  apply always_iff_guarded (fun _ ↦ True) trivial
  · simp [CamerasFaceConfigured]
  · simp
  · intro s a _ _ hs
    unfold CamerasFaceConfigured OpensConfigured
    rw [openings_step]
    constructor
    · intro h o ho
      rw [← s.facesConfigured_opening ho]
      exact h o (by simp [ho])
    · intro h o ho
      rcases List.mem_append.mp ho with ho | ho
      · exact hs o ho
      · have ho' : s.opening a = some o := Option.mem_toList.mp ho
        rw [s.facesConfigured_opening ho']
        exact h o ho'

/-- One camera at the back and one at the front. -/
def twoCameras : Cameras where
  deviceNames := ["0", "1"]
  isFrontFacing d := d == "1"

/-- A preview on an engine with the default configuration, which is then destroyed, and one
on a second engine that is configured for the rear: it opens the front camera. -/
theorem camerasFaceConfigured_fails_rear_after_front :
    ¬ Always step CamerasFaceConfigured {}
      [.process (.create (some {})) twoCameras,
        .process (.act 0 .setupLocalVideo) twoCameras,
        .process (.act 0 .main) twoCameras,
        .process (.act 0 (.work {})) twoCameras,
        .process .destroy twoCameras,
        .process (.act 0 (.work {})) twoCameras,
        .process (.create (some {})) twoCameras,
        .setupCameraConfig 1 (some (.ofDirection (some .CAMERA_REAR))),
        .process (.act 1 .setupLocalVideo) twoCameras,
        .process (.act 1 .main) twoCameras,
        .process (.act 1 (.work {})) twoCameras] := by
  intro h
  have hfaces := h.last ⟨"1", twoCameras, some .CAMERA_REAR⟩ (.tail _ (.head _))
  cases hfaces.facing.mp rfl

end CaptureProcess

end RtcClient.System
