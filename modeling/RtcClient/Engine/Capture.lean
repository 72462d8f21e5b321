import RtcClient.Engine.Produce

/-!
# Camera capture

`rtc-sdk/src/main/java/com/zeewain/common/utils/PeerConnectionUtils.java` as far as the camera
goes, the camera configuration of an engine, and `createVideoTrack` on top of them
(`RtcEngineEx.java:1136–1142`). The preferred face is a static of the process, which every
operation reads and returns. Which cameras there are, and which of them face front, is an
argument. This is the oracle that the media tasks take as their `CameraOutcome`.
-/

namespace RtcClient.Engine

open RtcClient.Native

/-- `CameraConfig.java:6–16`. -/
inductive CameraDirection where
  | CAMERA_REAR
  | CAMERA_FRONT
  deriving DecidableEq, Repr

/-- `CameraConfig.java:13–15`. -/
def CameraDirection.getValue : CameraDirection → Int
  | .CAMERA_REAR => 0
  | .CAMERA_FRONT => 1

/-- `CameraConfig.java:18–31`. -/
structure CaptureFormat where
  width : Int := 640
  height : Int := 480
  fps : Int := 15
  deriving DecidableEq, Repr

/-- Both fields are public and may be null; `CameraConfig.java:17,50`. -/
structure CameraConfig where
  cameraDirection : Option CameraDirection
  captureFormat : Option CaptureFormat
  deriving DecidableEq, Repr

namespace CameraConfig

/-- `CameraConfig.java:52–56`. -/
def ofDirection (cameraDirection : Option CameraDirection) : CameraConfig :=
  ⟨cameraDirection, some {}⟩

/-- A configuration without a direction faces front; `CameraConfig.java:57–61`. -/
def ofFormat (captureFormat : Option CaptureFormat) : CameraConfig :=
  ⟨some .CAMERA_FRONT, captureFormat⟩

end CameraConfig

/-- What a `CameraEnumerator` reports. -/
structure Cameras where
  deviceNames : List String
  isFrontFacing : String → Bool

/-- A capturer of one device, with the format it was started with. -/
structure CameraVideoCapturer where
  deviceName : String
  started : Option CaptureFormat := none
  deriving DecidableEq, Repr

/-- The camera's part of `PeerConnectionUtils.java:46–51`. -/
structure PeerConnectionUtils where
  mPeerConnectionFactory : Bool := false
  mVideoSource : Bool := false
  mCamCapture : Option CameraVideoCapturer := none
  deriving DecidableEq, Repr

namespace PeerConnectionUtils

/-- The device loop of `createCamCapture`: a device that faces the preferred way is taken
unless its name is empty; `PeerConnectionUtils.java:151–165`. -/
def selectedDeviceName (mPreferCameraFace : String) (isFrontFacing : String → Bool) :
    List String → Option String
  | [] => none
  | deviceName :: deviceNames =>
    let needFrontFacing := mPreferCameraFace == "front"
    let selected := if needFrontFacing then isFrontFacing deviceName else !isFrontFacing deviceName
    if selected ∧ deviceName ≠ "" then some deviceName
    else selectedDeviceName mPreferCameraFace isFrontFacing deviceNames

/-- `PeerConnectionUtils.java:139–206`. -/
def createCamCapture (u : PeerConnectionUtils) (mPreferCameraFace : String) (cams : Cameras) :
    PeerConnectionUtils × Except Throwable Unit :=
  match selectedDeviceName mPreferCameraFace cams.isFrontFacing cams.deviceNames with
  | some deviceName => ({ u with mCamCapture := some { deviceName := deviceName } }, .ok ())
  | none =>
    match u.mCamCapture with
    | none => (u, .error .illegalState)
    | some _ => (u, .ok ())

/-- A capturer is created once and kept; `PeerConnectionUtils.java:216–234`. -/
def createVideoSource (u : PeerConnectionUtils) (mPreferCameraFace : String) (cams : Cameras)
    (format : CaptureFormat) : PeerConnectionUtils × Except Throwable Unit :=
  let u := { u with mPeerConnectionFactory := true }
  let r := match u.mCamCapture with
    | none => u.createCamCapture mPreferCameraFace cams
    | some _ => (u, .ok ())
  match r with
  | (u, .error ex) => (u, .error ex)
  | (u, .ok _) =>
    ({ u with
      mVideoSource := true
      mCamCapture := u.mCamCapture.map ({ · with started := some format }) }, .ok ())

/-- So is the video source; `PeerConnectionUtils.java:247–255`. -/
def createVideoTrack (u : PeerConnectionUtils) (mPreferCameraFace : String) (cams : Cameras)
    (format : CaptureFormat) : PeerConnectionUtils × Except Throwable Unit :=
  if u.mVideoSource then (u, .ok ()) else u.createVideoSource mPreferCameraFace cams format

/-- `PeerConnectionUtils.java:257–280`. -/
def dispose (_ : PeerConnectionUtils) : PeerConnectionUtils := {}

end PeerConnectionUtils

/-- The camera's part of an engine; `RtcEngineEx.java:69,85,133–149`. -/
structure Capture where
  mCameraConfig : Option CameraConfig := some (.ofFormat (some {}))
  mPeerConnectionUtils : PeerConnectionUtils := {}
  deriving DecidableEq, Repr

namespace Capture

/-- `mCamCapture` of the engine's `PeerConnectionUtils`. -/
def mCamCapture (c : Capture) : Option CameraVideoCapturer := c.mPeerConnectionUtils.mCamCapture

/-- `mCameraConfig.cameraDirection`. -/
def cameraDirection (c : Capture) : Option CameraDirection :=
  c.mCameraConfig.bind CameraConfig.cameraDirection

/-- The static is written for a front camera only, and never reset; a null configuration
throws. The static comes first in the result. `RtcEngineEx.java:1136–1142`. -/
def createVideoTrack (c : Capture) (mPreferCameraFace : String) (cams : Cameras) :
    String × Capture × Except Throwable Unit :=
  match c.mCameraConfig with
  | none => (mPreferCameraFace, c, .error .nullPointer)
  | some config =>
    match config.cameraDirection with
    | none => (mPreferCameraFace, c, .error .nullPointer)
    | some direction =>
      let mPreferCameraFace := if direction.getValue = 1 then "front" else mPreferCameraFace
      match config.captureFormat with
      | none => (mPreferCameraFace, c, .error .nullPointer)
      | some format =>
        let r := c.mPeerConnectionUtils.createVideoTrack mPreferCameraFace cams format
        (mPreferCameraFace, { c with mPeerConnectionUtils := r.1 }, r.2)

end Capture

namespace RtcEngineEx

/-- The task gets as far as `createVideoTrack`; `RtcEngineEx.java:410–427,1127–1128`. -/
def createsVideoTrack (e : RtcEngineEx) : MediaTask → Bool
  | .setupLocalVideo => e.mLocalVideoTrack.isNone
  | .enable .video =>
    e.mVideoProducer.isNone && decide (e.mDevice.isLoaded = .ok true) &&
      decide (e.mDevice.canProduce .video = .ok true) && e.mSendTransport.isSome &&
      e.mLocalVideoTrack.isNone
  | _ => false

end RtcEngineEx

/-- Camera side of a media task: the static and the capture it leaves, and what
`createVideoTrack` came to if the task called it. -/
def Capture.serve (c : Capture) (e : RtcEngineEx) (task : MediaTask) (mPreferCameraFace : String)
    (cams : Cameras) : String × Capture × Option CameraOutcome :=
  if e.createsVideoTrack task then
    match c.createVideoTrack mPreferCameraFace cams with
    | (face, c, .ok _) => (face, c, some .opened)
    | (face, c, .error _) => (face, c, some .missing)
  else (mPreferCameraFace, c, none)

/-- The outcome of the camera, where there is one, replaces the oracle's. -/
def Environment.withCamera (env : Environment) (camera : Option CameraOutcome) : Environment :=
  { env with camera := camera.getD env.camera }

/-! ### The oracle -/

namespace RtcEngineEx

variable (e : RtcEngineEx)

private theorem ensureTrack_camera {kind : Kind} (h : kind = .video → e.mLocalVideoTrack.isSome)
    (camera camera' : CameraOutcome) : e.ensureTrack kind camera = e.ensureTrack kind camera' := by
  cases kind with
  | audio => cases ht : e.mLocalAudioTrack <;> simp [ensureTrack, mLocalTrack, ht]
  | video =>
    obtain ⟨tr, ht⟩ := Option.isSome_iff_exists.mp (h rfl)
    simp [ensureTrack, mLocalTrack, ht]

private theorem tryProduce_camera (h : e.createsVideoTrack (.enable .video) = false)
    (camera camera' : CameraOutcome) (o : ProduceOutcome) :
    e.tryProduce .video camera o = e.tryProduce .video camera' o := by
  unfold tryProduce
  split
  · rfl
  · next hp =>
    split
    · rfl
    · rfl
    · next hload =>
      split
      · rfl
      · rfl
      · next hcan =>
        split
        · rfl
        · next t ht =>
          -- every guard has passed, so the track must be there already
          have htrack : e.mLocalVideoTrack.isSome := by
            have hnone : e.mVideoProducer.isNone = true := by
              simpa [mProducer] using hp
            simpa [createsVideoTrack, hnone, hload, hcan, ht] using h
          rw [e.ensureTrack_camera (fun _ ↦ htrack) camera camera']

/-- A task that does not get as far as `createVideoTrack` does not ask the camera. -/
theorem runMediaTask_camera {task : MediaTask} (h : e.createsVideoTrack task = false)
    (env : Environment) (camera : CameraOutcome) :
    e.runMediaTask { env with camera := camera } task = e.runMediaTask env task := by
  cases task with
  | setupLocalVideo =>
    have htrack : e.mLocalVideoTrack.isSome := by
      simpa [createsVideoTrack] using h
    simp only [runMediaTask, setupLocalVideo,
      e.ensureTrack_camera (fun _ ↦ htrack) camera env.camera]
  | enable kind =>
    cases kind with
    | audio => rfl
    | video =>
      have htry := (e.setCamInProgress true).tryProduce_camera h camera env.camera env.produce
      simp only [runMediaTask, enableCameraImpl, htry]
  | disable kind => cases kind <;> rfl
  | enableData label => cases label <;> rfl

end RtcEngineEx

/-! ### The device that is opened -/

namespace PeerConnectionUtils

/-- The device loop finds the first device with a name that faces the preferred way. -/
theorem selectedDeviceName_eq_find? (mPreferCameraFace : String) (isFrontFacing : String → Bool)
    (deviceNames : List String) :
    selectedDeviceName mPreferCameraFace isFrontFacing deviceNames =
      deviceNames.find? fun d ↦
        (isFrontFacing d == (mPreferCameraFace == "front")) && decide (d ≠ "") := by
  induction deviceNames with
  | nil => rfl
  | cons d deviceNames ih =>
    rw [List.find?_cons, selectedDeviceName, ih]
    generalize (mPreferCameraFace == "front") = needFrontFacing
    by_cases hname : d = ""
    · simp [hname]
    · cases needFrontFacing <;> cases isFrontFacing d <;> simp [hname]

end PeerConnectionUtils

/-- The device faces the configured way and is the first in the list to do so. -/
structure FacesConfigured (cams : Cameras) (direction : Option CameraDirection)
    (deviceName : String) : Prop where
  facing : cams.isFrontFacing deviceName = true ↔ direction = some .CAMERA_FRONT
  first : cams.deviceNames.find?
    (fun d ↦ cams.isFrontFacing d == decide (direction = some .CAMERA_FRONT)) = some deviceName

-- Skipping nameless devices finds the first one exactly when the first one has a name.
private theorem find?_named (p : String → Bool) {deviceNames : List String} {deviceName : String}
    (h : deviceNames.find? (fun d ↦ p d && decide (d ≠ "")) = some deviceName) :
    deviceNames.find? p = some deviceName ↔ deviceNames.find? p ≠ some "" := by
  have hname : deviceName ≠ "" := by
    have hp := List.find?_some h
    simp only [Bool.and_eq_true, decide_eq_true_eq] at hp
    exact hp.2
  constructor
  · intro hfirst
    rw [hfirst]
    simpa using hname
  · intro hfirst
    induction deviceNames with
    | nil => simp at h
    | cons d deviceNames ih =>
      rw [List.find?_cons] at h hfirst ⊢
      cases hd : p d with
      | false =>
        simp only [hd, Bool.false_and] at h hfirst ⊢
        exact ih h hfirst
      | true =>
        simp only [hd, Bool.true_and, ne_eq, Option.some.injEq] at h hfirst ⊢
        simpa [hfirst] using h

/-- A selected device faces the configured way exactly when the configuration asks for the
front or the static does not, and the first device that faces this way has a name. -/
theorem facesConfigured_iff {cams : Cameras} {mPreferCameraFace deviceName : String}
    (direction : CameraDirection)
    (h : PeerConnectionUtils.selectedDeviceName
      (if direction.getValue = 1 then "front" else mPreferCameraFace) cams.isFrontFacing
      cams.deviceNames = some deviceName) :
    FacesConfigured cams (some direction) deviceName ↔
      (direction = .CAMERA_FRONT ∨ mPreferCameraFace ≠ "front") ∧
        cams.deviceNames.find?
          (fun d ↦ cams.isFrontFacing d == decide (some direction = some .CAMERA_FRONT)) ≠
        some "" := by
  rw [PeerConnectionUtils.selectedDeviceName_eq_find?] at h
  have hface := List.find?_some h
  simp only [Bool.and_eq_true, beq_iff_eq] at hface
  by_cases hagree : direction = .CAMERA_FRONT ∨ mPreferCameraFace ≠ "front"
  · -- the loop looks for the configured direction
    have hneed : ((if direction.getValue = 1 then "front" else mPreferCameraFace) == "front") =
        decide (some direction = some .CAMERA_FRONT) := by
      cases direction with
      | CAMERA_FRONT => rfl
      | CAMERA_REAR => simpa [CameraDirection.getValue] using hagree
    rw [hneed] at h hface
    have hfirst := find?_named _ h
    constructor
    · intro hf
      exact ⟨hagree, hfirst.mp hf.first⟩
    · intro hf
      refine ⟨?_, hfirst.mpr hf.2⟩
      rw [hface.1, decide_eq_true_eq]
  · rw [not_or, not_not] at hagree
    have hrear : direction = .CAMERA_REAR := by
      cases direction with
      | CAMERA_FRONT => exact absurd rfl hagree.1
      | CAMERA_REAR => rfl
    constructor
    · intro hf
      have hfront : cams.isFrontFacing deviceName = true := by
        rw [hface.1, hrear, hagree.2]
        rfl
      have := hf.facing.mp hfront
      exact absurd (Option.some.inj this) hagree.1
    · intro hf
      exact absurd hf.1 (by rw [not_or, not_not]; exact hagree)

-- Without a capturer the one that `createVideoTrack` leaves is of the selected device.
private theorem PeerConnectionUtils.createVideoTrack_opens {u : PeerConnectionUtils}
    (hnone : u.mCamCapture = none) {mPreferCameraFace : String} {cams : Cameras}
    {format : CaptureFormat} {k : CameraVideoCapturer}
    (h : (u.createVideoTrack mPreferCameraFace cams format).1.mCamCapture = some k) :
    selectedDeviceName mPreferCameraFace cams.isFrontFacing cams.deviceNames =
      some k.deviceName := by
  unfold PeerConnectionUtils.createVideoTrack at h
  split at h
  · rw [hnone] at h
    cases h
  · simp only [createVideoSource, hnone, createCamCapture] at h
    cases hsel : selectedDeviceName mPreferCameraFace cams.isFrontFacing cams.deviceNames with
    | none =>
      simp only [hsel] at h
      cases h
    | some deviceName =>
      simp only [hsel, Option.map_some, Option.some.injEq] at h
      rw [← h]

/-- The same for an engine, whose configuration decides what the static reads. -/
theorem Capture.createVideoTrack_opens {c : Capture} (hnone : c.mCamCapture = none)
    {mPreferCameraFace : String} {cams : Cameras} {k : CameraVideoCapturer}
    (h : (c.createVideoTrack mPreferCameraFace cams).2.1.mCamCapture = some k) :
    ∃ direction, c.cameraDirection = some direction ∧
      PeerConnectionUtils.selectedDeviceName
        (if direction.getValue = 1 then "front" else mPreferCameraFace) cams.isFrontFacing
        cams.deviceNames = some k.deviceName := by
  have habsent : c.mCamCapture ≠ some k := by
    rw [hnone]
    simp
  unfold Capture.createVideoTrack at h
  cases hconfig : c.mCameraConfig with
  | none =>
    simp only [hconfig] at h
    exact absurd h habsent
  | some config =>
    simp only [hconfig] at h
    cases hdirection : config.cameraDirection with
    | none =>
      simp only [hdirection] at h
      exact absurd h habsent
    | some direction =>
      refine ⟨direction, ?_, ?_⟩
      · rw [Capture.cameraDirection, hconfig]
        exact hdirection
      · simp only [hdirection] at h
        cases hformat : config.captureFormat with
        | none =>
          simp only [hformat] at h
          exact absurd h habsent
        | some format =>
          simp only [hformat] at h
          exact PeerConnectionUtils.createVideoTrack_opens hnone h

/-- A media task opens a device only through `createVideoTrack`. -/
theorem Capture.serve_opens {c : Capture} (hnone : c.mCamCapture = none) {e : RtcEngineEx}
    {task : MediaTask} {mPreferCameraFace : String} {cams : Cameras} {k : CameraVideoCapturer}
    (h : (c.serve e task mPreferCameraFace cams).2.1.mCamCapture = some k) :
    ∃ direction, c.cameraDirection = some direction ∧
      PeerConnectionUtils.selectedDeviceName
        (if direction.getValue = 1 then "front" else mPreferCameraFace) cams.isFrontFacing
        cams.deviceNames = some k.deviceName := by
  apply Capture.createVideoTrack_opens hnone
  unfold Capture.serve at h
  split at h
  · split at h
    · next hc =>
      rw [hc]
      exact h
    · next hc =>
      rw [hc]
      exact h
  · rw [hnone] at h
    cases h

end RtcClient.Engine
