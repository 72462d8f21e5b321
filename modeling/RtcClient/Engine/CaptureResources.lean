import RtcClient.Engine.Capture
import RtcClient.Lib.Ledger
import RtcClient.Lib.Run

/-!
# The objects behind a `PeerConnectionUtils`

`rtc-sdk/src/main/java/com/zeewain/common/utils/PeerConnectionUtils.java` with the identities
of what it creates: the factory, the two sources and the capturer are made when they are first
needed and kept in a field until `dispose`, the `SurfaceTextureHelper` of a capture in a local
variable only. A run is a sequence of calls on one object, from any threads and with any
arguments; what the device answers is part of a call. A call that throws keeps what it has done.
-/

namespace RtcClient.Engine.Resources

open RtcClient.Native RtcClient.Lib

/-- What a `PeerConnectionUtils` creates. -/
inductive Resource where
  | peerConnectionFactory
  | audioSource
  | videoSource
  | cameraVideoCapturer
  | surfaceTextureHelper
  deriving DecidableEq, Repr

/-- What `initialize` and `startCapture` store in a capturer; `CameraCapturer.java:235–261`. -/
structure CameraVideoCapturer where
  ref : Ref
  deviceName : String
  applicationContext : Option Ref := none
  capturerObserver : Option Ref := none
  surfaceHelper : Option Ref := none
  started : Option CaptureFormat := none
  deriving DecidableEq, Repr

/-- `PeerConnectionUtils.java:46–55`, with every object created so far. -/
structure PeerConnectionUtils where
  mThreadChecker : Ref
  mPeerConnectionFactory : Option Ref := none
  mAudioSource : Option Ref := none
  mVideoSource : Option Ref := none
  mCamCapture : Option CameraVideoCapturer := none
  objects : Ledger Resource := {}
  deriving DecidableEq, Repr

/-- The device a call runs on: the preferred face, whether its API level is that of Lollipop,
its cameras, and whether EGL gives the helper a surface. -/
structure Platform where
  mPreferCameraFace : String
  lollipop : Bool
  cams : Cameras
  eglSurface : Bool

/-- Device that `createCamCapture` would open. -/
def Platform.selected (p : Platform) : Option String :=
  Engine.PeerConnectionUtils.selectedDeviceName p.mPreferCameraFace p.cams.isFrontFacing
    p.cams.deviceNames

/-- Why a call throws. The last two are the failures of a method called on a null reference
and on an object that has been disposed. -/
inductive Failure where
  | wrongThread
  | nullContext
  | noCamera
  | nullHelper
  | nullHandler
  | notInitialized
  | nullDereference (resource : Resource)
  | disposed (resource : Resource)
  deriving DecidableEq, Repr

/-- What is thrown. -/
def Failure.throwable : Failure → Throwable
  | wrongThread | noCamera | disposed _ => .illegalState
  | nullContext | nullHelper | nullHandler | nullDereference _ => .nullPointer
  | notInitialized => .runtime

/-- A method body. -/
abbrev Op := EStateM Failure PeerConnectionUtils

/-- A track with the source it was made of. -/
structure SourceTrack where
  id : String
  source : Ref
  deriving DecidableEq, Repr

namespace PeerConnectionUtils

/-- A new factory in its field. -/
def newPeerConnectionFactory (u : PeerConnectionUtils) : PeerConnectionUtils :=
  { u with
    mPeerConnectionFactory := some u.objects.fresh
    objects := u.objects.create .peerConnectionFactory }

/-- A new audio source in its field. -/
def newAudioSource (u : PeerConnectionUtils) : PeerConnectionUtils :=
  { u with
    mAudioSource := some u.objects.fresh
    objects := u.objects.create .audioSource }

/-- A new video source in its field. -/
def newVideoSource (u : PeerConnectionUtils) : PeerConnectionUtils :=
  { u with
    mVideoSource := some u.objects.fresh
    objects := u.objects.create .videoSource }

/-- A new capturer in its field. -/
def newCamCapture (u : PeerConnectionUtils) (deviceName : String) : PeerConnectionUtils :=
  { u with
    mCamCapture := some { ref := u.objects.fresh, deviceName := deviceName }
    objects := u.objects.create .cameraVideoCapturer }

/-- A new helper, in no field. -/
def newSurfaceTextureHelper (u : PeerConnectionUtils) : PeerConnectionUtils :=
  { u with objects := u.objects.create .surfaceTextureHelper }

end PeerConnectionUtils

/-- `ThreadUtils.java:28–35`. -/
def checkIsOnValidThread (thread : Ref) : Op Unit := do
  if (← get).mThreadChecker ≠ thread then throw .wrongThread

/-- The object a method is called on. -/
def deref {α : Type} (resource : Resource) : Option α → Op α
  | some x => pure x
  | none => throw (.nullDereference resource)

/-- `checkMediaSourceExists` and `checkPeerConnectionFactoryExists`; `MediaSource.java:67–71`,
`PeerConnectionFactory.java:508–512`. -/
def checkExists (resource : Resource) (ref : Ref) : Op Unit := do
  if ref ∈ (← get).objects.disposed then throw (.disposed resource)

/-- The audio device module asks the context for a service;
`PeerConnectionUtils.java:57–125`, `JavaAudioDeviceModule.java:54–60`. -/
def createPeerConnectionFactory (thread : Ref) (context : Option Ref) : Op Unit := do
  checkIsOnValidThread thread
  if context.isNone then throw .nullContext
  modify .newPeerConnectionFactory

/-- `PeerConnectionUtils.java:132–134,221–223`. -/
def ensurePeerConnectionFactory (thread : Ref) (context : Option Ref) : Op Unit := do
  if (← get).mPeerConnectionFactory.isNone then createPeerConnectionFactory thread context

/-- `mPeerConnectionFactory`, as the target of a call; `PeerConnectionFactory.java:442–470`. -/
def peerConnectionFactory : Op Unit := do
  let factory ← deref .peerConnectionFactory (← get).mPeerConnectionFactory
  checkExists .peerConnectionFactory factory

/-- `PeerConnectionUtils.java:128–137`. -/
def createAudioSource (thread : Ref) (context : Option Ref) : Op Unit := do
  checkIsOnValidThread thread
  ensurePeerConnectionFactory thread context
  peerConnectionFactory
  modify .newAudioSource

/-- From Lollipop on the context is asked for the camera service;
`PeerConnectionUtils.java:139–206`, `Camera2Enumerator.java:108–113`. -/
def createCamCapture (thread : Ref) (context : Option Ref) (p : Platform) : Op Unit := do
  checkIsOnValidThread thread
  if p.lollipop ∧ context.isNone then throw .nullContext
  match p.selected with
  | some deviceName => modify (·.newCamCapture deviceName)
  | none => pure ()
  if (← get).mCamCapture.isNone then throw .noCamera

/-- Only a capturer that was initialized has a handler to post to;
`PeerConnectionUtils.java:208–214`, `CameraCapturer.java:331–333`. -/
def switchCam (thread : Ref) : Op Unit := do
  checkIsOnValidThread thread
  match (← get).mCamCapture with
  | none => pure ()
  | some mCamCapture => if mCamCapture.surfaceHelper.isNone then throw .nullHandler

/-- Null when EGL fails; `SurfaceTextureHelper.java:60–84`. -/
def createSurfaceTextureHelper (p : Platform) : Op (Option Ref) := do
  if p.eglSurface then modifyGet fun u ↦ (some u.objects.fresh, u.newSurfaceTextureHelper)
  else pure none

/-- `PeerConnectionUtils.java:232`, `CameraCapturer.java:235–242`. -/
def initializeCapturer (surfaceTextureHelper context : Option Ref) : Op Unit := do
  let observer ← deref .videoSource (← get).mVideoSource
  let mCamCapture ← deref .cameraVideoCapturer (← get).mCamCapture
  modify fun u ↦ { u with
    mCamCapture := some { mCamCapture with
      applicationContext := context
      capturerObserver := some observer
      surfaceHelper := surfaceTextureHelper } }
  if surfaceTextureHelper.isNone then throw .nullHelper

/-- An open session is left as it is; `CameraCapturer.java:245–265`. -/
def startCapture (format : CaptureFormat) : Op Unit := do
  let mCamCapture ← deref .cameraVideoCapturer (← get).mCamCapture
  if mCamCapture.applicationContext.isNone then throw .notInitialized
  if mCamCapture.started.isNone then
    modify fun u ↦ { u with mCamCapture := some { mCamCapture with started := some format } }

/-- `PeerConnectionUtils.java:216–234`. -/
def createVideoSource (thread : Ref) (context : Option Ref) (p : Platform)
    (format : CaptureFormat) : Op Unit := do
  checkIsOnValidThread thread
  ensurePeerConnectionFactory thread context
  if (← get).mCamCapture.isNone then createCamCapture thread context p
  peerConnectionFactory
  modify .newVideoSource
  let surfaceTextureHelper ← createSurfaceTextureHelper p
  initializeCapturer surfaceTextureHelper context
  startCapture format

/-- The factory makes a track of a source; `PeerConnectionFactory.java:456–460,467–470`. -/
def sourceTrack (resource : Resource) (id : String) (source : Option Ref) : Op SourceTrack := do
  peerConnectionFactory
  let source ← deref resource source
  checkExists resource source
  return ⟨id, source⟩

/-- `PeerConnectionUtils.java:237–244`. -/
def createAudioTrack (thread : Ref) (context : Option Ref) (id : String) : Op SourceTrack := do
  checkIsOnValidThread thread
  if (← get).mAudioSource.isNone then createAudioSource thread context
  sourceTrack .audioSource id (← get).mAudioSource

/-- `PeerConnectionUtils.java:247–255`. -/
def createVideoTrack (thread : Ref) (context : Option Ref) (id : String) (format : CaptureFormat)
    (p : Platform) : Op SourceTrack := do
  checkIsOnValidThread thread
  if (← get).mVideoSource.isNone then createVideoSource thread context p format
  sourceTrack .videoSource id (← get).mVideoSource

/-- Disposing a capturer stops its session and leaves the helper alone;
`PeerConnectionUtils.java:261–264`, `CameraCapturer.java:325–328`. -/
def disposeCamCapture : Op Unit := do
  match (← get).mCamCapture with
  | none => pure ()
  | some mCamCapture =>
    modify fun u ↦ { u with mCamCapture := none, objects := u.objects.dispose mCamCapture.ref }

/-- A block of `dispose` for an object that cannot be disposed twice. -/
def disposeField (resource : Resource) (field : PeerConnectionUtils → Option Ref)
    (clear : PeerConnectionUtils → PeerConnectionUtils) : Op Unit := do
  match field (← get) with
  | none => pure ()
  | some ref =>
    checkExists resource ref
    modify fun u ↦ clear { u with objects := u.objects.dispose ref }

/-- `PeerConnectionUtils.java:266–269`, `MediaSource.java:41–45`. -/
def disposeVideoSource : Op Unit :=
  disposeField .videoSource (·.mVideoSource) ({ · with mVideoSource := none })

/-- `PeerConnectionUtils.java:271–274`. -/
def disposeAudioSource : Op Unit :=
  disposeField .audioSource (·.mAudioSource) ({ · with mAudioSource := none })

/-- `PeerConnectionUtils.java:276–279`, `PeerConnectionFactory.java:487–494`. -/
def disposePeerConnectionFactory : Op Unit :=
  disposeField .peerConnectionFactory (·.mPeerConnectionFactory)
    ({ · with mPeerConnectionFactory := none })

/-- `PeerConnectionUtils.java:257–280`. -/
def dispose (thread : Ref) : Op Unit := do
  checkIsOnValidThread thread
  disposeCamCapture
  disposeVideoSource
  disposeAudioSource
  disposePeerConnectionFactory

/-- The public methods, with their arguments and what the device answers. -/
inductive Method where
  | createAudioTrack (context : Option Ref) (id : String)
  | createVideoTrack (context : Option Ref) (id : String) (format : CaptureFormat) (p : Platform)
  | switchCam
  | dispose

/-- A call from a thread. -/
structure Call where
  thread : Ref
  method : Method

/-- The track a call returns, if it returns one. -/
def Call.exec (c : Call) : Op (Option SourceTrack) := do
  match c.method with
  | .createAudioTrack context id => return some (← Resources.createAudioTrack c.thread context id)
  | .createVideoTrack context id format p =>
    return some (← Resources.createVideoTrack c.thread context id format p)
  | .switchCam =>
    Resources.switchCam c.thread
    return none
  | .dispose =>
    Resources.dispose c.thread
    return none

namespace PeerConnectionUtils

/-- State a call leaves, whether it returns or throws. -/
def step (u : PeerConnectionUtils) (c : Call) : PeerConnectionUtils :=
  match c.exec.run u with
  | .ok _ u' => u'
  | .error _ u' => u'

/-- What a call returns or throws. -/
def outcome (u : PeerConnectionUtils) (c : Call) : Except Failure (Option SourceTrack) :=
  match c.exec.run u with
  | .ok track _ => .ok track
  | .error failure _ => .error failure

end PeerConnectionUtils

/-! ### What is owned -/

namespace PeerConnectionUtils

/-- The helpers created so far. -/
def helpers (u : PeerConnectionUtils) : List Ref := u.objects.ofKind .surfaceTextureHelper

/-- The objects in the fields and every helper. -/
def held (u : PeerConnectionUtils) : List Ref :=
  u.mPeerConnectionFactory.toList ++ u.mAudioSource.toList ++ u.mVideoSource.toList ++
    (u.mCamCapture.map CameraVideoCapturer.ref).toList ++ u.helpers

/-- What the fields hold has not been disposed, all else but the helpers has, once; and
nothing outlives the factory it was made by. -/
structure Owns (u : PeerConnectionUtils) : Prop where
  balanced : u.objects.Balanced u.held
  ofAudioSource : u.mAudioSource.isSome → u.mPeerConnectionFactory.isSome
  ofVideoSource : u.mVideoSource.isSome → u.mPeerConnectionFactory.isSome
  ofCamCapture : u.mCamCapture.isSome → u.mPeerConnectionFactory.isSome

variable {u : PeerConnectionUtils}

/-- A factory is no helper. -/
@[simp] theorem helpers_newPeerConnectionFactory : u.newPeerConnectionFactory.helpers = u.helpers :=
  u.objects.ofKind_create_of_ne (by decide)

/-- An audio source is no helper. -/
@[simp] theorem helpers_newAudioSource : u.newAudioSource.helpers = u.helpers :=
  u.objects.ofKind_create_of_ne (by decide)

/-- A video source is no helper. -/
@[simp] theorem helpers_newVideoSource : u.newVideoSource.helpers = u.helpers :=
  u.objects.ofKind_create_of_ne (by decide)

/-- A capturer is no helper. -/
@[simp] theorem helpers_newCamCapture (deviceName : String) :
    (u.newCamCapture deviceName).helpers = u.helpers :=
  u.objects.ofKind_create_of_ne (by decide)

/-- A helper comes last. -/
@[simp] theorem helpers_newSurfaceTextureHelper :
    u.newSurfaceTextureHelper.helpers = u.helpers ++ [u.objects.fresh] :=
  u.objects.ofKind_create_self _

-- A new object is owned when it is added to what is held.
private theorem Owns.create (h : u.Owns) {u' : PeerConnectionUtils} (k : Resource)
    (hobjects : u'.objects = u.objects.create k)
    (hheld : ∀ n, u'.held.count n = (u.objects.fresh :: u.held).count n) :
    u'.objects.Balanced u'.held := by
  rw [hobjects]
  exact (h.balanced.create k).perm (List.perm_iff_count.mpr fun n ↦ (hheld n).symm)

/-- The first factory is owned. -/
theorem Owns.newPeerConnectionFactory (h : u.Owns) (hnone : u.mPeerConnectionFactory = none) :
    u.newPeerConnectionFactory.Owns where
  balanced := by
    apply h.create _ rfl
    intro n
    simp only [held, helpers_newPeerConnectionFactory]
    simp [PeerConnectionUtils.newPeerConnectionFactory, hnone]
  ofAudioSource _ := rfl
  ofVideoSource _ := rfl
  ofCamCapture _ := rfl

/-- The first audio source is owned. -/
theorem Owns.newAudioSource (h : u.Owns) (hnone : u.mAudioSource = none)
    (hfactory : u.mPeerConnectionFactory.isSome) : u.newAudioSource.Owns where
  balanced := by
    apply h.create _ rfl
    intro n
    simp only [held, helpers_newAudioSource]
    simp [PeerConnectionUtils.newAudioSource, hnone, List.count_append, List.count_cons]
    omega
  ofAudioSource _ := hfactory
  ofVideoSource := h.ofVideoSource
  ofCamCapture := h.ofCamCapture

/-- The first video source is owned. -/
theorem Owns.newVideoSource (h : u.Owns) (hnone : u.mVideoSource = none)
    (hfactory : u.mPeerConnectionFactory.isSome) : u.newVideoSource.Owns where
  balanced := by
    apply h.create _ rfl
    intro n
    simp only [held, helpers_newVideoSource]
    simp [PeerConnectionUtils.newVideoSource, hnone, List.count_append, List.count_cons]
    omega
  ofAudioSource := h.ofAudioSource
  ofVideoSource _ := hfactory
  ofCamCapture := h.ofCamCapture

/-- The first capturer is owned. -/
theorem Owns.newCamCapture (h : u.Owns) (hnone : u.mCamCapture = none)
    (hfactory : u.mPeerConnectionFactory.isSome) (deviceName : String) :
    (u.newCamCapture deviceName).Owns where
  balanced := by
    apply h.create _ rfl
    intro n
    simp only [held, helpers_newCamCapture]
    simp [PeerConnectionUtils.newCamCapture, hnone, List.count_append, List.count_cons]
    omega
  ofAudioSource := h.ofAudioSource
  ofVideoSource := h.ofVideoSource
  ofCamCapture _ := hfactory

/-- A new helper is owned. -/
theorem Owns.newSurfaceTextureHelper (h : u.Owns) : u.newSurfaceTextureHelper.Owns where
  balanced := by
    apply h.create _ rfl
    intro n
    simp only [held, helpers_newSurfaceTextureHelper]
    simp [PeerConnectionUtils.newSurfaceTextureHelper, List.count_append, List.count_cons]
    omega
  ofAudioSource := h.ofAudioSource
  ofVideoSource := h.ofVideoSource
  ofCamCapture := h.ofCamCapture

/-- A capturer may be written to, as long as it stays the same object. -/
theorem Owns.setCamCapture (h : u.Owns) {c c' : CameraVideoCapturer} (hc : u.mCamCapture = some c)
    (href : c'.ref = c.ref) : { u with mCamCapture := some c' }.Owns where
  balanced := by
    have hheld : { u with mCamCapture := some c' }.held = u.held := by
      simp [held, helpers, hc, href]
    rw [hheld]
    exact h.balanced
  ofAudioSource := h.ofAudioSource
  ofVideoSource := h.ofVideoSource
  ofCamCapture _ := h.ofCamCapture (by rw [hc]; rfl)

end PeerConnectionUtils

end RtcClient.Engine.Resources
