import RtcClient.Engine.CaptureResources

/-!
# What the methods of a `PeerConnectionUtils` create

Each creating method is evaluated once, on the thread of an object that owns what its fields
hold; the equations say which objects are new and why the method throws.
-/

namespace RtcClient.Engine.Resources

open RtcClient.Native RtcClient.Lib

variable {u : PeerConnectionUtils}

/-- The check of the thread. -/
theorem run_checkIsOnValidThread (u : PeerConnectionUtils) (thread : Ref) :
    (checkIsOnValidThread thread).run u =
      if u.mThreadChecker = thread then .ok () u else .error .wrongThread u := by
  by_cases h : u.mThreadChecker = thread <;> simp [checkIsOnValidThread, h]

/-- The factory the object has, or a new one. -/
def PeerConnectionUtils.withPeerConnectionFactory (u : PeerConnectionUtils) : PeerConnectionUtils :=
  if u.mPeerConnectionFactory.isNone then u.newPeerConnectionFactory else u

namespace PeerConnectionUtils

/-- The factory does not touch the thread. -/
@[simp] theorem withPeerConnectionFactory_mThreadChecker :
    u.withPeerConnectionFactory.mThreadChecker = u.mThreadChecker := by
  unfold withPeerConnectionFactory
  split <;> rfl

/-- The factory does not touch the audio source. -/
@[simp] theorem withPeerConnectionFactory_mAudioSource :
    u.withPeerConnectionFactory.mAudioSource = u.mAudioSource := by
  unfold withPeerConnectionFactory
  split <;> rfl

/-- The factory does not touch the video source. -/
@[simp] theorem withPeerConnectionFactory_mVideoSource :
    u.withPeerConnectionFactory.mVideoSource = u.mVideoSource := by
  unfold withPeerConnectionFactory
  split <;> rfl

/-- The factory does not touch the capturer. -/
@[simp] theorem withPeerConnectionFactory_mCamCapture :
    u.withPeerConnectionFactory.mCamCapture = u.mCamCapture := by
  unfold withPeerConnectionFactory
  split <;> rfl

/-- The factory comes with no helper. -/
@[simp] theorem helpers_withPeerConnectionFactory :
    u.withPeerConnectionFactory.helpers = u.helpers := by
  unfold withPeerConnectionFactory
  split
  · exact helpers_newPeerConnectionFactory
  · rfl

/-- There is a factory afterwards. -/
@[simp] theorem isSome_withPeerConnectionFactory :
    u.withPeerConnectionFactory.mPeerConnectionFactory.isSome := by
  unfold withPeerConnectionFactory
  split
  · rfl
  · next h => simpa [Option.isSome_iff_ne_none] using h

/-- A factory that is created is owned. -/
theorem Owns.withPeerConnectionFactory (h : u.Owns) : u.withPeerConnectionFactory.Owns := by
  unfold PeerConnectionUtils.withPeerConnectionFactory
  split
  · next hnone => exact h.newPeerConnectionFactory (Option.isNone_iff_eq_none.mp hnone)
  · exact h

/-- A call of the factory succeeds. -/
theorem Owns.run_peerConnectionFactory (h : u.Owns) (hfactory : u.mPeerConnectionFactory.isSome) :
    peerConnectionFactory.run u = .ok () u := by
  obtain ⟨factory, hf⟩ := Option.isSome_iff_exists.mp hfactory
  have hlive : factory ∉ u.objects.disposed :=
    h.balanced.not_mem_disposed (by simp [held, hf])
  simp [peerConnectionFactory, deref, checkExists, hf, hlive]

/-- So does a track of a source that is held. -/
theorem Owns.run_sourceTrack (h : u.Owns) (hfactory : u.mPeerConnectionFactory.isSome)
    (resource : Resource) (id : String) {source : Ref} (hsource : source ∈ u.held) :
    (sourceTrack resource id (some source)).run u = .ok ⟨id, source⟩ u := by
  have hlive := h.balanced.not_mem_disposed hsource
  simp [sourceTrack, h.run_peerConnectionFactory hfactory, deref, checkExists, hlive]

private theorem run_ensurePeerConnectionFactory (u : PeerConnectionUtils) (context : Option Ref) :
    (ensurePeerConnectionFactory u.mThreadChecker context).run u =
      if u.mPeerConnectionFactory = none ∧ context = none then .error .nullContext u
      else .ok () u.withPeerConnectionFactory := by
  cases hf : u.mPeerConnectionFactory <;> cases context <;>
    simp [ensurePeerConnectionFactory, createPeerConnectionFactory, run_checkIsOnValidThread,
      withPeerConnectionFactory, hf]

/-- `createAudioSource` needs a context only for the factory. -/
theorem Owns.run_createAudioSource (h : u.Owns) (context : Option Ref) :
    (createAudioSource u.mThreadChecker context).run u =
      if u.mPeerConnectionFactory = none ∧ context = none then .error .nullContext u
      else .ok () u.withPeerConnectionFactory.newAudioSource := by
  have hfactory := h.withPeerConnectionFactory.run_peerConnectionFactory
    isSome_withPeerConnectionFactory
  by_cases hcontext : u.mPeerConnectionFactory = none ∧ context = none <;>
    simp [createAudioSource, run_checkIsOnValidThread, run_ensurePeerConnectionFactory, hcontext,
      hfactory]

private theorem run_createCamCapture (hnone : u.mCamCapture = none) (context : Option Ref)
    (p : Platform) :
    (createCamCapture u.mThreadChecker context p).run u =
      if p.lollipop = true ∧ context = none then .error .nullContext u
      else match p.selected with
        | none => .error .noCamera u
        | some deviceName => .ok () (u.newCamCapture deviceName) := by
  by_cases hcontext : p.lollipop = true ∧ context = none
  · simp [createCamCapture, run_checkIsOnValidThread, hcontext]
  · cases hselected : p.selected with
    | none => simp [createCamCapture, run_checkIsOnValidThread, hcontext, hselected, hnone]
    | some deviceName =>
      simp [createCamCapture, run_checkIsOnValidThread, hcontext, hselected, newCamCapture]

/-- The object once `createVideoSource` has opened a device: the capturer, the source and, where
EGL allows it, the helper are new. -/
def opened (u : PeerConnectionUtils) (deviceName : String) (context : Option Ref)
    (eglSurface : Bool) (started : Option CaptureFormat) : PeerConnectionUtils :=
  let v := (u.withPeerConnectionFactory.newCamCapture deviceName).newVideoSource
  let w := if eglSurface then v.newSurfaceTextureHelper else v
  { w with
    mCamCapture := some {
      ref := u.withPeerConnectionFactory.objects.fresh
      deviceName := deviceName
      applicationContext := context
      capturerObserver := v.mVideoSource
      surfaceHelper := if eglSurface then some v.objects.fresh else none
      started := started } }

section Opened

variable {deviceName : String} {context : Option Ref} {eglSurface : Bool}
  {started : Option CaptureFormat}

/-- What is opened is owned. -/
theorem Owns.opened (h : u.Owns) (hvideo : u.mVideoSource = none) (hcam : u.mCamCapture = none) :
    (u.opened deviceName context eglSurface started).Owns := by
  have hv : (u.withPeerConnectionFactory.newCamCapture deviceName).newVideoSource.Owns := by
    apply (h.withPeerConnectionFactory.newCamCapture _ _ deviceName).newVideoSource
    · simpa [PeerConnectionUtils.newCamCapture] using hvideo
    · exact isSome_withPeerConnectionFactory
    · simpa using hcam
    · exact isSome_withPeerConnectionFactory
  unfold PeerConnectionUtils.opened
  cases eglSurface with
  | false => exact hv.setCamCapture rfl rfl
  | true => exact hv.newSurfaceTextureHelper.setCamCapture rfl rfl

/-- Opening the camera does not touch the thread. -/
@[simp] theorem opened_mThreadChecker :
    (u.opened deviceName context eglSurface started).mThreadChecker = u.mThreadChecker := by
  cases eglSurface <;>
    simp [opened, newSurfaceTextureHelper, newVideoSource, newCamCapture]

/-- There is a video source afterwards. -/
@[simp] theorem isSome_opened_mVideoSource :
    (u.opened deviceName context eglSurface started).mVideoSource.isSome := by
  cases eglSurface <;> rfl

/-- Only an EGL surface comes with a helper. -/
theorem helpers_opened :
    (u.opened deviceName context eglSurface started).helpers = [] ↔
      u.helpers = [] ∧ eglSurface = false := by
  let v := (u.withPeerConnectionFactory.newCamCapture deviceName).newVideoSource
  have hv : v.helpers = u.helpers := by simp [v]
  cases eglSurface with
  | false =>
    show v.helpers = [] ↔ _
    simp [hv]
  | true =>
    show v.newSurfaceTextureHelper.helpers = [] ↔ _
    simp

end Opened

-- What follows the creation of the capturer.
private theorem run_capture (h : u.withPeerConnectionFactory.Owns) (hcam : u.mCamCapture = none)
    (deviceName : String) (context : Option Ref) (p : Platform) (format : CaptureFormat) :
    EStateM.run (do
      peerConnectionFactory
      modify .newVideoSource
      let surfaceTextureHelper ← createSurfaceTextureHelper p
      initializeCapturer surfaceTextureHelper context
      startCapture format) (u.withPeerConnectionFactory.newCamCapture deviceName) =
    if p.eglSurface = false then .error .nullHelper (u.opened deviceName context false none)
    else if context = none then .error .notInitialized (u.opened deviceName none true none)
    else .ok () (u.opened deviceName context true (some format)) := by
  have hfactory : peerConnectionFactory.run (u.withPeerConnectionFactory.newCamCapture deviceName) =
      .ok () (u.withPeerConnectionFactory.newCamCapture deviceName) := by
    apply (h.newCamCapture _ _ deviceName).run_peerConnectionFactory
    · exact isSome_withPeerConnectionFactory
    · simpa using hcam
    · exact isSome_withPeerConnectionFactory
  rw [EStateM.run_bind, hfactory]
  cases hegl : p.eglSurface <;> cases context <;>
    simp [createSurfaceTextureHelper, initializeCapturer, startCapture, deref, opened,
      newVideoSource, newSurfaceTextureHelper, newCamCapture, hegl]

/-- `createVideoSource`, branch by branch. -/
theorem Owns.run_createVideoSource (h : u.Owns) (hcam : u.mCamCapture = none)
    (context : Option Ref) (p : Platform) (format : CaptureFormat) :
    (createVideoSource u.mThreadChecker context p format).run u =
      if u.mPeerConnectionFactory = none ∧ context = none then .error .nullContext u
      else if p.lollipop = true ∧ context = none then
        .error .nullContext u.withPeerConnectionFactory
      else match p.selected with
        | none => .error .noCamera u.withPeerConnectionFactory
        | some deviceName =>
          if p.eglSurface = false then .error .nullHelper (u.opened deviceName context false none)
          else if context = none then .error .notInitialized (u.opened deviceName none true none)
          else .ok () (u.opened deviceName context true (some format)) := by
  by_cases hfactory : u.mPeerConnectionFactory = none ∧ context = none
  · simp [createVideoSource, run_checkIsOnValidThread, run_ensurePeerConnectionFactory, hfactory]
  · have hcreate := run_createCamCapture (u := u.withPeerConnectionFactory) (by simpa using hcam)
      context p
    rw [withPeerConnectionFactory_mThreadChecker] at hcreate
    simp only [createVideoSource, EStateM.run_bind, run_checkIsOnValidThread, if_true,
      run_ensurePeerConnectionFactory, hfactory, if_false, EStateM.run_get,
      withPeerConnectionFactory_mCamCapture, hcam, Option.isNone_none, hcreate]
    by_cases hcontext : p.lollipop = true ∧ context = none
    · simp only [hcontext, and_self, if_true]
    · simp only [hcontext, if_false]
      cases p.selected with
      | none => rfl
      | some deviceName =>
        simpa using run_capture h.withPeerConnectionFactory hcam deviceName context p format

/-- The ways in which `createVideoSource` ends on an object without a capturer. -/
inductive CreatesVideoSource (u : PeerConnectionUtils) (p : Platform) (format : CaptureFormat) :
    Option Ref → EStateM.Result Failure PeerConnectionUtils Unit → Prop
  | noFactory (factory : u.mPeerConnectionFactory = none) :
      CreatesVideoSource u p format none (.error .nullContext u)
  | noService (lollipop : p.lollipop = true) :
      CreatesVideoSource u p format none (.error .nullContext u.withPeerConnectionFactory)
  | noCamera {context : Option Ref} (selected : p.selected = none) :
      CreatesVideoSource u p format context (.error .noCamera u.withPeerConnectionFactory)
  | noSurface {context : Option Ref} {deviceName : String} (eglSurface : p.eglSurface = false) :
      CreatesVideoSource u p format context
        (.error .nullHelper (u.opened deviceName context false none))
  | notStarted {deviceName : String} (factory : u.mPeerConnectionFactory.isSome)
      (lollipop : p.lollipop = false) (selected : p.selected = some deviceName)
      (eglSurface : p.eglSurface = true) :
      CreatesVideoSource u p format none
        (.error .notInitialized (u.opened deviceName none true none))
  | started {context : Ref} {deviceName : String} (selected : p.selected = some deviceName)
      (eglSurface : p.eglSurface = true) :
      CreatesVideoSource u p format (some context)
        (.ok () (u.opened deviceName (some context) true (some format)))

/-- The source that `createVideoSource` leaves. -/
theorem Owns.createsVideoSource (h : u.Owns) (hcam : u.mCamCapture = none) (context : Option Ref)
    (p : Platform) (format : CaptureFormat) :
    CreatesVideoSource u p format context
      ((createVideoSource u.mThreadChecker context p format).run u) := by
  rw [h.run_createVideoSource hcam]
  cases context with
  | none =>
    by_cases hfactory : u.mPeerConnectionFactory = none
    · simpa [hfactory] using .noFactory hfactory
    · cases hlollipop : p.lollipop with
      | true => simpa [hfactory] using .noService hlollipop
      | false =>
        cases hselected : p.selected with
        | none => simpa [hfactory] using .noCamera hselected
        | some deviceName =>
          cases hegl : p.eglSurface with
          | false => simpa [hfactory] using .noSurface hegl
          | true =>
            have hsome := Option.isSome_iff_ne_none.mpr hfactory
            simpa [hfactory] using .notStarted hsome hlollipop hselected hegl
  | some context =>
    cases hselected : p.selected with
    | none => simpa using .noCamera hselected
    | some deviceName =>
      cases hegl : p.eglSurface with
      | false => simpa using .noSurface hegl
      | true => simpa using .started hselected hegl

end PeerConnectionUtils

end RtcClient.Engine.Resources
