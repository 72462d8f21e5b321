import RtcClient.Engine.CaptureCalls

/-!
# Conservation of capture objects

What any sequence of calls on one `PeerConnectionUtils` leaves behind. The fields' objects are
all disposed, each once; a `SurfaceTextureHelper` never is, since the capturer that holds it only
stops its session. The last section connects the object to the camera model of
`RtcClient.Engine.Capture`, which keeps the fields and forgets the identities.
-/

namespace RtcClient.Engine.Resources

open RtcClient.Native RtcClient.Lib

/-! ### Runs -/

namespace PeerConnectionUtils

variable {u : PeerConnectionUtils}

-- Off its thread the object is left alone.
private theorem run_exec_of_ne {c : Call} (hthread : c.thread ≠ u.mThreadChecker) :
    c.exec.run u = .error .wrongThread u := by
  have hcheck : (checkIsOnValidThread c.thread).run u = .error .wrongThread u := by
    rw [run_checkIsOnValidThread, if_neg hthread.symm]
  obtain ⟨thread, method⟩ := c
  cases method <;>
    simp [Call.exec, createAudioTrack, createVideoTrack, switchCam, dispose, hcheck]

-- The result of a method is handed on as it is.
private theorem Serves.map {α β : Type} {opens : Prop} {x : Op α} (f : α → β)
    (hx : Serves opens u (x.run u)) : Serves opens u (EStateM.run (do return f (← x)) u) := by
  rw [EStateM.run_bind]
  cases hrun : x.run u with
  | ok a u' =>
    rw [hrun] at hx
    exact hx
  | error failure u' =>
    rw [hrun] at hx
    exact hx

/-- Every call serves its object. -/
theorem Idle.serves_exec (h : u.Idle) (c : Call) : Serves (u.OpensCamera c) u (c.exec.run u) := by
  by_cases hthread : c.thread = u.mThreadChecker
  · obtain ⟨thread, method⟩ := c
    cases hthread
    cases method with
    | createAudioTrack context id => exact (h.serves_createAudioTrack context id).map _
    | createVideoTrack context id format p =>
      exact (h.serves_createVideoTrack context id format p).map _
    | switchCam => exact h.serves_switchCam.map fun _ ↦ none
    | dispose => exact h.serves_dispose.map fun _ ↦ none
  · rw [run_exec_of_ne hthread]
    refine ⟨h.served ?_, trivial⟩
    unfold OpensCamera
    split
    · exact fun hopens ↦ hthread hopens.1
    · exact not_false

private theorem Idle.served_step (h : u.Idle) (c : Call) :
    Served (u.OpensCamera c) u (u.step c) := by
  have hserves := h.serves_exec c
  unfold step
  split
  · next hrun =>
    rw [hrun] at hserves
    exact hserves
  · next hrun =>
    rw [hrun] at hserves
    exact hserves.1

/-- A `PeerConnectionUtils` made on a thread. -/
def new (thread : Ref) : PeerConnectionUtils := { mThreadChecker := thread }

private theorem idle_new (thread : Ref) : (new thread).Idle :=
  ⟨⟨Ledger.balanced_empty, by simp [new], by simp [new], by simp [new]⟩, rfl⟩

/-- What the calls leave behind: an object at rest, on its thread, with a helper exactly when one
of them opened a camera. -/
theorem run_served (thread : Ref) (calls : List Call) :
    (run step (new thread) calls).Idle ∧
      (run step (new thread) calls).mThreadChecker = thread ∧
      ((run step (new thread) calls).helpers = [] ↔
        Guarded step (fun u c ↦ ¬ u.OpensCamera c) (new thread) calls) := by
  induction calls using List.reverseRecOn with
  | nil => exact ⟨idle_new thread, rfl, by simp [new, helpers, Ledger.ofKind, Ledger.fresh]⟩
  | append_singleton calls c ih =>
    obtain ⟨hidle, hthread, hhelpers⟩ := ih
    have hserved := hidle.served_step c
    rw [run_concat, guarded_concat, ← hhelpers]
    exact ⟨hserved.idle, hserved.thread.trans hthread, hserved.helpers⟩

/-- No method was called on a null or a disposed object. -/
def DereferencesLive (u : PeerConnectionUtils) (c : Call) : Prop :=
  ∀ resource, u.outcome c ≠ .error (.nullDereference resource) ∧
    u.outcome c ≠ .error (.disposed resource)

private theorem Idle.dereferencesLive (h : u.Idle) (c : Call) : u.DereferencesLive c := by
  have hserves := h.serves_exec c
  intro resource
  unfold outcome
  split
  · simp
  · next failure _ hrun =>
    rw [hrun] at hserves
    obtain ⟨-, hordinary⟩ := hserves
    constructor <;>
    · intro hf
      cases hf
      exact hordinary

/-- Nothing is left of an object at rest when no helper was made and the factory is gone. -/
theorem Idle.held_eq_nil_iff (h : u.Idle) :
    u.held = [] ↔ u.helpers = [] ∧ u.mPeerConnectionFactory = none := by
  constructor
  · intro hheld
    simp only [held, List.append_eq_nil_iff, Option.toList_eq_nil_iff] at hheld
    exact ⟨hheld.2, hheld.1.1.1.1⟩
  · rintro ⟨hhelpers, hfactory⟩
    have hnone {α : Type} {o : Option α} (ho : o.isSome → u.mPeerConnectionFactory.isSome) :
        o = none := by simpa [hfactory] using ho
    simp [held, hhelpers, hfactory, hnone h.ofAudioSource, hnone h.ofVideoSource,
      hnone h.ofCamCapture]

/-- After a last `dispose` on the thread of the object only the helpers are left. -/
theorem Idle.conserved_dispose_iff (h : u.Idle) (thread : Ref) :
    (u.step ⟨thread, .dispose⟩).objects.Conserved ↔
      u.helpers = [] ∧ (thread = u.mThreadChecker ∨ u.mPeerConnectionFactory = none) := by
  by_cases hthread : thread = u.mThreadChecker
  · obtain ⟨objects, hrun, hbalanced, -⟩ := h.run_dispose
    have hstep : (u.step ⟨thread, .dispose⟩).objects = objects := by
      simp only [hthread, step, Call.exec, EStateM.run_bind, hrun, EStateM.run_pure]
    rw [hstep, hbalanced.conserved_iff]
    simp [hthread]
  · have hstep : u.step ⟨thread, .dispose⟩ = u := by
      rw [step, run_exec_of_ne hthread]
    rw [hstep, h.balanced.conserved_iff, h.held_eq_nil_iff]
    simp [hthread]

/-- Along every sequence of calls no method is called on a null factory, source or capturer, nor
on a disposed one. After a last `dispose` every object has been disposed exactly once if and only
if no call opened a camera, and the `dispose` came from the thread of the object or found it
without a factory. -/
theorem conserved_iff_no_camera (mThreadChecker : Ref) (calls : List Call) :
    Guarded step DereferencesLive (new mThreadChecker) calls ∧
      ∀ thread,
        (run step (new mThreadChecker) (calls ++ [⟨thread, .dispose⟩])).objects.Conserved ↔
          Guarded step (fun u c ↦ ¬ u.OpensCamera c) (new mThreadChecker) calls ∧
            (thread = mThreadChecker ∨
              (run step (new mThreadChecker) calls).mPeerConnectionFactory = none) := by
  constructor
  · intro pre c _
    obtain ⟨hidle, -, -⟩ := run_served mThreadChecker pre
    exact hidle.dereferencesLive c
  · intro thread
    obtain ⟨hidle, hthread, hhelpers⟩ := run_served mThreadChecker calls
    rw [run_concat, hidle.conserved_dispose_iff, hhelpers, hthread]

/-- One camera, which faces front, on a device where everything works. -/
def frontCamera : Platform where
  mPreferCameraFace := "front"
  lollipop := true
  cams := { deviceNames := ["1"], isFrontFacing := fun _ ↦ true }
  eglSurface := true

/-- A video track and a `dispose`: the factory, the capturer and the source are gone, the
helper is not. -/
theorem helper_outlives_dispose :
    let calls : List Call :=
      [⟨0, .createVideoTrack (some 0) "Cam" {} frontCamera⟩, ⟨0, .dispose⟩]
    let u := run step (new 0) calls
    u.objects.created =
        [.peerConnectionFactory, .cameraVideoCapturer, .videoSource, .surfaceTextureHelper] ∧
      u.objects.disposed = [1, 2, 0] ∧ ¬ u.objects.Conserved := by
  decide

end PeerConnectionUtils

/-! ### The camera's part -/

namespace PeerConnectionUtils

/-- What the camera model keeps of the object. -/
def camera (u : PeerConnectionUtils) : Engine.PeerConnectionUtils where
  mPeerConnectionFactory := u.mPeerConnectionFactory.isSome
  mVideoSource := u.mVideoSource.isSome
  mCamCapture := u.mCamCapture.map fun c ↦ { deviceName := c.deviceName, started := c.started }

variable {u : PeerConnectionUtils}

/-- A returned track or the exception, as the camera model has it. -/
def completion {α : Type} : EStateM.Result Failure PeerConnectionUtils α →
    Engine.PeerConnectionUtils × Except Throwable Unit
  | .ok _ u => (u.camera, .ok ())
  | .error failure u => (u.camera, .error failure.throwable)

private theorem camera_withPeerConnectionFactory :
    u.withPeerConnectionFactory.camera = { u.camera with mPeerConnectionFactory := true } := by
  simp [camera]

private theorem camera_opened {deviceName : String} {context : Option Ref} {eglSurface : Bool}
    {started : Option CaptureFormat} :
    (u.opened deviceName context eglSurface started).camera =
      ⟨true, true, some ⟨deviceName, started⟩⟩ := by
  cases eglSurface <;>
    simp [camera, opened, newSurfaceTextureHelper, newVideoSource, newCamCapture]

/-- With a context and a surface, `createVideoTrack` is that of the camera model. -/
theorem Idle.completion_createVideoTrack (h : u.Idle) (context : Ref) (id : String)
    (format : CaptureFormat) {p : Platform} (hegl : p.eglSurface = true) :
    completion ((createVideoTrack u.mThreadChecker (some context) id format p).run u) =
      u.camera.createVideoTrack p.mPreferCameraFace p.cams format := by
  cases hv : u.mVideoSource with
  | some source =>
    have hsource : u.mVideoSource.isSome := by rw [hv]; rfl
    obtain ⟨track, htrack⟩ := h.run_createVideoTrack_of_isSome hsource (some context) id format p
    have hcamera : u.camera.mVideoSource = true := hsource
    rw [htrack, Engine.PeerConnectionUtils.createVideoTrack, if_pos hcamera]
    rfl
  | none =>
    have hcam : u.mCamCapture = none := by simpa [hv] using h.paired
    have hsource : ¬ u.camera.mVideoSource = true := by simp [camera, hv]
    have hcapture : u.camera.mCamCapture = none := by simp [camera, hcam]
    rw [run_createVideoTrack_of_none hv, EStateM.run_bind, h.run_createVideoSource hcam,
      Engine.PeerConnectionUtils.createVideoTrack, if_neg hsource,
      Engine.PeerConnectionUtils.createVideoSource]
    simp only [reduceCtorEq, and_false, if_false, hegl, Bool.true_eq_false, Platform.selected,
      Engine.PeerConnectionUtils.createCamCapture, hcapture]
    -- both models now ask for the same device
    cases Engine.PeerConnectionUtils.selectedDeviceName p.mPreferCameraFace p.cams.isFrontFacing
      p.cams.deviceNames with
    | none => simp [completion, camera_withPeerConnectionFactory, Failure.throwable, hcapture]
    | some deviceName =>
      have hopened : (u.opened deviceName (some context) true (some format)).Owns :=
        h.opened hv hcam
      obtain ⟨track, htrack⟩ := hopened.run_videoTrack isSome_opened_mVideoSource id
      simp [completion, htrack, camera_opened]

private theorem Idle.completion_dispose (h : u.Idle) :
    completion ((dispose u.mThreadChecker).run u) = (u.camera.dispose, .ok ()) := by
  obtain ⟨objects, hrun, -, -⟩ := h.run_dispose
  rw [hrun]
  rfl

end PeerConnectionUtils

end RtcClient.Engine.Resources
