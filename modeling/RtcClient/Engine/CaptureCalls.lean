import RtcClient.Engine.CaptureEvaluation

/-!
# One call of a `PeerConnectionUtils`

What every call keeps, whether it returns or throws: the fields own what they hold, a capturer
comes with a video source, and no method is called on a null or a disposed object. `dispose`
disposes the objects in the fields, one after the other; creating goes by the equations of
`RtcClient.Engine.CaptureEvaluation`.
-/

namespace RtcClient.Engine.Resources

open RtcClient.Native RtcClient.Lib

/-! ### Disposal -/

namespace PeerConnectionUtils

variable {u : PeerConnectionUtils}

-- An object that is dropped from what is held may be disposed.
private theorem Owns.release (h : u.Owns) {u' : PeerConnectionUtils} {n : Ref}
    (hobjects : u'.objects = u.objects.dispose n)
    (hheld : ∀ m, u.held.count m = (n :: u'.held).count m) :
    u'.objects.Balanced u'.held := by
  rw [hobjects]
  exact (h.balanced.perm (List.perm_iff_count.mpr hheld)).dispose

private theorem Owns.run_disposeCamCapture (h : u.Owns) :
    ∃ objects, disposeCamCapture.run u = .ok () { u with mCamCapture := none, objects := objects } ∧
      { u with mCamCapture := none, objects := objects }.Owns ∧
      objects.ofKind .surfaceTextureHelper = u.helpers := by
  cases hc : u.mCamCapture with
  | none =>
    have hsame : { u with mCamCapture := none, objects := u.objects } = u := by rw [← hc]
    refine ⟨u.objects, ?_, ?_, rfl⟩
    · rw [hsame]
      simp [disposeCamCapture, hc]
    · rw [hsame]
      exact h
  | some c =>
    refine ⟨u.objects.dispose c.ref, by simp [disposeCamCapture, hc], ?_, rfl⟩
    refine ⟨?_, h.ofAudioSource, h.ofVideoSource, by simp⟩
    apply h.release rfl
    intro m
    simp [held, helpers, hc, List.count_append, List.count_cons]
    omega

/-- An object that only its field holds is disposed, and the field cleared. -/
theorem Owns.run_disposeField (h : u.Owns) (resource : Resource)
    (field : PeerConnectionUtils → Option Ref) (clear : PeerConnectionUtils → PeerConnectionUtils)
    (hobjects : ∀ v, (clear v).objects = v.objects) (hnone : field u = none → clear u = u)
    (hheld : ∀ n, field u = some n → ∀ m,
      u.held.count m = (n :: (clear { u with objects := u.objects.dispose n }).held).count m) :
    ∃ objects, (disposeField resource field clear).run u =
        .ok () (clear { u with objects := objects }) ∧
      objects.Balanced (clear { u with objects := objects }).held ∧
      objects.ofKind .surfaceTextureHelper = u.helpers := by
  cases hfield : field u with
  | none =>
    refine ⟨u.objects, ?_, ?_, rfl⟩
    · simp [disposeField, hfield, hnone hfield]
    · simpa [hnone hfield] using h.balanced
  | some n =>
    have hlive : n ∉ u.objects.disposed := by
      apply h.balanced.not_mem_disposed
      rw [← List.count_pos_iff, hheld n hfield]
      simp
    refine ⟨u.objects.dispose n, ?_, ?_, rfl⟩
    · simp [disposeField, checkExists, hfield, hlive]
    · have hbalanced := h.release (hobjects _) (hheld n hfield)
      rwa [hobjects] at hbalanced

private theorem Owns.run_disposeVideoSource (h : u.Owns) :
    ∃ objects, disposeVideoSource.run u =
        .ok () { u with mVideoSource := none, objects := objects } ∧
      { u with mVideoSource := none, objects := objects }.Owns ∧
      objects.ofKind .surfaceTextureHelper = u.helpers := by
  have hheld (n : Ref) (hn : u.mVideoSource = some n) (m : Ref) : u.held.count m =
      (n :: { u with mVideoSource := none, objects := u.objects.dispose n }.held).count m := by
    simp [held, helpers, hn, List.count_append, List.count_cons]
    omega
  obtain ⟨objects, hrun, hbalanced, hkind⟩ := h.run_disposeField .videoSource (·.mVideoSource)
    ({ · with mVideoSource := none }) (fun _ ↦ rfl) (fun hnone ↦ by rw [← hnone]) hheld
  exact ⟨objects, hrun, ⟨hbalanced, h.ofAudioSource, by simp, h.ofCamCapture⟩, hkind⟩

private theorem Owns.run_disposeAudioSource (h : u.Owns) :
    ∃ objects, disposeAudioSource.run u =
        .ok () { u with mAudioSource := none, objects := objects } ∧
      { u with mAudioSource := none, objects := objects }.Owns ∧
      objects.ofKind .surfaceTextureHelper = u.helpers := by
  have hheld (n : Ref) (hn : u.mAudioSource = some n) (m : Ref) : u.held.count m =
      (n :: { u with mAudioSource := none, objects := u.objects.dispose n }.held).count m := by
    simp [held, helpers, hn, List.count_append, List.count_cons]
    omega
  obtain ⟨objects, hrun, hbalanced, hkind⟩ := h.run_disposeField .audioSource (·.mAudioSource)
    ({ · with mAudioSource := none }) (fun _ ↦ rfl) (fun hnone ↦ by rw [← hnone]) hheld
  exact ⟨objects, hrun, ⟨hbalanced, by simp, h.ofVideoSource, h.ofCamCapture⟩, hkind⟩

/-- The factory goes last, when nothing is left that it made. -/
theorem Owns.run_disposePeerConnectionFactory (h : u.Owns) (haudio : u.mAudioSource = none)
    (hvideo : u.mVideoSource = none) (hcam : u.mCamCapture = none) :
    ∃ objects, disposePeerConnectionFactory.run u =
        .ok () { u with mPeerConnectionFactory := none, objects := objects } ∧
      { u with mPeerConnectionFactory := none, objects := objects }.Owns ∧
      objects.ofKind .surfaceTextureHelper = u.helpers := by
  have hheld (n : Ref) (hn : u.mPeerConnectionFactory = some n) (m : Ref) : u.held.count m =
      (n :: { u with
        mPeerConnectionFactory := none, objects := u.objects.dispose n }.held).count m := by
    simp [held, helpers, hn]
  obtain ⟨objects, hrun, hbalanced, hkind⟩ := h.run_disposeField .peerConnectionFactory
    (·.mPeerConnectionFactory) ({ · with mPeerConnectionFactory := none }) (fun _ ↦ rfl)
    (fun hnone ↦ by rw [← hnone]) hheld
  exact ⟨objects, hrun, ⟨hbalanced, by simp [haudio], by simp [hvideo], by simp [hcam]⟩, hkind⟩

/-- `dispose` empties the fields and leaves nothing behind but the helpers. -/
theorem Owns.run_dispose (h : u.Owns) :
    ∃ objects, (dispose u.mThreadChecker).run u =
        .ok () { mThreadChecker := u.mThreadChecker, objects := objects } ∧
      objects.Balanced u.helpers ∧ objects.ofKind .surfaceTextureHelper = u.helpers := by
  obtain ⟨o₁, hrun₁, h₁, hk₁⟩ := h.run_disposeCamCapture
  obtain ⟨o₂, hrun₂, h₂, hk₂⟩ := h₁.run_disposeVideoSource
  obtain ⟨o₃, hrun₃, h₃, hk₃⟩ := h₂.run_disposeAudioSource
  obtain ⟨o₄, hrun₄, h₄, hk₄⟩ := h₃.run_disposePeerConnectionFactory rfl rfl rfl
  have hhelpers : o₄.ofKind .surfaceTextureHelper = u.helpers :=
    hk₄.trans (hk₃.trans (hk₂.trans hk₁))
  refine ⟨o₄, ?_, ?_, hhelpers⟩
  · simp [dispose, run_checkIsOnValidThread, hrun₁, hrun₂, hrun₃, hrun₄]
  · have hbalanced := h₄.balanced
    simpa [held, helpers, hhelpers] using hbalanced

end PeerConnectionUtils

/-! ### One call -/

/-- Not the failure of a method called on a null or a disposed object. -/
def Failure.Ordinary : Failure → Prop
  | nullDereference _ | disposed _ => False
  | _ => True

namespace PeerConnectionUtils

/-- Between two calls there is a capturer exactly when there is a video source. -/
structure Idle (u : PeerConnectionUtils) : Prop extends u.Owns where
  paired : u.mCamCapture.isSome = u.mVideoSource.isSome

/-- The call creates a helper: `createVideoTrack` on the thread of the object, which has no video
source, finds a camera and a surface for it. A null context lets it through only when the
factory is there already and no camera service is asked for. -/
def OpensCamera (u : PeerConnectionUtils) (c : Call) : Prop :=
  match c.method with
  | .createVideoTrack context _ _ p =>
    c.thread = u.mThreadChecker ∧ u.mVideoSource = none ∧ p.selected.isSome ∧
      p.eglSurface = true ∧
      (context.isSome ∨ (u.mPeerConnectionFactory.isSome ∧ p.lollipop = false))
  | _ => False

/-- What a call makes of the object, with a new helper or not. -/
structure Served (opens : Prop) (u u' : PeerConnectionUtils) : Prop where
  idle : u'.Idle
  thread : u'.mThreadChecker = u.mThreadChecker
  helpers : u'.helpers = [] ↔ u.helpers = [] ∧ ¬ opens

/-- A call serves its object and throws nothing but ordinary failures. -/
def Serves (opens : Prop) (u : PeerConnectionUtils) {α : Type} :
    EStateM.Result Failure PeerConnectionUtils α → Prop
  | .ok _ u' => Served opens u u'
  | .error failure u' => Served opens u u' ∧ failure.Ordinary

section Calls

variable {u : PeerConnectionUtils} {opens : Prop}

/-- A call that returns. -/
@[simp] theorem serves_ok {α : Type} {a : α} {u' : PeerConnectionUtils} :
    Serves opens u (.ok a u') ↔ Served opens u u' := Iff.rfl

/-- A call that throws, and what it may throw. -/
@[simp] theorem serves_error {α : Type} {failure : Failure} {u' : PeerConnectionUtils} :
    Serves opens u (.error failure u' : EStateM.Result _ _ α) ↔
      Served opens u u' ∧ failure.Ordinary := Iff.rfl

/-- A call that does nothing and opens no camera. -/
theorem Idle.served (h : u.Idle) (hopens : ¬ opens) : Served opens u u :=
  ⟨h, rfl, by simp [hopens]⟩

private theorem Idle.served_withPeerConnectionFactory (h : u.Idle) (hopens : ¬ opens) :
    Served opens u u.withPeerConnectionFactory where
  idle := ⟨h.withPeerConnectionFactory, by simpa using h.paired⟩
  thread := withPeerConnectionFactory_mThreadChecker
  helpers := by simp [hopens]

private theorem Idle.served_opened (h : u.Idle) (hvideo : u.mVideoSource = none)
    {deviceName : String}
    {context : Option Ref} {eglSurface : Bool} {started : Option CaptureFormat}
    (hopens : opens ↔ eglSurface = true) :
    Served opens u (u.opened deviceName context eglSurface started) where
  idle := by
    have hcam : u.mCamCapture = none := by simpa [hvideo] using h.paired
    refine ⟨h.opened hvideo hcam, ?_⟩
    rw [isSome_opened_mVideoSource]
    rfl
  thread := opened_mThreadChecker
  helpers := by simp [helpers_opened, hopens]

-- A track of the audio source that is there.
private theorem Owns.run_audioTrack (h : u.Owns) (hsource : u.mAudioSource.isSome) (id : String) :
    ∃ track, (sourceTrack .audioSource id u.mAudioSource).run u = .ok track u := by
  obtain ⟨source, hs⟩ := Option.isSome_iff_exists.mp hsource
  refine ⟨⟨id, source⟩, ?_⟩
  rw [hs]
  exact h.run_sourceTrack (h.ofAudioSource hsource) _ id (by simp [held, hs])

/-- A track of the video source that is there. -/
theorem Owns.run_videoTrack (h : u.Owns) (hsource : u.mVideoSource.isSome) (id : String) :
    ∃ track, (sourceTrack .videoSource id u.mVideoSource).run u = .ok track u := by
  obtain ⟨source, hs⟩ := Option.isSome_iff_exists.mp hsource
  refine ⟨⟨id, source⟩, ?_⟩
  rw [hs]
  exact h.run_sourceTrack (h.ofVideoSource hsource) _ id (by simp [held, hs])

-- What succeeds and changes nothing may follow.
private theorem Serves.bind {α : Type} {x : Op Unit} {y : Op α} (hx : Serves opens u (x.run u))
    (hy : ∀ u', x.run u = .ok () u' → ∃ a, y.run u' = .ok a u') :
    Serves opens u (EStateM.run (do x; y) u) := by
  cases hrun : x.run u with
  | error failure u' =>
    rw [hrun] at hx
    simpa [hrun] using hx
  | ok _ u' =>
    obtain ⟨a, ha⟩ := hy u' hrun
    rw [hrun] at hx
    simpa [hrun, ha] using hx

private theorem Idle.served_newAudioSource (h : u.Idle) (hnone : u.mAudioSource = none)
    (hfactory : u.mPeerConnectionFactory.isSome) : Served False u u.newAudioSource where
  idle := ⟨h.newAudioSource hnone hfactory, h.paired⟩
  thread := rfl
  helpers := by simp

private theorem Served.trans_left {u' u'' : PeerConnectionUtils} (h : Served False u u')
    (h' : Served opens u' u'') : Served opens u u'' where
  idle := h'.idle
  thread := h'.thread.trans h.thread
  helpers := by simp [h'.helpers, h.helpers]

private theorem Idle.serves_createAudioSource (h : u.Idle) (hnone : u.mAudioSource = none)
    (context : Option Ref) :
    Serves False u ((createAudioSource u.mThreadChecker context).run u) := by
  rw [h.run_createAudioSource]
  split
  · exact ⟨h.served not_false, trivial⟩
  · have hserved : Served False u u.withPeerConnectionFactory :=
      h.served_withPeerConnectionFactory not_false
    exact hserved.trans_left
      (hserved.idle.served_newAudioSource (by simpa using hnone) isSome_withPeerConnectionFactory)

private theorem Idle.createsVideoSource (h : u.Idle) (hnone : u.mVideoSource = none)
    (context : Option Ref) (p : Platform) (format : CaptureFormat) :
    CreatesVideoSource u p format context
      ((createVideoSource u.mThreadChecker context p format).run u) :=
  h.toOwns.createsVideoSource (by simpa [hnone] using h.paired) context p format

private theorem Idle.serves_createVideoSource (h : u.Idle) (hnone : u.mVideoSource = none)
    (context : Option Ref) (id : String) (format : CaptureFormat) (p : Platform) :
    Serves (u.OpensCamera ⟨u.mThreadChecker, .createVideoTrack context id format p⟩) u
      ((createVideoSource u.mThreadChecker context p format).run u) := by
  have hcases := h.createsVideoSource hnone context p format
  generalize (createVideoSource u.mThreadChecker context p format).run u = r at hcases ⊢
  cases hcases with
  | noFactory factory => exact ⟨h.served (by simp [OpensCamera, factory]), trivial⟩
  | noService lollipop =>
    exact ⟨h.served_withPeerConnectionFactory (by simp [OpensCamera, lollipop]), trivial⟩
  | noCamera selected =>
    exact ⟨h.served_withPeerConnectionFactory (by simp [OpensCamera, selected]), trivial⟩
  | noSurface eglSurface =>
    exact ⟨h.served_opened hnone (by simp [OpensCamera, eglSurface]), trivial⟩
  | notStarted factory lollipop selected eglSurface =>
    refine ⟨h.served_opened hnone ?_, trivial⟩
    simp [OpensCamera, hnone, factory, lollipop, selected, eglSurface]
  | started selected eglSurface =>
    apply h.served_opened hnone
    simp [OpensCamera, hnone, selected, eglSurface]

-- A video source is there once `createVideoSource` returns.
private theorem Idle.isSome_of_createVideoSource (h : u.Idle) (hnone : u.mVideoSource = none)
    {context : Option Ref} {p : Platform} {format : CaptureFormat} {u' : PeerConnectionUtils}
    (hrun : (createVideoSource u.mThreadChecker context p format).run u = .ok () u') :
    u'.mVideoSource.isSome := by
  have hcases := h.createsVideoSource hnone context p format
  rw [hrun] at hcases
  cases hcases
  exact isSome_opened_mVideoSource

/-- `createAudioTrack` opens no camera. -/
theorem Idle.serves_createAudioTrack (h : u.Idle) (context : Option Ref) (id : String) :
    Serves False u ((createAudioTrack u.mThreadChecker context id).run u) := by
  cases ha : u.mAudioSource with
  | some source =>
    have hrun : (createAudioTrack u.mThreadChecker context id).run u =
        (sourceTrack .audioSource id u.mAudioSource).run u := by
      simp [createAudioTrack, run_checkIsOnValidThread, ha]
    obtain ⟨track, htrack⟩ := h.run_audioTrack (by rw [ha]; rfl) id
    rw [hrun, htrack]
    exact h.served not_false
  | none =>
    have hrun : (createAudioTrack u.mThreadChecker context id).run u = EStateM.run (do
        createAudioSource u.mThreadChecker context
        sourceTrack .audioSource id (← get).mAudioSource) u := by
      simp [createAudioTrack, run_checkIsOnValidThread, ha]
    have hserves := h.serves_createAudioSource ha context
    rw [hrun]
    apply hserves.bind
    intro u' hu'
    rw [hu'] at hserves
    apply hserves.idle.run_audioTrack
    rw [h.run_createAudioSource] at hu'
    split at hu' <;> cases hu'
    rfl

/-- A video source that is there is used again. -/
theorem Owns.run_createVideoTrack_of_isSome (h : u.Owns) (hsource : u.mVideoSource.isSome)
    (context : Option Ref) (id : String) (format : CaptureFormat) (p : Platform) :
    ∃ track, (createVideoTrack u.mThreadChecker context id format p).run u = .ok track u := by
  obtain ⟨track, htrack⟩ := h.run_videoTrack hsource id
  refine ⟨track, ?_⟩
  rw [← htrack]
  have hsome := Option.isSome_iff_ne_none.mp hsource
  simp [createVideoTrack, run_checkIsOnValidThread, hsome]

/-- Without a video source one is created first. -/
theorem run_createVideoTrack_of_none (hsource : u.mVideoSource = none) (context : Option Ref)
    (id : String) (format : CaptureFormat) (p : Platform) :
    (createVideoTrack u.mThreadChecker context id format p).run u = EStateM.run (do
      createVideoSource u.mThreadChecker context p format
      sourceTrack .videoSource id (← get).mVideoSource) u := by
  simp [createVideoTrack, run_checkIsOnValidThread, hsource]

/-- `createVideoTrack` opens the camera when there is one to open. -/
theorem Idle.serves_createVideoTrack (h : u.Idle) (context : Option Ref) (id : String)
    (format : CaptureFormat) (p : Platform) :
    Serves (u.OpensCamera ⟨u.mThreadChecker, .createVideoTrack context id format p⟩) u
      ((createVideoTrack u.mThreadChecker context id format p).run u) := by
  cases hv : u.mVideoSource with
  | some source =>
    obtain ⟨track, htrack⟩ := h.run_createVideoTrack_of_isSome (by rw [hv]; rfl) context id format p
    rw [htrack]
    exact h.served (by simp [OpensCamera, hv])
  | none =>
    have hserves := h.serves_createVideoSource hv context id format p
    rw [run_createVideoTrack_of_none hv]
    apply hserves.bind
    intro u' hu'
    rw [hu'] at hserves
    exact hserves.idle.run_videoTrack (h.isSome_of_createVideoSource hv hu') id

/-- `switchCam` opens no camera. -/
theorem Idle.serves_switchCam (h : u.Idle) :
    Serves False u ((switchCam u.mThreadChecker).run u) := by
  simp only [switchCam, EStateM.run_bind, run_checkIsOnValidThread, if_true, EStateM.run_get]
  cases u.mCamCapture with
  | none => exact h.served not_false
  | some c =>
    cases hc : c.surfaceHelper with
    | none => simpa [hc] using ⟨h.served not_false, trivial⟩
    | some helper => simpa [hc] using h.served not_false

/-- `dispose` opens no camera. -/
theorem Idle.serves_dispose (h : u.Idle) : Serves False u ((dispose u.mThreadChecker).run u) := by
  obtain ⟨objects, hrun, hbalanced, hhelpers⟩ := h.run_dispose
  rw [hrun]
  have hheld : held { mThreadChecker := u.mThreadChecker, objects := objects } = u.helpers := by
    simp [held, helpers, hhelpers]
  refine ⟨⟨⟨?_, by simp, by simp, by simp⟩, rfl⟩, rfl, ?_⟩
  · rw [hheld]
    exact hbalanced
  · simp [helpers, hhelpers]

end Calls

end PeerConnectionUtils

end RtcClient.Engine.Resources
