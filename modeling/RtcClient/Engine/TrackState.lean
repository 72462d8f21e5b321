import RtcClient.Engine.MediaTasks
import RtcClient.Lib.Run

/-!
# Enabled tracks of the local producers

A local track is enabled when it is created and disabled when a produce throws; nothing
enables it again (`RtcEngineEx.java:426–429,443–448,487–490,501–504`). A producer therefore
sends an enabled track unless it was made on a track that an earlier attempt had disabled.
-/

namespace RtcClient.Engine

open RtcClient.Native RtcClient.Store RtcClient.Lib

namespace RtcEngineEx

/-- A producer of either kind sends a track that exists and is enabled. -/
def TracksEnabled (e : RtcEngineEx) : Prop :=
  ∀ k, (e.mProducer k).isSome → ∃ tr, e.mLocalTrack k = some tr ∧ tr.enabled = true

/-- The task makes a producer on an existing track that is disabled. -/
def ResumesDisabledTrack (e : RtcEngineEx) (a : Environment × MediaTask) : Prop :=
  ∃ k tr, a.2 = .enable k ∧ e.Opens k a.1 ∧ e.mLocalTrack k = some tr ∧ tr.enabled = false

variable (e : RtcEngineEx)

/-! ### Tracks after each operation -/

private theorem mLocalTrack_setLocalTrack (tr : Option LocalTrack) (kind k : Kind) :
    (e.setLocalTrack tr kind).mLocalTrack k = if k = kind then tr else e.mLocalTrack k := by
  cases kind <;> cases k <;> rfl

private theorem mLocalTrack_setTrackEnabled_of_ne (b : Bool) {kind k : Kind} (h : k ≠ kind) :
    (e.setTrackEnabled kind b).mLocalTrack k = e.mLocalTrack k := by
  rw [setTrackEnabled, mLocalTrack_setLocalTrack, if_neg h]

/-- A native produce leaves the local tracks alone. -/
theorem mLocalTrack_produce (t : SendTransport) (kind k : Kind) (o : ProduceOutcome) :
    (e.produce t kind o).1.mLocalTrack k = e.mLocalTrack k := by
  have hprod := e.produce_step t kind o
  generalize e.produce t kind o = r at hprod
  cases hprod <;> cases k <;> rfl

private theorem mLocalTrack_withTrack_of_ne {kind k : Kind} (h : k ≠ kind) :
    (e.withTrack kind).mLocalTrack k = e.mLocalTrack k := by
  rw [withTrack, mLocalTrack_setLocalTrack, if_neg h]

-- An enable block leaves the track of the other kind alone.
private theorem mLocalTrack_tryProduce {kind k : Kind} (camera : CameraOutcome)
    (o : ProduceOutcome) (h : k ≠ kind) :
    (e.tryProduce kind camera o).engine.mLocalTrack k = e.mLocalTrack k := by
  have hstep := e.tryProduce_step kind camera o
  generalize e.tryProduce kind camera o = exit at hstep
  cases hstep with
  | returned _ => rfl
  | threw _ => rfl
  | produced t _ =>
    have hprod := (e.withTrack kind).mLocalTrack_produce t kind k o
    rw [e.mLocalTrack_withTrack_of_ne h] at hprod
    generalize (e.withTrack kind).produce t kind o = r at hprod
    obtain ⟨y, ex | p⟩ := r
    · exact hprod
    · obtain ⟨r, id, pk⟩ := p
      cases pk <;> cases k <;> exact hprod

private theorem mLocalTrack_afterCamera (available : Bool) (k : Kind) :
    (e.afterCamera available).engine.mLocalTrack k = e.mLocalTrack k := by
  obtain ⟨cs, hcs, -⟩ := e.afterCamera_calls available
  rw [hcs]
  cases k <;> rfl

-- `enableCameraImpl` and the audio track.
private theorem enableCameraImpl_other_track (camera : CameraOutcome) (o : ProduceOutcome)
    (available : Bool) :
    (e.enableCameraImpl camera o available).engine.mLocalTrack .audio = e.mLocalTrack .audio := by
  have htry : ((e.setCamInProgress true).tryProduce .video camera o).engine.mLocalTrack .audio =
      e.mLocalTrack .audio :=
    (e.setCamInProgress true).mLocalTrack_tryProduce camera o (by decide)
  have hend := e.enableCameraImpl_end camera o available
  generalize (e.enableCameraImpl camera o available).engine = e' at hend
  cases hend with
  | left => exact htry
  | ended => rw [mLocalTrack_afterCamera, htry]
  | handled =>
    rw [mLocalTrack_afterCamera, mLocalTrack_setTrackEnabled_of_ne _ _ (by decide), htry]

-- `enableAudioImpl` and the video track.
private theorem enableAudioImpl_other_track (o : ProduceOutcome) :
    (e.enableAudioImpl o).engine.mLocalTrack .video = e.mLocalTrack .video := by
  have htry := e.mLocalTrack_tryProduce .opened o (show Kind.video ≠ .audio by decide)
  rcases e.enableAudioImpl_end o with hend | hend
  · rw [hend, htry]
  · rw [hend, mLocalTrack_setTrackEnabled_of_ne _ _ (by decide), htry]

private theorem mLocalTrack_disableProducer (kind k : Kind) :
    (e.disableProducer kind).mLocalTrack k = e.mLocalTrack k := by
  unfold disableProducer
  split
  · rfl
  · next p _ =>
    obtain ⟨_, _, hwrites⟩ := e.closeProducer_writes p
    simp only [closeUserProducer_eq, hwrites]
    cases kind <;> cases k <;> rfl

private theorem mLocalTrack_enableDataProducer (label : Label) (o : ProduceOutcome) (k : Kind) :
    (e.enableDataProducer label o).engine.mLocalTrack k = e.mLocalTrack k := by
  have hstep := e.enableDataProducer_dataStep label o
  generalize (e.enableDataProducer label o).engine = x at hstep
  cases hstep with
  | skipped => rfl
  | refused transportId => cases k <;> rfl
  | filed t id _ _ _ => cases label <;> cases k <;> rfl

/-- A task never touches the track that a producer is sending. -/
theorem mLocalTrack_runMediaTask {k : Kind} {tr : LocalTrack} (env : Environment)
    (task : MediaTask) (hp : (e.mProducer k).isSome) (ht : e.mLocalTrack k = some tr) :
    (e.runMediaTask env task).engine.mLocalTrack k = some tr := by
  cases task with
  | setupLocalVideo =>
    change (e.setupLocalVideo env.camera).engine.mLocalTrack k = some tr
    unfold setupLocalVideo
    cases hx : e.ensureTrack .video env.camera with
    | error ex => exact ht
    | ok x =>
      by_cases hk : k = .video
      · rw [hk] at ht ⊢
        have : e.ensureTrack .video env.camera = .ok e := by simp [ensureTrack, ht]
        rw [this] at hx
        rw [← Except.ok.inj hx, ht]
      · rw [e.eq_withTrack_of_ensureTrack hx]
        exact (e.mLocalTrack_withTrack_of_ne hk).trans ht
  | enable kind =>
    cases kind with
    | video =>
      cases k with
      | audio => exact (e.enableCameraImpl_other_track _ _ _).trans ht
      | video =>
        have hret := (e.setCamInProgress true).tryProduce_of_isSome .video env.camera env.produce hp
        simp only [runMediaTask, enableCameraImpl, hret]
        exact ht
    | audio =>
      cases k with
      | video => exact (e.enableAudioImpl_other_track _).trans ht
      | audio =>
        have hret := e.tryProduce_of_isSome .audio .opened env.produce hp
        simp only [runMediaTask, enableAudioImpl, hret]
        exact ht
  | disable kind => cases kind <;> exact (e.mLocalTrack_disableProducer _ k).trans ht
  | enableData label => cases label <;> exact (e.mLocalTrack_enableDataProducer _ _ k).trans ht

/-- A new producer sends the existing track as it is, or a new enabled one. -/
theorem mLocalTrack_runMediaTask_opens {k : Kind} {env : Environment} (h : e.Opens k env) :
    (e.runMediaTask env (.enable k)).engine.mLocalTrack k =
      some ((e.mLocalTrack k).getD { enabled := true }) := by
  cases k with
  | audio =>
    obtain ⟨x, id, hx, -, -, htrack⟩ := e.tryProduce_opened h .opened (by simp)
    simp only [runMediaTask, enableAudioImpl, hx]
    exact htrack .audio
  | video =>
    obtain ⟨x, id, hx, -, -, htrack⟩ := (e.setCamInProgress true).tryProduce_opened
      ((e.opens_setCamInProgress true).mpr h) env.camera (fun _ ↦ rfl)
    simp only [runMediaTask, enableCameraImpl, hx, mLocalTrack_afterCamera]
    exact htrack .video

/-! ### When every producer sends an enabled track -/

/-- One task keeps the producers on enabled tracks exactly when it does not make one on a
disabled track. -/
theorem tracksEnabled_mediaStep_iff (a : Environment × MediaTask) (h : e.TracksEnabled) :
    (e.mediaStep a).TracksEnabled ↔ ¬ e.ResumesDisabledTrack a := by
  obtain ⟨env, task⟩ := a
  -- producers that were there before keep their enabled tracks
  have hkept : ∀ k, (e.mProducer k).isSome →
      ∃ tr, (e.mediaStep (env, task)).mLocalTrack k = some tr ∧ tr.enabled = true := by
    intro k hk
    obtain ⟨tr, ht, htr⟩ := h k hk
    exact ⟨tr, e.mLocalTrack_runMediaTask env task hk ht, htr⟩
  have hsame : (e.mediaStep (env, task)).mProducer = e.mProducer →
      (e.mediaStep (env, task)).TracksEnabled := by
    intro hp k hk
    rw [hp] at hk
    exact hkept k hk
  cases e.runMediaTask_step env task with
  | still hs henable hdisable =>
    have hno : ¬ e.ResumesDisabledTrack (env, task) := by
      rintro ⟨k, tr, htask, hopens, -⟩
      exact henable k htask hopens
    exact iff_of_true (hsame (congrArg Slots.slot hs.producers)) hno
  | openedData l id htask hnone hsome hid hs =>
    have hno : ¬ e.ResumesDisabledTrack (env, task) := by
      rintro ⟨k, tr, htask', -⟩
      rw [htask] at htask'
      cases htask'
    exact iff_of_true (hsame (congrArg Slots.slot hs.producers)) hno
  | closed k p htask hp hs =>
    have hno : ¬ e.ResumesDisabledTrack (env, task) := by
      rintro ⟨k, tr, htask', -⟩
      rw [htask] at htask'
      cases htask'
    have hslot : (e.mediaStep (env, task)).mProducer = Function.update e.mProducer k none :=
      (congrArg Slots.slot hs.producers).trans (Slots.release_slot _ k)
    refine iff_of_true ?_ hno
    intro k' hk'
    rw [hslot] at hk'
    by_cases hkk : k' = k
    · rw [hkk, Function.update_self] at hk'
      cases hk'
    · rw [Function.update_of_ne hkk] at hk'
      exact hkept k' hk'
  | opened k id htask hopens hid hs =>
    have hslot : (e.mediaStep (env, task)).mProducer =
        Function.update e.mProducer k (some ⟨e.nextRef, id, k⟩) := congrArg Slots.slot hs.producers
    have htrack := e.mLocalTrack_runMediaTask_opens hopens
    rw [← htask] at htrack
    constructor
    · rintro hen ⟨k', tr, htask', -, ht, hdis⟩
      have hk : k = k' := MediaTask.enable.inj (htask.symm.trans htask')
      rw [← hk] at ht
      obtain ⟨tr', ht', hen⟩ := hen k (by rw [hslot, Function.update_self]; rfl)
      have heq : some tr' = some tr := by
        rw [← ht', mediaStep, htrack, ht, Option.getD_some]
      rw [Option.some.inj heq, hdis] at hen
      cases hen
    · intro hno k' hk'
      by_cases hkk : k' = k
      · subst hkk
        refine ⟨_, htrack, ?_⟩
        cases ht : e.mLocalTrack k' with
        | none => rfl
        | some tr =>
          by_contra hdis
          exact hno ⟨k', tr, htask, hopens, ht, by simpa using hdis⟩
      · rw [hslot, Function.update_of_ne hkk] at hk'
        exact hkept k' hk'

/-- Along every run of media tasks, a producer sends an enabled track in every state exactly
when no task makes a producer on a track that is disabled at that moment. -/
theorem tracksEnabled_always_iff (h : e.TracksEnabled) (as : List (Environment × MediaTask)) :
    Always mediaStep TracksEnabled e as ↔
      Guarded mediaStep (fun e a ↦ ¬ e.ResumesDisabledTrack a) e as :=
  always_iff_guarded (fun _ ↦ True) trivial h (fun _ _ _ _ ↦ trivial)
    fun e a _ _ h ↦ e.tracksEnabled_mediaStep_iff a h

end RtcEngineEx

/-- A camera enabled once, without an earlier failure, sends an enabled track. -/
theorem tracksEnabled_always_first_attempt :
    joinedEngine.TracksEnabled ∧
      Always RtcEngineEx.mediaStep RtcEngineEx.TracksEnabled joinedEngine
        [answering "p" (.enable .video)] := by
  have hfresh : joinedEngine.TracksEnabled := by
    intro k hk
    cases k <;> cases hk
  refine ⟨hfresh, (RtcEngineEx.tracksEnabled_always_iff _ hfresh _).mpr ?_⟩
  rw [guarded_cons]
  refine ⟨?_, guarded_nil⟩
  rintro ⟨k, tr, -, -, ht, -⟩
  cases k <;> cases ht

/-- A camera whose first produce throws and whose second succeeds sends a disabled track. -/
theorem tracksEnabled_fails_after_failed_attempt :
    ¬ (run RtcEngineEx.mediaStep joinedEngine
      [throwing (.enable .video), answering "p" (.enable .video)]).TracksEnabled := by
  intro h
  obtain ⟨tr, ht, hen⟩ := h .video (by decide)
  have htr : (run RtcEngineEx.mediaStep joinedEngine
      [throwing (.enable .video), answering "p" (.enable .video)]).mLocalTrack .video =
        some { enabled := false } := by decide
  rw [htr] at ht
  rw [← Option.some.inj ht] at hen
  cases hen

end RtcClient.Engine
