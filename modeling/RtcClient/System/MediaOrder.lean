import RtcClient.Engine.MediaTasks
import RtcClient.Lib.Past
import RtcClient.Lib.Run
import RtcClient.System.Machine

/-!
# Which media call wins

`enableVideo` reaches the worker through the main looper, `disableVideo` goes there directly
(`RtcEngineEx.java:380–386`); both audio calls go there directly (`RtcEngineEx.java:460–466`).
So a `disableVideo` overtakes every `enableVideo` that the main looper has not passed on yet,
and that is the only way for an earlier call to win.
-/

namespace RtcClient.Engine

open RtcClient.Native RtcClient.Lib

/-- Joined and in use: whatever is enabled can be produced. -/
structure RtcEngineEx.Ready (e : RtcEngineEx) : Prop where
  live : e.mClosed = false
  client : e.mStartupClient.isSome
  canSend : ∀ k, e.CanSend k
  sendOpen : e.SendOpen

/-- The camera is there and the server answers the produce request with an id. -/
def Environment.Succeeds (env : Environment) : Prop :=
  env.camera = .opened ∧ ∃ id, env.produce = .asks (.id id)

/-- Whether a producer of kind `k` is set after the task, from whether it was before. -/
def MediaTask.effect (k : Kind) (b : Bool) : MediaTask → Bool
  | .enable kind => if kind = k then true else b
  | .disable kind => if kind = k then false else b
  | _ => b

namespace RtcEngineEx

variable {e e' : RtcEngineEx}

/-- A media task leaves a ready engine ready. -/
theorem Ready.of_frame (h : e.Ready) (hf : MediaFrame e e') : e'.Ready where
  live := hf.mClosed.trans h.live
  client := by rw [hf.mStartupClient]; exact h.client
  canSend k := by
    have hk := h.canSend k
    unfold CanSend at hk ⊢
    rw [hf.mDevice]
    exact hk
  sendOpen := by
    rw [sendOpen_iff_sendHeader, hf.sendHeader, ← sendOpen_iff_sendHeader]
    exact h.sendOpen

/-- On a ready engine an enable task with nothing produced yet makes a producer. -/
theorem Ready.opens (h : e.Ready) {env : Environment} (henv : env.Succeeds) {k : Kind}
    (hk : e.mProducer k = none) : e.Opens k env where
  noProducer := hk
  canSend := h.canSend k
  sendOpen := h.sendOpen
  camera _ _ := henv.1
  answered := by
    obtain ⟨id, hid⟩ := henv.2
    have hc : e.mStartupClient ≠ none := Option.isSome_iff_ne_none.mp h.client
    simp [producedId, hid, h.live, hc]

/-- A media task that succeeds has its effect on the producers. -/
theorem Ready.mProducer_mediaStep (h : e.Ready) {env : Environment} (henv : env.Succeeds)
    (task : MediaTask) (k : Kind) :
    ((e.mediaStep (env, task)).mProducer k).isSome = task.effect k (e.mProducer k).isSome := by
  cases e.runMediaTask_step env task with
  | still hs henable hdisable =>
    have hslot : (e.mediaStep (env, task)).mProducer = e.mProducer :=
      congrArg Slots.slot hs.producers
    rw [hslot]
    cases task with
    | setupLocalVideo => rfl
    | enableData l => rfl
    | enable kind =>
      have hset : e.mProducer kind ≠ none := fun hn ↦ henable kind rfl (h.opens henv hn)
      by_cases hk : kind = k
      · rw [← hk]
        simpa [MediaTask.effect, Option.isSome_iff_ne_none] using hset
      · simp [MediaTask.effect, hk]
    | disable kind =>
      have hnone := hdisable kind rfl
      by_cases hk : kind = k
      · rw [← hk, hnone]
        simp [MediaTask.effect]
      · simp [MediaTask.effect, hk]
  | opened kind id htask hopens hid hs =>
    have hslot : (e.mediaStep (env, task)).mProducer = _ := congrArg Slots.slot hs.producers
    rw [hslot, htask]
    by_cases hk : k = kind
    · simp [MediaTask.effect, hk, Slots.add, Handle.home]
    · simp [MediaTask.effect, Ne.symm hk, Slots.add, Handle.home, Function.update_of_ne hk,
        producerSlots]
  | closed kind p htask hp hs =>
    have hslot : (e.mediaStep (env, task)).mProducer = Function.update e.mProducer kind none :=
      (congrArg Slots.slot hs.producers).trans (Slots.release_slot _ kind)
    rw [hslot, htask]
    by_cases hk : k = kind
    · simp [MediaTask.effect, hk]
    · simp [MediaTask.effect, Ne.symm hk, Function.update_of_ne hk]
  | openedData l id htask hnone hsome hid hs =>
    have hslot : (e.mediaStep (env, task)).mProducer = e.mProducer :=
      congrArg Slots.slot hs.producers
    rw [hslot, htask]
    rfl

/-- An enable or disable task that succeeds throws nothing. -/
theorem Ready.thrown_enable (h : e.Ready) {env : Environment} (henv : env.Succeeds) (k : Kind) :
    (e.runMediaTask env (.enable k)).thrown = none := by
  cases hk : e.mProducer k with
  | some p =>
    have hsome : (e.mProducer k).isSome := by rw [hk]; rfl
    cases k with
    | audio => simp only [runMediaTask, enableAudioImpl, e.tryProduce_of_isSome .audio _ _ hsome]
    | video =>
      have hret :=
        (e.setCamInProgress true).tryProduce_of_isSome .video env.camera env.produce hsome
      simp only [runMediaTask, enableCameraImpl, hret]
  | none =>
    have hopens := h.opens henv hk
    cases k with
    | audio =>
      obtain ⟨x, id, hx, -⟩ := e.tryProduce_opened hopens .opened (by simp)
      simp only [runMediaTask, enableAudioImpl, hx]
    | video =>
      obtain ⟨x, id, hx, -, hopened, -⟩ := (e.setCamInProgress true).tryProduce_opened
        ((e.opens_setCamInProgress true).mpr hopens) env.camera (fun _ ↦ rfl)
      simp only [runMediaTask, enableCameraImpl, hx]
      have hready : (e.setCamInProgress true).Ready := ⟨h.live, h.client, h.canSend, h.sendOpen⟩
      exact x.thrown_afterCamera (hready.of_frame hopened.toMediaFrame).client env.available

end RtcEngineEx

end RtcClient.Engine

namespace RtcClient.System

open RtcClient.Native RtcClient.Engine RtcClient.Lib

/-- Calls, loopers and tasks of a run in which every produce succeeds. -/
def Action.IsMedia : Action → Prop
  | .enableVideo | .disableVideo | .enableAudio | .disableAudio | .main => True
  | .work env => env.media.Succeeds
  | _ => False

/-- Effect of a worker task on whether a producer of kind `k` is set. -/
def Task.effect (k : Kind) (b : Bool) : Task → Bool
  | .media task => task.effect k b
  | _ => b

/-- Whether an action is a call for this kind, and whether it enables. -/
def Action.call : Kind → Action → Option Bool
  | .video, .enableVideo => some true
  | .video, .disableVideo => some false
  | .audio, .enableAudio => some true
  | .audio, .disableAudio => some false
  | _, _ => none

/-- The last call for this kind was the enabling one. -/
def LastEnables (k : Kind) (as : List Action) : Prop :=
  Since (fun a ↦ a.call k = none) (fun a ↦ a.call k = some true) as

namespace Client

/-- The last call for the camera was a `disableVideo` made while the main looper still held
an `enableVideo`. -/
def LateDisable (s : Client) (as : List Action) : Prop :=
  Since (fun x : Client × Action ↦ x.2.call .video = none)
    (fun x ↦ x.2 = .disableVideo ∧ .enableCamera ∈ x.1.mainQueue) (trace step s as)

/-- A ready engine that has produced nothing, with both queues empty. -/
structure MediaStart (s : Client) : Prop where
  ready : s.engine.Ready
  noProducer : ∀ k, s.engine.mProducer k = none
  idle : s.worker = .idle
  mainEmpty : s.mainQueue = []
  workEmpty : s.workQueue = []

/-- Only media tasks are queued on a ready engine. -/
structure MediaOnly (s : Client) : Prop where
  ready : s.engine.Ready
  idle : s.worker = .idle
  mainQueue : ∀ t ∈ s.mainQueue, t = .enableCamera
  workQueue : ∀ t ∈ s.workQueue, ∃ k, t = .media (.enable k) ∨ t = .media (.disable k)

/-- Whether a producer of this kind is set once both queues have been worked off. -/
def settled (s : Client) (k : Kind) : Bool :=
  if k = .video ∧ .enableCamera ∈ s.mainQueue then true
  else s.workQueue.foldl (Task.effect k) (s.engine.mProducer k).isSome

variable {s : Client}

/-- A runnable posted to an idle worker is queued last. -/
theorem post_idle (h : s.worker = .idle) (t : Task) :
    s.post t = { s with workQueue := s.workQueue ++ [t] } := by
  simp [post, h]

private theorem MediaOnly.post (h : s.MediaOnly) {task : MediaTask}
    (ht : ∃ k, task = .enable k ∨ task = .disable k) : (s.post (.media task)).MediaOnly := by
  rw [post_idle h.idle]
  refine ⟨h.ready, h.idle, h.mainQueue, ?_⟩
  intro t hmem
  rcases List.mem_append.mp hmem with hmem | hmem
  · exact h.workQueue t hmem
  · rw [List.mem_singleton.mp hmem]
    obtain ⟨k, rfl | rfl⟩ := ht
    · exact ⟨k, .inl rfl⟩
    · exact ⟨k, .inr rfl⟩

private theorem settled_post (h : s.worker = .idle) (task : MediaTask) (k : Kind) :
    (s.post (.media task)).settled k =
      if k = .video ∧ .enableCamera ∈ s.mainQueue then true else task.effect k (s.settled k) := by
  rw [post_idle h]
  unfold settled
  split
  · rfl
  · rw [List.foldl_append]
    rfl

-- The worker's next task does now what it would have done later.
private theorem MediaOnly.work (h : s.MediaOnly) {env : WorkEnv} (henv : env.media.Succeeds) :
    (s.work env).MediaOnly ∧ ∀ k, (s.work env).settled k = s.settled k := by
  unfold Client.work
  rw [h.idle]
  cases hq : s.workQueue with
  | nil => exact ⟨h, fun _ ↦ rfl⟩
  | cons t q =>
    obtain ⟨kind, ht⟩ := h.workQueue t (by simp [hq])
    have htask :
        ∃ task, t = .media task ∧ (s.engine.runMediaTask env.media task).thrown = none := by
      rcases ht with rfl | rfl
      · exact ⟨_, rfl, h.ready.thrown_enable henv kind⟩
      · exact ⟨_, rfl, by cases kind <;> rfl⟩
    obtain ⟨task, rfl, hthrown⟩ := htask
    have hframe := (s.engine.runMediaTask_step env.media task).frame
    simp only [runTask, finish, hthrown, Option.isSome_none, Bool.false_eq_true, if_false]
    refine ⟨⟨h.ready.of_frame hframe, rfl, h.mainQueue, ?_⟩, ?_⟩
    · intro t' ht'
      exact h.workQueue t' (by rw [hq]; exact List.mem_cons_of_mem _ ht')
    · intro k
      unfold settled
      rw [hq, List.foldl_cons]
      have heffect := h.ready.mProducer_mediaStep henv task k
      split
      · rfl
      · exact congrArg (q.foldl (Task.effect k)) heffect

-- The main looper's next runnable only moves to the worker's queue.
private theorem MediaOnly.main (h : s.MediaOnly) :
    s.main.MediaOnly ∧ ∀ k, s.main.settled k = s.settled k := by
  unfold Client.main
  cases hq : s.mainQueue with
  | nil => exact ⟨h, fun _ ↦ rfl⟩
  | cons t q =>
    have ht := h.mainQueue t (by simp [hq])
    subst ht
    have hrest : MediaOnly { s with mainQueue := q } :=
      ⟨h.ready, h.idle, fun t' ht' ↦ h.mainQueue t' (by rw [hq]; exact List.mem_cons_of_mem _ ht'),
        h.workQueue⟩
    refine ⟨hrest.post ⟨.video, .inl rfl⟩, ?_⟩
    intro k
    change (Client.post { s with mainQueue := q } (.media (.enable .video))).settled k = s.settled k
    rw [settled_post hrest.idle]
    cases k with
    | audio => simp [settled, MediaTask.effect]
    | video => simp [settled, MediaTask.effect, hq]

/-- What each action does to the value the queues settle on. -/
theorem MediaOnly.step (h : s.MediaOnly) {a : Action} (ha : a.IsMedia) :
    (s.step a).MediaOnly ∧ ∀ k, (s.step a).settled k =
      match a.call k with
      | some true => true
      | some false => decide (k = .video ∧ .enableCamera ∈ s.mainQueue)
      | none => s.settled k := by
  cases a with
  | enableVideo =>
    refine ⟨⟨h.ready, h.idle, ?_, h.workQueue⟩, ?_⟩
    · intro t ht
      rcases List.mem_append.mp ht with ht | ht
      · exact h.mainQueue t ht
      · exact List.mem_singleton.mp ht
    · intro k
      cases k <;> simp [Client.step, settled, Action.call]
  | disableVideo =>
    refine ⟨h.post ⟨.video, .inr rfl⟩, ?_⟩
    intro k
    rw [Client.step, settled_post h.idle]
    cases k <;> simp [Action.call, MediaTask.effect]
  | enableAudio =>
    refine ⟨h.post ⟨.audio, .inl rfl⟩, ?_⟩
    intro k
    rw [Client.step, settled_post h.idle]
    cases k <;> simp [Action.call, MediaTask.effect, settled]
  | disableAudio =>
    refine ⟨h.post ⟨.audio, .inr rfl⟩, ?_⟩
    intro k
    rw [Client.step, settled_post h.idle]
    cases k <;> simp [Action.call, MediaTask.effect, settled]
  | main => exact ⟨h.main.1, fun k ↦ by cases k <;> exact h.main.2 _⟩
  | work env => exact ⟨(h.work ha).1, fun k ↦ by cases k <;> exact (h.work ha).2 _⟩
  | _ => exact ha.elim

/-- Along a run the queues settle on the last call for each kind, except for a camera
disabled too early. -/
theorem settled_run (hs : s.MediaStart) (as : List Action) (has : ∀ a ∈ as, a.IsMedia) :
    (run Client.step s as).MediaOnly ∧
      ((run Client.step s as).settled .audio = true ↔ LastEnables .audio as) ∧
      ((run Client.step s as).settled .video = true ↔
        LastEnables .video as ∨ s.LateDisable as) := by
  induction as using List.reverseRecOn with
  | nil =>
    refine ⟨⟨hs.ready, hs.idle, by simp [hs.mainEmpty], by simp [hs.workEmpty]⟩, ?_, ?_⟩
    · simp [settled, LastEnables, hs.workEmpty, hs.noProducer]
    · simp [settled, LastEnables, LateDisable, trace, hs.mainEmpty, hs.workEmpty, hs.noProducer]
  | append_singleton as a ih =>
    obtain ⟨honly, haudio, hvideo⟩ := ih fun b hb ↦ has b (by simp [hb])
    obtain ⟨honly', hsettled⟩ := honly.step (has a (by simp))
    rw [run_concat]
    refine ⟨honly', ?_, ?_⟩
    · rw [hsettled, LastEnables, since_concat, ← LastEnables, ← haudio]
      cases hc : a.call .audio with
      | none => simp
      | some b => cases b <;> simp
    · rw [hsettled, LastEnables, since_concat, ← LastEnables, LateDisable, trace_concat,
        since_concat, ← LateDisable]
      cases hc : a.call .video with
      | none =>
        have hne : a ≠ .disableVideo := by
          rintro rfl
          cases hc
        simp [hvideo, hne]
      | some b =>
        cases b with
        | true => simp
        | false =>
          have heq : a = .disableVideo := by
            cases a <;> simp_all [Action.call]
          simp [heq]

-- The last camera call cannot be both.
private theorem LateDisable.not_lastEnables {as : List Action} (h : s.LateDisable as) :
    ¬ LastEnables .video as := by
  induction as using List.reverseRecOn with
  | nil => exact absurd h not_since_nil
  | append_singleton as a ih =>
    rw [LateDisable, trace_concat, since_concat, ← LateDisable] at h
    rw [LastEnables, since_concat, ← LastEnables]
    rcases h with ⟨ha, -⟩ | ⟨hc, h⟩
    · simp only at ha
      simp [ha, Action.call]
    · simp only at hc
      simp [hc, ih h]

/-- Once both queues are empty, each producer is set exactly when the last call for its kind
enabled it, if and only if the last call for the camera was not a `disableVideo` that overtook
an `enableVideo` still waiting for the main looper. -/
theorem lastCall_wins_iff (hs : s.MediaStart) (as : List Action) (has : ∀ a ∈ as, a.IsMedia)
    (hmain : (run Client.step s as).mainQueue = [])
    (hwork : (run Client.step s as).workQueue = []) :
    (∀ k, ((run Client.step s as).engine.mProducer k).isSome ↔ LastEnables k as) ↔
      ¬ s.LateDisable as := by
  obtain ⟨-, haudio, hvideo⟩ := settled_run hs as has
  have hsettled : ∀ k, (run Client.step s as).settled k =
      ((run Client.step s as).engine.mProducer k).isSome := by
    intro k
    simp [settled, hmain, hwork]
  rw [hsettled] at haudio hvideo
  constructor
  · intro hwins hlate
    exact hlate.not_lastEnables ((hwins .video).mp (hvideo.mpr (.inr hlate)))
  · intro hlate k
    cases k with
    | audio => exact haudio
    | video =>
      rw [hvideo]
      simp [hlate]

end Client

/-- The worker's next step, with every request answered. -/
def workOk : Action := .work { media := { produce := .asks (.id "p") } }

/-- A client whose engine has joined. -/
def joinedClient : Client := { engine := joinedEngine }

private theorem joinedClient_mediaStart : joinedClient.MediaStart where
  ready := by
    refine ⟨rfl, rfl, ?_, ⟨_, rfl, rfl, rfl⟩⟩
    intro k
    cases k <;> exact ⟨rfl, rfl, rfl⟩
  noProducer k := by cases k <;> rfl
  idle := rfl
  mainEmpty := rfl
  workEmpty := rfl

/-- A camera enabled and then disabled, each call with idle loopers, ends up off. -/
theorem lastCall_wins_one_at_a_time :
    ((run Client.step joinedClient
      [.enableVideo, .main, workOk, .disableVideo, workOk]).engine.mProducer .video).isSome ↔
        LastEnables .video [.enableVideo, .main, workOk, .disableVideo, workOk] := by
  refine (Client.lastCall_wins_iff joinedClient_mediaStart _ ?_
    (by decide) (by decide)).mpr ?_ .video
  · simp [workOk, Action.IsMedia, Environment.Succeeds]
  · have hmain : .enableCamera ∉
        (run Client.step joinedClient [.enableVideo, .main, workOk]).mainQueue := by decide
    simp only [Client.LateDisable, trace, since_cons]
    simpa [workOk, Action.call] using hmain

/-- `disableVideo` called right after `enableVideo`, before the main looper runs: both queues
end up empty and the camera stays on. -/
theorem lastCall_loses_when_overtaken :
    (run Client.step joinedClient
      [.enableVideo, .disableVideo, workOk, .main, workOk]).mainQueue = [] ∧
    (run Client.step joinedClient
      [.enableVideo, .disableVideo, workOk, .main, workOk]).workQueue = [] ∧
    ¬ (((run Client.step joinedClient
      [.enableVideo, .disableVideo, workOk, .main, workOk]).engine.mProducer .video).isSome ↔
        LastEnables .video [.enableVideo, .disableVideo, workOk, .main, workOk]) := by
  refine ⟨by decide, by decide, ?_⟩
  intro h
  have hlast := h.mp (by decide)
  simp [LastEnables, since_cons, Action.call, workOk] at hlast

end RtcClient.System
