import RtcClient.Engine.VideoCallbacks
import Mathlib.Data.Finset.Sort
import Mathlib.Data.String.Basic

/-!
# Attaching a view to a remote user

`nativeSetupRemoteVideo` (`RtcEngineEx.java:1144–1158`) walks over the ids listed under a user
and looks each of them up in `mConsumers`; every video consumer it finds there for this user
initialises the view and gets it as a sink. The two tables are kept by different handlers, and a
view can be initialised only once. The ids are a `HashSet`, whose order is an argument here, as
is the state of the view. Whatever the call has done before it throws stays done.
-/

namespace RtcClient.Engine

open RtcClient.Native RtcClient.Store RtcClient.Lib

/-- An order in which a set may be walked over. -/
structure IterationOrder where
  toList : Finset String → List String
  nodup : ∀ s, (toList s).Nodup
  mem : ∀ s x, x ∈ toList s ↔ x ∈ s

/-- The view of a caller; `initialized` is a set `renderThreadHandler`
(`EglRenderer.java:208–213`). -/
structure SurfaceViewRenderer where
  initialized : Bool := false
  deriving DecidableEq, Repr

/-- The view, which may be null, with the calls of `init` on it and the consumers to whose tracks
it was added. -/
structure Attachment where
  viewRenderer : Option SurfaceViewRenderer
  inits : Nat := 0
  sinks : List Consumer := []
  deriving DecidableEq, Repr

/-- `init` wants the main thread and a view it has not seen; `SurfaceViewRenderer.java:80–88`,
`EglRenderer.java:208–213`. -/
def initView (mainThread : Bool) : EStateM Throwable Attachment Unit := do
  match (← get).viewRenderer with
  | none => throw .nullPointer
  | some viewRenderer =>
    modify fun a ↦ { a with inits := a.inits + 1 }
    if mainThread = false then throw .illegalState
    if viewRenderer.initialized then throw .illegalState
    modify fun a ↦ { a with viewRenderer := some { initialized := true } }

/-- `RtcEngineEx.java:1151–1152`, `VideoTrack.java:31–42`. -/
def attachVideo (mainThread : Bool) (c : Consumer) : EStateM Throwable Attachment Unit := do
  initView mainThread
  modify fun a ↦ { a with sinks := a.sinks ++ [c] }

namespace RtcEngineEx

/-- One id of the loop; `RtcEngineEx.java:1146–1154`. -/
def attachConsumer (e : RtcEngineEx) (mainThread : Bool) (uid s : String) :
    EStateM Throwable Attachment Unit := do
  match e.mConsumers[s]? with
  | none => pure ()
  | some consumerHolder =>
    if consumerHolder.peerId = uid then
      if consumerHolder.mConsumer.kind = .video then
        attachVideo mainThread consumerHolder.mConsumer

/-- A user who is not in the room has no `Peer`; `RtcEngineEx.java:1144–1158`. -/
def nativeSetupRemoteVideo (e : RtcEngineEx) (it : IterationOrder) (mainThread : Bool)
    (uid : String) : EStateM Throwable Attachment Int := do
  match e.mStore.peers.getPeer uid with
  | none => throw .nullPointer
  | some peer =>
    forM (it.toList peer.mConsumers) (e.attachConsumer mainThread uid)
    return 0

/-- The video consumer held for `uid` under this id. -/
def videoOf (e : RtcEngineEx) (uid s : String) : Option Consumer :=
  e.mConsumers[s]?.bind fun h ↦
    if h.peerId = uid ∧ h.mConsumer.kind = .video then some h.mConsumer else none

/-- The call returns 0 with at most one `init`, and the view is a sink of exactly the tracks
of the held video consumers of `uid`. -/
def AttachesExactly (e : RtcEngineEx) (uid : String)
    (r : EStateM.Result Throwable Attachment Int) : Prop :=
  ∃ a, r = .ok 0 a ∧ a.inits ≤ 1 ∧
    ∀ c, c ∈ a.sinks ↔ ∃ (s : String) (h : ConsumerHolder), e.mConsumers[s]? = some h ∧
      h.peerId = uid ∧ h.mConsumer.kind = .video ∧ h.mConsumer = c

/-- The user is in the room with at most one video consumer, which is listed under the user;
for it there is a new view, on the main thread. -/
structure Attachable (e : RtcEngineEx) (mainThread : Bool) (uid : String)
    (viewRenderer : Option SurfaceViewRenderer) : Prop where
  inRoom : e.InRoom uid
  listed : ∀ s, e.liveVideo s = some uid → e.Lists uid s
  single : ∀ s s', e.liveVideo s = some uid → e.liveVideo s' = some uid → s = s'
  view : ∀ s, e.liveVideo s = some uid → mainThread = true ∧ viewRenderer = some { }

variable {e : RtcEngineEx} {mainThread : Bool} {uid : String}
  {viewRenderer : Option SurfaceViewRenderer}

/-! ### The loop -/

/-- Attaching returns when the view is new and the thread the main thread. -/
theorem run_attachVideo_eq_ok_iff (c : Consumer) (a a' : Attachment) :
    (attachVideo mainThread c).run a = .ok () a' ↔
      mainThread = true ∧ a.viewRenderer = some { } ∧
        ⟨some ⟨true⟩, a.inits + 1, a.sinks ++ [c]⟩ = a' := by
  obtain ⟨view, inits, sinks⟩ := a
  cases view with
  | none => simp [attachVideo, initView]
  | some view =>
    obtain ⟨initialized⟩ := view
    cases mainThread <;> cases initialized <;> simp [attachVideo, initView]

/-- The loop attaches the video consumers it finds, in its order. -/
theorem forM_attachConsumer (ss : List String) :
    forM ss (e.attachConsumer mainThread uid) =
      forM (ss.filterMap (e.videoOf uid)) (attachVideo mainThread) := by
  induction ss with
  | nil => rfl
  | cons s ss ih =>
    have hone : e.attachConsumer mainThread uid s =
        (e.videoOf uid s).elim (pure ()) (attachVideo mainThread) := by
      unfold attachConsumer videoOf
      cases e.mConsumers[s]? with
      | none => rfl
      | some h =>
        by_cases hp : h.peerId = uid <;> by_cases hk : h.mConsumer.kind = .video <;> simp [hp, hk]
    rw [List.forM_cons, hone, ih]
    cases hv : e.videoOf uid s with
    | none => simp [hv]
    | some c => simp [hv]

-- A loop returns when its first body does and the rest does after it.
private theorem run_forM_attachVideo_cons_eq_ok_iff (c : Consumer) (cs : List Consumer)
    (a a' : Attachment) :
    (forM (c :: cs) (attachVideo mainThread)).run a = .ok () a' ↔
      ∃ a₁, (attachVideo mainThread c).run a = .ok () a₁ ∧
        (forM cs (attachVideo mainThread)).run a₁ = .ok () a' := by
  rw [List.forM_cons, EStateM.run_bind]
  cases (attachVideo mainThread c).run a <;> simp

/-- The view is new for the first consumer only. -/
theorem run_forM_attachVideo_eq_ok_iff (cs : List Consumer) (a' : Attachment) :
    (forM cs (attachVideo mainThread)).run { viewRenderer := viewRenderer } = .ok () a' ↔
      (cs = [] ∧ { viewRenderer := viewRenderer } = a') ∨
        ∃ c, cs = [c] ∧ mainThread = true ∧ viewRenderer = some { } ∧
          ⟨some ⟨true⟩, 1, [c]⟩ = a' := by
  cases cs with
  | nil => simp
  | cons c cs =>
    have hrest (a₁ : Attachment) (h₁ : a₁.viewRenderer = some ⟨true⟩) :
        (forM cs (attachVideo mainThread)).run a₁ = .ok () a' ↔ cs = [] ∧ a₁ = a' := by
      cases cs with
      | nil => simp
      | cons c' cs =>
        rw [run_forM_attachVideo_cons_eq_ok_iff]
        simp [run_attachVideo_eq_ok_iff, h₁]
    simp only [run_forM_attachVideo_cons_eq_ok_iff, run_attachVideo_eq_ok_iff]
    constructor
    · rintro ⟨a₁, ⟨hmain, hview, rfl⟩, hrun⟩
      obtain ⟨rfl, rfl⟩ := (hrest _ rfl).mp hrun
      exact .inr ⟨c, rfl, hmain, hview, rfl⟩
    · rintro (⟨hnil, -⟩ | ⟨d, hd, hmain, hview, rfl⟩)
      · cases hnil
      · cases hd
        exact ⟨_, ⟨hmain, hview, rfl⟩, rfl⟩

/-! ### Exactness -/

private theorem videoOf_eq_some_iff {s : String} {c : Consumer} :
    e.videoOf uid s = some c ↔ ∃ h : ConsumerHolder, e.mConsumers[s]? = some h ∧
      h.peerId = uid ∧ h.mConsumer.kind = .video ∧ h.mConsumer = c := by
  simp [videoOf, Option.bind_eq_some_iff, and_assoc]

private theorem liveVideo_eq_some_iff {s : String} :
    e.liveVideo s = some uid ↔ ∃ c, e.videoOf uid s = some c := by
  simp only [videoOf_eq_some_iff, liveVideo, Option.bind_eq_some_iff]
  constructor
  · rintro ⟨h, hh, hlive⟩
    by_cases hk : h.mConsumer.kind = .video
    · simp only [hk, if_true, Option.some.injEq] at hlive
      exact ⟨h.mConsumer, h, hh, hlive, hk, rfl⟩
    · simp [hk] at hlive
  · rintro ⟨c, h, hh, hp, hk, -⟩
    exact ⟨h, hh, by simp [hk, hp]⟩

/-- A consumer is held for a user under one id only. -/
theorem HoldersFiled.videoOf_inj (hf : e.HoldersFiled) {s s' : String} {c : Consumer}
    (hs : e.videoOf uid s = some c) (hs' : e.videoOf uid s' = some c) : s = s' := by
  obtain ⟨h, hh, -, -, rfl⟩ := videoOf_eq_some_iff.mp hs
  obtain ⟨h', hh', -, -, heq⟩ := videoOf_eq_some_iff.mp hs'
  rw [← hf s h hh, ← heq]
  exact hf s' h' hh'

/-- The video consumers that the loop finds, in its order. -/
def foundVideos (e : RtcEngineEx) (it : IterationOrder) (uid : String) : List Consumer :=
  (it.toList (e.mStore.peers.consumersOf uid)).filterMap (e.videoOf uid)

private theorem mem_foundVideos {it : IterationOrder} {c : Consumer} :
    c ∈ e.foundVideos it uid ↔ ∃ s, e.Lists uid s ∧ e.videoOf uid s = some c := by
  simp [foundVideos, it.mem, Lists]

private theorem HoldersFiled.nodup_foundVideos (hf : e.HoldersFiled) (it : IterationOrder) :
    (e.foundVideos it uid).Nodup := by
  apply (it.nodup _).filterMap
  intro s s' c hs hs'
  exact hf.videoOf_inj hs hs'

/-- The call returns exactly for a user in the room, one video consumer at the most, and a view
that can be initialised for it. -/
theorem run_nativeSetupRemoteVideo_eq_ok_iff (it : IterationOrder) (a : Attachment) :
    (e.nativeSetupRemoteVideo it mainThread uid).run { viewRenderer := viewRenderer } = .ok 0 a ↔
      e.InRoom uid ∧ ((e.foundVideos it uid = [] ∧ { viewRenderer := viewRenderer } = a) ∨
        ∃ c, e.foundVideos it uid = [c] ∧ mainThread = true ∧ viewRenderer = some { } ∧
          ⟨some ⟨true⟩, 1, [c]⟩ = a) := by
  unfold nativeSetupRemoteVideo
  cases hp : e.mStore.peers.getPeer uid with
  | none =>
    have habsent : ¬ e.InRoom uid := by simp [InRoom, hp]
    refine iff_of_false ?_ fun h ↦ absurd h.1 habsent
    intro hrun
    cases hrun
  | some peer =>
    have hfound : e.foundVideos it uid = (it.toList peer.mConsumers).filterMap (e.videoOf uid) := by
      simp [foundVideos, Peers.consumersOf, hp]
    rw [← run_forM_attachVideo_eq_ok_iff, hfound, ← forM_attachConsumer]
    simp only [EStateM.run_bind]
    cases (forM (it.toList peer.mConsumers) (e.attachConsumer mainThread uid)).run
      { viewRenderer := viewRenderer } <;> simp [InRoom, hp]

-- The view ends up where it should exactly when the loop finds every video consumer of the
-- user, there is one at the most, and the view can be initialised for it.
private theorem attachesExactly_iff_foundVideos (it : IterationOrder) :
    e.AttachesExactly uid
        ((e.nativeSetupRemoteVideo it mainThread uid).run { viewRenderer := viewRenderer }) ↔
      e.InRoom uid ∧ (∀ c, c ∈ e.foundVideos it uid ↔ ∃ s, e.videoOf uid s = some c) ∧
        (e.foundVideos it uid).length ≤ 1 ∧
        (e.foundVideos it uid ≠ [] → mainThread = true ∧ viewRenderer = some { }) := by
  simp only [AttachesExactly, run_nativeSetupRemoteVideo_eq_ok_iff, ← videoOf_eq_some_iff]
  constructor
  · rintro ⟨a, ⟨hroom, ⟨hfound, rfl⟩ | ⟨c, hfound, hmain, hview, rfl⟩⟩, -, hsinks⟩
    · exact ⟨hroom, by simpa [hfound] using hsinks, by simp [hfound], by simp [hfound]⟩
    · exact ⟨hroom, by simpa [hfound] using hsinks, by simp [hfound], fun _ ↦ ⟨hmain, hview⟩⟩
  · rintro ⟨hroom, hmem, hlength, hview⟩
    cases hfound : e.foundVideos it uid with
    | nil =>
      refine ⟨_, ⟨hroom, .inl ⟨rfl, rfl⟩⟩, Nat.zero_le 1, ?_⟩
      simpa [hfound] using hmem
    | cons c cs =>
      have hcs : cs = [] := by simpa [hfound] using hlength
      obtain ⟨hmain, hview⟩ := hview (by simp [hfound])
      rw [hcs] at hfound
      refine ⟨_, ⟨hroom, .inr ⟨c, by rw [hcs], hmain, hview, rfl⟩⟩, Nat.le_refl 1, ?_⟩
      simpa [hfound] using hmem

/-- In a state that files its holders, this is a condition on the tables and the view alone. -/
theorem HoldersFiled.attachesExactly_iff (hf : e.HoldersFiled) (it : IterationOrder) :
    e.AttachesExactly uid
        ((e.nativeSetupRemoteVideo it mainThread uid).run { viewRenderer := viewRenderer }) ↔
      e.Attachable mainThread uid viewRenderer := by
  have hsingle : (e.foundVideos it uid).length ≤ 1 ↔
      ∀ c ∈ e.foundVideos it uid, ∀ c' ∈ e.foundVideos it uid, c = c' := by
    rw [← List.toFinset_card_of_nodup (hf.nodup_foundVideos it), Finset.card_le_one]
    simp only [List.mem_toFinset]
  rw [attachesExactly_iff_foundVideos, hsingle]
  constructor
  · rintro ⟨hroom, hmem, hsingle, hview⟩
    have hlive (s : String) (hs : e.liveVideo s = some uid) :
        ∃ c ∈ e.foundVideos it uid, e.videoOf uid s = some c := by
      obtain ⟨c, hc⟩ := liveVideo_eq_some_iff.mp hs
      exact ⟨c, (hmem c).mpr ⟨s, hc⟩, hc⟩
    refine ⟨hroom, ?_, ?_, ?_⟩
    · intro s hs
      obtain ⟨c, hfound, hc⟩ := hlive s hs
      obtain ⟨s', hlists, hc'⟩ := mem_foundVideos.mp hfound
      rw [hf.videoOf_inj hc hc']
      exact hlists
    · intro s s' hs hs'
      obtain ⟨c, hfound, hc⟩ := hlive s hs
      obtain ⟨c', hfound', hc'⟩ := hlive s' hs'
      rw [← hsingle c hfound c' hfound'] at hc'
      exact hf.videoOf_inj hc hc'
    · intro s hs
      obtain ⟨c, hfound, -⟩ := hlive s hs
      exact hview (List.ne_nil_of_mem hfound)
  · intro h
    have hmem (c : Consumer) : c ∈ e.foundVideos it uid ↔ ∃ s, e.videoOf uid s = some c := by
      rw [mem_foundVideos]
      constructor
      · rintro ⟨s, -, hs⟩
        exact ⟨s, hs⟩
      · rintro ⟨s, hs⟩
        exact ⟨s, h.listed s (liveVideo_eq_some_iff.mpr ⟨c, hs⟩), hs⟩
    refine ⟨h.inRoom, hmem, ?_, ?_⟩
    · intro c hc c' hc'
      obtain ⟨s, hs⟩ := (hmem c).mp hc
      obtain ⟨s', hs'⟩ := (hmem c').mp hc'
      have hsame : s = s' :=
        h.single s s' (liveVideo_eq_some_iff.mpr ⟨c, hs⟩) (liveVideo_eq_some_iff.mpr ⟨c', hs'⟩)
      rw [hsame, hs'] at hs
      exact (Option.some.inj hs).symm
    · intro hne
      obtain ⟨c, hc⟩ := List.exists_mem_of_ne_nil _ hne
      obtain ⟨s, hs⟩ := (hmem c).mp hc
      exact h.view s (liveVideo_eq_some_iff.mpr ⟨c, hs⟩)

/-- In every state that room events lead to from an engine without consumers, the view is
attached to exactly the video of the user if and only if the user is in the room with at most one
video consumer, this consumer is listed under the user, and the view is new and attached on the
main thread. -/
theorem setupRemoteVideo_exact_iff (hempty : e.mConsumers = ∅) (es : List RoomEvent)
    (it : IterationOrder) (mainThread : Bool) (uid : String)
    (viewRenderer : Option SurfaceViewRenderer) :
    let e' := run onRoomEvent e es
    e'.AttachesExactly uid
        ((e'.nativeSetupRemoteVideo it mainThread uid).run { viewRenderer := viewRenderer }) ↔
      e'.Attachable mainThread uid viewRenderer :=
  (run_holdersFiled hempty es).attachesExactly_iff it

end RtcEngineEx

/-- Ascending ids. -/
def IterationOrder.sorted : IterationOrder where
  toList s := s.sort
  nodup s := s.sort_nodup _
  mem _ _ := Finset.mem_sort _

/-- The only video of a user who joined before it was announced, and a new view. -/
theorem setupRemoteVideo_exact_joined_then_created :
    let e := run RtcEngineEx.onRoomEvent joinedEngine [joinUser "u", createVideo "c" "u"]
    e.Attachable true "u" (some { }) ∧
      e.AttachesExactly "u" ((e.nativeSetupRemoteVideo .sorted true "u").run
        { viewRenderer := some { } }) := by
  intro e
  have hlive (s : String) (hs : e.liveVideo s = some "u") : s = "c" := by
    have hheld : e.mConsumers =
        (∅ : Std.ExtTreeMap String ConsumerHolder).insert "c" ⟨"u", ⟨0, "c", "s-c", .video⟩⟩ := rfl
    rw [RtcEngineEx.liveVideo_insert _ _ s _ hheld] at hs
    split at hs
    · next hc => exact hc.symm
    · simp [RtcEngineEx.liveVideo] at hs
  have hattachable : e.Attachable true "u" (some { }) := by
    refine ⟨?_, ?_, ?_, ?_⟩
    · show (e.mStore.peers.getPeer "u").isSome = true
      decide
    · intro s hs
      rw [hlive s hs]
      show "c" ∈ e.mStore.peers.consumersOf "u"
      decide
    · intro s s' hs hs'
      rw [hlive s hs, hlive s' hs']
    · intro s hs
      exact ⟨rfl, rfl⟩
  refine ⟨hattachable, ?_⟩
  exact (RtcEngineEx.setupRemoteVideo_exact_iff rfl _ .sorted true "u" _).mpr hattachable

/-- A user who never joined is a null pointer. The second video of a user finds the view
initialised. A video announced before its user joined is not listed and gets no view. -/
theorem setupRemoteVideo_inexact :
    (joinedEngine.nativeSetupRemoteVideo .sorted true "u").run { viewRenderer := some { } } =
        .error .nullPointer { viewRenderer := some { } } ∧
      (let e := run RtcEngineEx.onRoomEvent joinedEngine
        [joinUser "u", createVideo "c" "u", createVideo "d" "u"]
      ¬ e.AttachesExactly "u" ((e.nativeSetupRemoteVideo .sorted true "u").run
        { viewRenderer := some { } })) ∧
      let e := run RtcEngineEx.onRoomEvent joinedEngine [createVideo "c" "u", joinUser "u"]
      (e.nativeSetupRemoteVideo .sorted true "u").run { viewRenderer := some { } } =
          .ok 0 { viewRenderer := some { } } ∧
        e.liveVideo "c" = some "u" := by
  refine ⟨rfl, ?_, ?_⟩
  · intro e h
    have hfiled : e.HoldersFiled := RtcEngineEx.run_holdersFiled rfl _
    have hsame := ((hfiled.attachesExactly_iff .sorted).mp h).single "c" "d" (by decide) (by decide)
    exact absurd hsame (by decide)
  · intro e
    refine ⟨?_, by decide⟩
    rw [RtcEngineEx.run_nativeSetupRemoteVideo_eq_ok_iff]
    refine ⟨?_, .inl ⟨?_, rfl⟩⟩
    · show (e.mStore.peers.getPeer "u").isSome = true
      decide
    · have hnone : e.mStore.peers.consumersOf "u" = ∅ := by decide
      simp [RtcEngineEx.foundVideos, hnone, IterationOrder.sorted]

end RtcClient.Engine
