import RtcClient.Engine.ConsumerHistory
import RtcClient.Lib.Sessions

/-!
# Remote video as the application sees it

`onRemoteVideoStateChanged` is called with `true` by the handler that creates a consumer,
from the class of its track, and with `false` by the handler that closes it, from a field of
the message (`RtcEngineEx.java:999–1010,1047–1049`). For one consumer id the calls are on and
off signals of its user; who is on is the user of the held video consumer.
-/

namespace RtcClient.Engine

open RtcClient.Native RtcClient.Store RtcClient.Lib

/-- User and state of an `onRemoteVideoStateChanged` call for this track. -/
def Call.videoState (c : String) : Call → Option (String × Bool)
  | .callback (.onRemoteVideoStateChanged uid trackId state) =>
    if trackId = c then some (uid, state) else none
  | _ => none

namespace RtcEngineEx

/-- The `onRemoteVideoStateChanged` calls for this track, oldest first. -/
def videoCalls (e : RtcEngineEx) (c : String) : List (String × Bool) :=
  e.calls.filterMap (Call.videoState c)

/-- User for whom the event creates the video consumer `c`. -/
def videoCreated (e : RtcEngineEx) (c : String) : RoomEvent → Option String
  | .notify (.createUserConsumer msg) o =>
    if msg.id = c ∧ msg.kind = "video" ∧ (e.consumed msg o).isSome then some msg.userId else none
  | _ => none

/-- A consumer gets an id that is not held and a track of the kind its message names; a held
consumer is closed with the kind it has. -/
def ServerOrderly (e : RtcEngineEx) : RoomEvent → Prop
  | .notify (.createUserConsumer msg) o => ∀ c, e.consumed msg o = some c →
    msg.id ∉ e.mConsumers ∧ (c.kind = .video ↔ msg.kind = "video")
  | .notify (.userConsumerClosed c kind) _ => ∀ h : ConsumerHolder, e.mConsumers[c]? = some h →
    (kind = "video" ↔ h.mConsumer.kind = .video)
  | _ => True

/-- User of the video consumer held under this id. -/
def liveVideo (e : RtcEngineEx) (c : String) : Option String :=
  e.mConsumers[c]?.bind fun h ↦ if h.mConsumer.kind = .video then some h.peerId else none

/-- Holders are filed under the id of their consumer. -/
def HoldersFiled (e : RtcEngineEx) : Prop :=
  ∀ (c : String) (h : ConsumerHolder), e.mConsumers[c]? = some h → h.mConsumer.id = c

/-- What an event can do to the video consumer `c` and to the calls about it. -/
inductive VideoStep (c : String) (e e' : RtcEngineEx) (ev : RoomEvent) : Prop
  | same (live : e'.liveVideo c = e.liveVideo c) (calls : e'.videoCalls c = e.videoCalls c)
      (created : e.videoCreated c ev = none)
  | shown (u : String) (before : e.liveVideo c = none) (live : e'.liveVideo c = some u)
      (calls : e'.videoCalls c = e.videoCalls c ++ [(u, true)])
      (created : e.videoCreated c ev = some u)
  | hidden (u : String) (before : e.liveVideo c = some u) (live : e'.liveVideo c = none)
      (calls : e'.videoCalls c = e.videoCalls c ++ [(u, false)])
      (created : e.videoCreated c ev = none)

variable {e : RtcEngineEx}

private theorem videoCalls_callback (c uid trackId : String) (state : Bool) :
    (e.callback (.onRemoteVideoStateChanged uid trackId state)).videoCalls c =
      e.videoCalls c ++ if trackId = c then [(uid, state)] else [] := by
  unfold videoCalls callback emit
  rw [List.filterMap_append]
  by_cases hc : trackId = c <;> simp [Call.videoState, hc]

/-- The other callbacks are no calls about video. -/
theorem videoCalls_callback_other (c : String) {cb : Callback}
    (h : ∀ uid trackId state, cb ≠ .onRemoteVideoStateChanged uid trackId state) :
    (e.callback cb).videoCalls c = e.videoCalls c := by
  unfold videoCalls callback emit
  rw [List.filterMap_append]
  cases cb with
  | onRemoteVideoStateChanged uid trackId state => exact absurd rfl (h uid trackId state)
  | _ => simp [Call.videoState]

/-- A consumer that is filed is the live one of its id. -/
theorem liveVideo_insert (m : Std.ExtTreeMap String ConsumerHolder) (id c : String)
    (h : ConsumerHolder) (he : e.mConsumers = m.insert id h) :
    e.liveVideo c = if id = c then (if h.mConsumer.kind = .video then some h.peerId else none)
      else { e with mConsumers := m }.liveVideo c := by
  unfold liveVideo
  rw [he, Std.ExtTreeMap.getElem?_insert]
  by_cases hc : id = c <;> simp [hc]

private theorem liveVideo_erase (m : Std.ExtTreeMap String ConsumerHolder) (id c : String)
    (he : e.mConsumers = m.erase id) :
    e.liveVideo c = if id = c then none else { e with mConsumers := m }.liveVideo c := by
  unfold liveVideo
  rw [he, Std.ExtTreeMap.getElem?_erase]
  by_cases hc : id = c <;> simp [hc]

private theorem addConsumer_mConsumers (msg : ConsumerMsg) (x : Consumer) (t : RecvTransport) :
    (e.addConsumer msg x t).mConsumers = e.mConsumers.insert x.id ⟨msg.userId, x⟩ := by
  unfold addConsumer
  simp only
  split <;> rfl

private theorem videoCalls_addConsumer (c : String) (msg : ConsumerMsg) (x : Consumer)
    (t : RecvTransport) :
    (e.addConsumer msg x t).videoCalls c =
      e.videoCalls c ++ if x.kind = .video ∧ msg.id = c then [(msg.userId, true)] else [] := by
  unfold addConsumer
  by_cases hk : x.kind = .video
  · simp only [hk, if_true, true_and]
    exact videoCalls_callback c msg.userId msg.id true
  · simp only [hk, if_false, false_and, List.append_nil]
    rfl

/-- A creation shows its own video and touches no other. -/
theorem onNewConsumer_videoStep (c : String) (msg : ConsumerMsg) (o : RecvTransport.ConsumeOutcome)
    (hg : e.ServerOrderly (.notify (.createUserConsumer msg) o)) :
    VideoStep c e (e.onNewConsumer msg o).engine (.notify (.createUserConsumer msg) o) := by
  cases hx : e.consumed msg o with
  | none =>
    rw [e.onNewConsumer_of_none hx]
    exact .same rfl rfl (by simp [videoCreated, hx])
  | some x =>
    obtain ⟨hfresh, hkind⟩ := hg x hx
    obtain ⟨hxeq, t, -, hr⟩ := e.onNewConsumer_of_some hx
    have hid : x.id = msg.id := by rw [hxeq]
    have hm : (e.addConsumer msg x (t.addConsumer x)).mConsumers =
        e.mConsumers.insert msg.id ⟨msg.userId, x⟩ := by
      rw [addConsumer_mConsumers, hid]
    have hlive := liveVideo_insert _ _ c _ hm
    have hcalls := videoCalls_addConsumer (e := e) c msg x (t.addConsumer x)
    have hcreated : e.videoCreated c (.notify (.createUserConsumer msg) o) =
        if msg.id = c ∧ msg.kind = "video" then some msg.userId else none := by
      simp [videoCreated, hx]
    rw [hr]
    by_cases hc : msg.id = c
    · -- the id was free, so nothing was shown under it
      have hbefore : e.liveVideo c = none := by
        rw [hc] at hfresh
        simp [liveVideo, Std.ExtTreeMap.getElem?_eq_none hfresh]
      by_cases hv : x.kind = .video
      · refine .shown msg.userId hbefore ?_ ?_ ?_
        · rw [hlive]
          simp [hc, hv]
        · rw [hcalls]
          simp [hc, hv]
        · rw [hcreated]
          simp [hc, hkind.mp hv]
      · have hk : msg.kind ≠ "video" := fun hk ↦ hv (hkind.mpr hk)
        refine .same ?_ ?_ ?_
        · rw [hlive, hbefore]
          simp [hc, hv]
        · rw [hcalls]
          simp [hv]
        · rw [hcreated]
          simp [hk]
    · refine .same ?_ ?_ ?_
      · rw [hlive, if_neg hc]
        rfl
      · rw [hcalls]
        simp [hc]
      · rw [hcreated]
        simp [hc]

private theorem onConsumerClosed_mConsumers (d kind : String) (h : ConsumerHolder)
    (hh : e.mConsumers[d]? = some h) :
    (e.onConsumerClosed d kind).mConsumers = e.mConsumers.erase d := by
  simp only [onConsumerClosed, hh]
  split <;> simp

private theorem videoCalls_onConsumerClosed (c d kind : String) (h : ConsumerHolder)
    (hh : e.mConsumers[d]? = some h) :
    (e.onConsumerClosed d kind).videoCalls c = e.videoCalls c ++
      if kind = "video" ∧ h.mConsumer.id = c then [(h.peerId, false)] else [] := by
  have hbase : ∀ e₁ : RtcEngineEx, e₁.calls = e.calls → e₁.videoCalls c = e.videoCalls c := by
    intro e₁ h₁
    unfold videoCalls
    rw [h₁]
  simp only [onConsumerClosed, hh]
  by_cases hk : kind = "video"
  · simp only [hk, if_true, true_and]
    rw [videoCalls_callback]
    congr 1
    exact hbase _ (closeConsumer_calls _ _)
  · simp only [hk, if_false, false_and, List.append_nil]
    exact hbase _ (closeConsumer_calls _ _)

/-- A close hides its own video and touches no other. -/
theorem onConsumerClosed_videoStep (hf : e.HoldersFiled) (c d kind : String)
    (o : RecvTransport.ConsumeOutcome)
    (hg : e.ServerOrderly (.notify (.userConsumerClosed d kind) o)) :
    VideoStep c e (e.onConsumerClosed d kind) (.notify (.userConsumerClosed d kind) o) := by
  cases hh : e.mConsumers[d]? with
  | none =>
    have hsame : e.onConsumerClosed d kind = e := by simp only [onConsumerClosed, hh]
    rw [hsame]
    exact .same rfl rfl rfl
  | some h =>
    have hkind := hg h hh
    have hid := hf d h hh
    have hlive := liveVideo_erase _ d c (onConsumerClosed_mConsumers d kind h hh)
    have hcalls := videoCalls_onConsumerClosed c d kind h hh
    rw [hid] at hcalls
    by_cases hc : d = c
    · rw [if_pos hc] at hlive
      by_cases hv : h.mConsumer.kind = .video
      · refine .hidden h.peerId ?_ hlive ?_ rfl
        · rw [← hc]
          simp [liveVideo, hh, hv]
        · rw [hcalls]
          simp [hc, hkind.mpr hv]
      · have hk : kind ≠ "video" := fun hk ↦ hv (hkind.mp hk)
        refine .same ?_ ?_ rfl
        · rw [hlive, ← hc]
          simp [liveVideo, hh, hv]
        · rw [hcalls]
          simp [hk]
    · refine .same ?_ ?_ rfl
      · rw [hlive, if_neg hc]
        rfl
      · rw [hcalls]
        simp [hc]

/-- Every room event is one of these steps for every consumer id. -/
theorem onRoomEvent_videoStep (hf : e.HoldersFiled) (c : String) (ev : RoomEvent)
    (hg : e.ServerOrderly ev) : VideoStep c e (e.onRoomEvent ev) ev := by
  cases ev with
  | joinReply users =>
    simp only [onRoomEvent, onJoinReply_eq]
    exact .same rfl rfl rfl
  | notify n o =>
    cases n with
    | createUserConsumer msg => exact onNewConsumer_videoStep c msg o hg
    | userConsumerClosed d kind => exact onConsumerClosed_videoStep hf c d kind o hg
    | createUserTextConsumer msg =>
      simp only [onRoomEvent, handleNotification]
      cases hd : e.consumedData msg o with
      | none =>
        rw [e.onNewDataConsumer_of_none hd]
        exact .same rfl rfl rfl
      | some d =>
        obtain ⟨-, t, -, hr⟩ := e.onNewDataConsumer_of_some hd
        rw [hr]
        exact .same rfl rfl rfl
    | roomJoined => exact .same rfl (videoCalls_callback_other c (by simp)) rfl
    | userJoined info => exact .same rfl (videoCalls_callback_other c (by simp)) rfl
    | userLeft userId id => exact .same rfl (videoCalls_callback_other c (by simp)) rfl
    | usersOnline users => exact .same rfl (videoCalls_callback_other c (by simp)) rfl
    | roomClosed => exact .same rfl (videoCalls_callback_other c (by simp)) rfl
    | consumerLayersChanged => exact .same rfl rfl rfl
    | consumerScore => exact .same rfl rfl rfl
    | producerScore => exact .same rfl rfl rfl

/-- Holders stay filed under the id of their consumer. -/
theorem HoldersFiled.onRoomEvent (hf : e.HoldersFiled) (ev : RoomEvent) :
    (e.onRoomEvent ev).HoldersFiled := by
  cases ev with
  | joinReply users =>
    simp only [RtcEngineEx.onRoomEvent, onJoinReply_eq]
    exact hf
  | notify n o =>
    cases n with
    | createUserConsumer msg =>
      simp only [RtcEngineEx.onRoomEvent, handleNotification]
      cases hx : e.consumed msg o with
      | none =>
        rw [e.onNewConsumer_of_none hx]
        exact hf
      | some x =>
        obtain ⟨-, t, -, hr⟩ := e.onNewConsumer_of_some hx
        intro c h hh
        rw [hr, addConsumer_mConsumers, Std.ExtTreeMap.getElem?_insert] at hh
        by_cases hc : x.id = c
        · simp only [hc, Std.compare_self, ↓reduceIte, Option.some.injEq] at hh
          rw [← hh]
          exact hc
        · exact hf c h (by simpa [hc] using hh)
    | userConsumerClosed d kind =>
      simp only [RtcEngineEx.onRoomEvent, handleNotification]
      cases hd : e.mConsumers[d]? with
      | none =>
        simp only [onConsumerClosed, hd]
        exact hf
      | some holder =>
        intro c h hh
        rw [onConsumerClosed_mConsumers d kind holder hd, Std.ExtTreeMap.getElem?_erase] at hh
        by_cases hc : d = c
        · simp [hc] at hh
        · exact hf c h (by simpa [hc] using hh)
    | createUserTextConsumer msg =>
      simp only [RtcEngineEx.onRoomEvent, handleNotification]
      cases hd : e.consumedData msg o with
      | none =>
        rw [e.onNewDataConsumer_of_none hd]
        exact hf
      | some d =>
        obtain ⟨-, t, -, hr⟩ := e.onNewDataConsumer_of_some hd
        rw [hr]
        exact hf
    | _ => exact hf

/-- Room events file holders under the ids of their consumers. -/
theorem run_holdersFiled (hempty : e.mConsumers = ∅) (es : List RoomEvent) :
    (run onRoomEvent e es).HoldersFiled := by
  apply run_invariant HoldersFiled
  · intro c h hc
    simp [hempty] at hc
  · intro e ev hf
    exact hf.onRoomEvent ev

/-- Users for whom the run created the video consumer `c`, in order. -/
def videoUsers (e : RtcEngineEx) (c : String) (es : List RoomEvent) : List String :=
  (trace onRoomEvent e es).filterMap fun x ↦ x.1.videoCreated c x.2

/-- The calls about one consumer id form sessions: one for each video consumer created under
that id, of the user it was created for, open while the consumer is held. -/
theorem videoCalls_sessions (hm : e.mConsumers = ∅) (c : String) (hn : e.videoCalls c = [])
    (es : List RoomEvent) (hg : Guarded onRoomEvent ServerOrderly e es) :
    Sessions ((run onRoomEvent e es).videoCalls c) ((run onRoomEvent e es).liveVideo c) ∧
      owners ((run onRoomEvent e es).videoCalls c) = e.videoUsers c es := by
  induction es using List.reverseRecOn with
  | nil =>
    have hlive : e.liveVideo c = none := by simp [liveVideo, hm]
    rw [run_nil, hn, hlive]
    exact ⟨.nil, rfl⟩
  | append_singleton es ev ih =>
    obtain ⟨hg, hlast⟩ := (guarded_concat es ev).mp hg
    obtain ⟨ihs, ihu⟩ := ih hg
    have husers : e.videoUsers c (es ++ [ev]) =
        e.videoUsers c es ++ ((run onRoomEvent e es).videoCreated c ev).toList := by
      unfold videoUsers
      rw [trace_concat, List.filterMap_append]
      cases h : (run onRoomEvent e es).videoCreated c ev <;> simp [h]
    rw [run_concat, husers]
    cases onRoomEvent_videoStep (run_holdersFiled hm es) c ev hlast with
    | same live calls created =>
      rw [live, calls, created]
      exact ⟨ihs, by simpa using ihu⟩
    | shown u before live calls created =>
      rw [before] at ihs
      rw [live, calls, created]
      exact ⟨ihs.on u, by simp [ihu]⟩
    | hidden u before live calls created =>
      rw [before] at ihs
      rw [live, calls, created]
      exact ⟨ihs.off, by simpa using ihu⟩

/-- For every consumer id the calls alternate, beginning with `true`; both calls of a pair are
for one user, and the users of the pairs are those the video consumers were created for;
between handlers the last call was `true` exactly when a video consumer is held. -/
theorem remoteVideo_balanced (hm : e.mConsumers = ∅) (hn : ∀ c, e.videoCalls c = [])
    (es : List RoomEvent) (hg : Guarded onRoomEvent ServerOrderly e es) (c : String) :
    let e' := run onRoomEvent e es
    (∀ (i : Nat) (u : String) (state : Bool), (e'.videoCalls c)[i]? = some (u, state) →
        state = decide (i % 2 = 0)) ∧
      (∀ (i : Nat) (u v : String) (s s' : Bool), (e'.videoCalls c)[2 * i]? = some (u, s) →
        (e'.videoCalls c)[2 * i + 1]? = some (v, s') → u = v) ∧
      ((e'.videoCalls c).filter Prod.snd).map Prod.fst = e.videoUsers c es ∧
      ((∃ u, (e'.videoCalls c).getLast? = some (u, true)) ↔
        ∃ h : ConsumerHolder, e'.mConsumers[c]? = some h ∧ h.mConsumer.kind = .video) := by
  intro e'
  obtain ⟨hs, hu⟩ := videoCalls_sessions hm c (hn c) es hg
  refine ⟨fun i u state hi ↦ hs.alternates hi, fun i u v s s' ha hb ↦ hs.same_owner ha hb, hu, ?_⟩
  have hlast : ∀ u, (e'.videoCalls c).getLast? = some (u, true) ↔ e'.liveVideo c = some u :=
    fun u ↦ hs.getLast?_eq u
  simp only [hlast]
  unfold liveVideo
  cases e'.mConsumers[c]? with
  | none => simp
  | some h => by_cases hk : h.mConsumer.kind = .video <;> simp [hk]

end RtcEngineEx

/-- A consumer id that is used again after its close, for another user. -/
theorem remoteVideo_balanced_reused_id :
    let es := [createVideo "c" "u", .notify (.userConsumerClosed "c" "video") .throws,
      createVideo "c" "v"]
    Guarded RtcEngineEx.onRoomEvent RtcEngineEx.ServerOrderly joinedEngine es ∧
      (((run RtcEngineEx.onRoomEvent joinedEngine es).videoCalls "c").filter Prod.snd).map
        Prod.fst =
        joinedEngine.videoUsers "c" es := by
  intro es
  have hg : Guarded RtcEngineEx.onRoomEvent RtcEngineEx.ServerOrderly joinedEngine es := by
    simp only [es, guarded_cons, guarded_nil, and_true]
    refine ⟨?_, ?_, ?_⟩
    · intro x hx
      cases hx
      decide
    · intro h hh
      have hkind : (fun h : ConsumerHolder ↦ h.mConsumer.kind) <$>
          (joinedEngine.onRoomEvent (createVideo "c" "u")).mConsumers["c"]? = some .video := by
        decide
      rw [hh] at hkind
      simpa using hkind
    · intro x hx
      cases hx
      decide
  exact ⟨hg, (RtcEngineEx.remoteVideo_balanced rfl (fun _ ↦ rfl) es hg "c").2.2.1⟩

end RtcClient.Engine
