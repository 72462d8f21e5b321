import RtcClient.System.Disposal

/-!
# The fusion parameters of a room

`joinImpl` hands the server one body with `CREATE_ROOM`, and the task of that request's
listener another one with `CREATE_ROOM_MEDIASOUP` (`RtcEngineEx.java:298–334`). Both name
the type of the room by `getVideoType`, which calls every channel but 0 a fusion channel
(`RtcEngineEx.java:269–274`); the parameters of a fusion are added for channel 1 only, and
by the task to the body that has been handed over already. A run is any sequence of API
calls, replies and worker steps, so that the background may change between the two.
-/

namespace RtcClient.System

open RtcClient.Native RtcClient.Store RtcClient.Engine RtcClient.Lib

/-- The body has the keys of a fusion, the background being that of the configuration. -/
def CarriesFusion (config : RtcEngineConfig) (body : JSONObject) : Prop :=
  (body.lookup "frameWidth").isSome = true ∧ (body.lookup "frameHeight").isSome = true ∧
    body.lookup "backGroundUrl" = some (.ofOption config.backgroundUrl)

/-- The body is of a fusion room exactly when it has the keys of a fusion. -/
def FusionConsistent (config : RtcEngineConfig) (body : JSONObject) : Prop :=
  body.lookup "videoType" = some (.str "rtc_video_fusion_call") ↔ CarriesFusion config body

/-- A request that creates a room has a consistent body, and the body of `CREATE_ROOM` is
not changed any more. -/
def FusionOk (config : RtcEngineConfig) : Call → Prop
  | .request (.createRoom body) => FusionConsistent config body
  | .request (.createRoomMediasoup body) => FusionConsistent config body
  | .createRoomPut _ _ => False
  | _ => True

instance (config : RtcEngineConfig) (body : JSONObject) : Decidable (CarriesFusion config body) :=
  inferInstanceAs (Decidable (_ ∧ _ ∧ _))

instance (config : RtcEngineConfig) (body : JSONObject) :
    Decidable (FusionConsistent config body) :=
  inferInstanceAs (Decidable (_ ↔ _))

private theorem fusionOk_of_not_creates (config : RtcEngineConfig) {c : Call}
    (h : c.creates = false) :
    FusionOk config c := by
  cases c with
  | request r => cases r <;> trivial
  | createRoomPut key value => cases h
  | _ => trivial

section Bodies

variable (e : RtcEngineEx)

/-- `CREATE_ROOM` is consistent for the channels 0 and 1. -/
theorem createRoomBody_consistent_iff :
    FusionConsistent e.rtcEngineConfig e.createRoomBody ↔
      e.rtcEngineConfig.channelProfile = 0 ∨ e.rtcEngineConfig.channelProfile = 1 := by
  by_cases h0 : e.rtcEngineConfig.channelProfile = 0
  · simp [FusionConsistent, CarriesFusion, RtcEngineEx.createRoomBody, RtcEngineEx.roomBody,
      RtcEngineEx.getVideoType, List.lookup_cons, h0]
  · by_cases h1 : e.rtcEngineConfig.channelProfile = 1
    · simp [FusionConsistent, CarriesFusion, RtcEngineEx.createRoomBody, RtcEngineEx.roomBody,
        RtcEngineEx.getVideoType, List.lookup_cons, h1]
    · simp [FusionConsistent, CarriesFusion, RtcEngineEx.createRoomBody, RtcEngineEx.roomBody,
        RtcEngineEx.getVideoType, List.lookup_cons, h0, h1]

/-- `CREATE_ROOM_MEDIASOUP` is consistent for the channel 0. -/
theorem roomBody_consistent_iff :
    FusionConsistent e.rtcEngineConfig e.roomBody ↔ e.rtcEngineConfig.channelProfile = 0 := by
  by_cases h0 : e.rtcEngineConfig.channelProfile = 0 <;>
    simp [FusionConsistent, CarriesFusion, RtcEngineEx.roomBody, RtcEngineEx.getVideoType,
      List.lookup_cons, h0]

end Bodies

namespace Client

/-- The calls a step has added to the log. -/
def sent (s s' : Client) : List Call := s'.engine.calls.drop s.engine.calls.length

/-- What the step sends is consistent with the configuration it is sent under. -/
def SendsConsistently (s : Client) (a : ApiAction) : Prop :=
  ∀ c ∈ s.sent (s.apiStep a), FusionOk s.engine.rtcEngineConfig c

/-- The worker does not come to `CREATE_ROOM` on a channel other than 0 and 1, and does not
run the task of its listener on a channel other than 0. -/
def FusionHarmless (profile : Int) (s : Client) (a : ApiAction) : Prop :=
  ∀ env, a = .action (.work env) →
    (s.worker = .joining .createRoom → profile = 0 ∨ profile = 1) ∧
    (s.worker = .idle → s.workQueue.head? = some .createRoomMediasoup → profile = 0)

variable {s s' : Client}

private theorem sent_eq {cs : List Call} (h : s'.engine.calls = s.engine.calls ++ cs) :
    s.sent s' = cs := by
  rw [sent, h, List.drop_left]

-- What a step adds without creating a room is consistent.
private theorem fusionOk_of_adds
    (h : RtcEngineEx.Adds (fun c ↦ c.creates = false) s.engine s'.engine) :
    ∀ c ∈ s.sent s', FusionOk s.engine.rtcEngineConfig c := by
  obtain ⟨-, cs, hcs, hplain⟩ := h
  rw [sent_eq hcs]
  intro c hc
  exact fusionOk_of_not_creates _ (hplain c hc)

/-! ### One step -/

-- Everything but a step of the worker creates no room and leaves the channel alone.
private theorem apiStep_quiet (s : Client) {a : ApiAction} (ha : ∀ env, a ≠ .action (.work env)) :
    (∀ c ∈ s.sent (s.apiStep a), FusionOk s.engine.rtcEngineConfig c) ∧
      (s.apiStep a).engine.rtcEngineConfig.channelProfile =
        s.engine.rtcEngineConfig.channelProfile := by
  have hadds : RtcEngineEx.Adds Call.Plain s.engine (s.apiStep a).engine →
      (∀ c ∈ s.sent (s.apiStep a), FusionOk s.engine.rtcEngineConfig c) ∧
        (s.apiStep a).engine.rtcEngineConfig.channelProfile =
          s.engine.rtcEngineConfig.channelProfile := by
    intro h
    exact ⟨fusionOk_of_adds (h.imp fun c hc ↦ hc.2), by rw [h.config]⟩
  rcases s.apiStep_cases a with ⟨a, rfl⟩ | ⟨imageUrl, rfl⟩ | ⟨hplain, -⟩
  · apply hadds
    exact (s.step_quietStep fun env he ↦ ha env (congrArg _ he)).adds
  · -- The only step that writes the configuration; it makes no call.
    refine ⟨?_, rfl⟩
    have hnone : s.sent (s.apiStep (.backgroundReply imageUrl)) = [] :=
      sent_eq (List.append_nil _).symm
    rw [hnone]
    simp
  · exact hadds hplain

-- A statement of `joinImpl` is consistent unless it is `CREATE_ROOM` on another channel.
private theorem joinStep_fusionOk_iff (hp : s.PhaseInv) (env : JoinEnv) {pc : JoinPc}
    (hw : s.worker = .joining pc) :
    (∀ c ∈ s.sent (s.joinStep env pc), FusionOk s.engine.rtcEngineConfig c) ↔
      (pc = .createRoom → s.engine.rtcEngineConfig.channelProfile = 0 ∨
        s.engine.rtcEngineConfig.channelProfile = 1) := by
  by_cases hpc : pc = .createRoom
  · have hlink := (hp.phases (by simp [hw])).link
    have hcalls : (s.joinStep env pc).engine.calls =
        s.engine.calls ++ [.request (.createRoom s.engine.createRoomBody)] := by
      rw [joinStep_engine, hpc, RtcEngineEx.joinStep, hlink.sendThen_eq]
      rfl
    rw [sent_eq hcalls, List.forall_mem_singleton]
    exact (createRoomBody_consistent_iff s.engine).trans (imp_iff_right hpc).symm
  · refine iff_of_true ?_ (fun h ↦ absurd h hpc)
    apply fusionOk_of_adds
    rw [joinStep_engine]
    refine (s.engine.adds_joinStep env pc).imp ?_
    rintro c (rfl | ⟨r, hr, rfl⟩)
    · rfl
    · cases pc with
      | createRoom => exact absurd rfl hpc
      | start | requestSendTransport | requestRecvTransport | joinRoom | joinRoomMediasoup =>
        cases hr
        rfl
      | _ => cases hr

-- The task of the `CREATE_ROOM` listener is consistent on the channel 0.
private theorem createRoomMediasoup_fusionOk_iff (hc : s.engine.mStartupClient.isSome)
    (reply : Reply Unit) (hs : s'.engine = (s.engine.createRoomMediasoup reply).engine) :
    (∀ c ∈ s.sent s', FusionOk s.engine.rtcEngineConfig c) ↔
      s.engine.rtcEngineConfig.channelProfile = 0 := by
  have hcalls := s.engine.createRoomMediasoup_log hc reply
  rw [← hs] at hcalls
  rw [sent_eq hcalls, List.forall_mem_append, List.forall_mem_singleton]
  refine Iff.trans ?_ (roomBody_consistent_iff s.engine)
  refine and_iff_right_of_imp fun hbody ↦ ?_
  have h0 := (roomBody_consistent_iff s.engine).mp hbody
  simp [RtcEngineEx.createRoomPuts, h0]

-- A step of the worker is consistent exactly when it is harmless, and leaves the channel
-- alone.
private theorem work_fusionOk_iff (hp : s.PhaseInv) (env : WorkEnv) :
    ((∀ c ∈ s.sent (s.work env), FusionOk s.engine.rtcEngineConfig c) ↔
      (s.worker = .joining .createRoom → s.engine.rtcEngineConfig.channelProfile = 0 ∨
        s.engine.rtcEngineConfig.channelProfile = 1) ∧
      (s.worker = .idle → s.workQueue.head? = some .createRoomMediasoup →
        s.engine.rtcEngineConfig.channelProfile = 0)) ∧
    (s.work env).engine.rtcEngineConfig = s.engine.rtcEngineConfig := by
  have hsame : ∀ c ∈ s.sent s, FusionOk s.engine.rtcEngineConfig c := fusionOk_of_adds (.refl _)
  unfold work
  cases hw : s.worker with
  | joining pc =>
    refine ⟨?_, ?_⟩
    · simpa using s.joinStep_fusionOk_iff hp env.join hw
    · simp only [joinStep_engine]
      exact (s.engine.adds_joinStep env.join pc).config
  | crashed => exact ⟨iff_of_true hsame (by simp), rfl⟩
  | quit => exact ⟨iff_of_true hsame (by simp), rfl⟩
  | idle =>
    have hlink := (hp.phases (by simp [hw])).link
    cases hq : s.workQueue with
    | nil => exact ⟨iff_of_true hsame (by simp), rfl⟩
    | cons t q =>
      -- Any other task creates no room, and the condition is about this one only.
      have hother : t ≠ .createRoomMediasoup →
          (Worker.idle = .joining .createRoom → s.engine.rtcEngineConfig.channelProfile = 0 ∨
            s.engine.rtcEngineConfig.channelProfile = 1) ∧
          (Worker.idle = .idle → (t :: q).head? = some .createRoomMediasoup →
            s.engine.rtcEngineConfig.channelProfile = 0) := by
        intro ht
        constructor
        · intro h
          cases h
        · intro _ h
          exact absurd (Option.some_inj.mp h) ht
      cases t with
      | joinImpl => exact ⟨iff_of_true hsame (hother (by simp)), rfl⟩
      | throwRuntimeException => exact ⟨iff_of_true hsame (hother (by simp)), rfl⟩
      | createRoomMediasoup =>
        obtain ⟨cs, -, heq⟩ := s.engine.createRoomMediasoup_calls env.createRoom
        constructor
        · simpa using createRoomMediasoup_fusionOk_iff hlink.client env.createRoom rfl
        · show (s.engine.createRoomMediasoup env.createRoom).engine.rtcEngineConfig = _
          rw [heq]
          rfl
      | media task =>
        have h := s.engine.adds_runMediaTask env.media task
        exact ⟨iff_of_true (fusionOk_of_adds (h.imp fun c hc ↦ hc.2)) (hother (by simp)), h.config⟩
      | destroy =>
        have h := s.engine.adds_destroyTask
        exact ⟨iff_of_true (fusionOk_of_adds h) (hother (by simp)), h.config⟩

/-! ### Whole runs -/

-- Every step keeps the channel.
private theorem apiStep_channelProfile (hp : s.PhaseInv) (a : ApiAction) :
    (s.apiStep a).engine.rtcEngineConfig.channelProfile =
      s.engine.rtcEngineConfig.channelProfile := by
  by_cases ha : ∃ env, a = .action (.work env)
  · obtain ⟨env, rfl⟩ := ha
    exact congrArg RtcEngineConfig.channelProfile (work_fusionOk_iff hp env).2
  · exact (s.apiStep_quiet fun env he ↦ ha ⟨env, he⟩).2

-- One step sends consistently exactly when it is harmless.
private theorem sendsConsistently_iff (hp : s.PhaseInv) (a : ApiAction) :
    s.SendsConsistently a ↔ FusionHarmless s.engine.rtcEngineConfig.channelProfile s a := by
  by_cases ha : ∃ env, a = .action (.work env)
  · obtain ⟨env, rfl⟩ := ha
    refine (work_fusionOk_iff hp env).1.trans ⟨fun h _ _ ↦ h, fun h ↦ h env rfl⟩
  · have hne : ∀ env, a ≠ .action (.work env) := fun env he ↦ ha ⟨env, he⟩
    exact iff_of_true (s.apiStep_quiet hne).1 fun env he ↦ absurd he (hne env)

/-- In every run from a new client, on every channel: all requests that create a room are
consistent, and none is changed afterwards, exactly when the worker does not come to
`CREATE_ROOM` on a channel other than 0 and 1, nor to the task of its listener on a channel
other than 0. -/
theorem fusion_consistent_iff (config : RtcEngineConfig) (as : List ApiAction) :
    Guarded apiStep SendsConsistently (initial config) as ↔
      Guarded apiStep (FusionHarmless config.channelProfile) (initial config) as := by
  have hprofile : ∀ pre : List ApiAction,
      (run apiStep (initial config) pre).engine.rtcEngineConfig.channelProfile =
        config.channelProfile := by
    intro pre
    induction pre using List.reverseRecOn with
    | nil => rfl
    | append_singleton pre a ih =>
      rw [run_concat, apiStep_channelProfile (run_releaseInv config pre).phases, ih]
  refine forall_congr' fun pre ↦ forall_congr' fun a ↦ imp_congr_right fun _ ↦ ?_
  rw [sendsConsistently_iff (run_releaseInv config pre).phases, hprofile]

end Client

/-- On channel 1 a join sends `CREATE_ROOM_MEDIASOUP` for a fusion room without its parameters
and changes the body of `CREATE_ROOM` after it was sent. On channel 2 the body of
`CREATE_ROOM` lacks them as well. -/
theorem fusion_parameters_missing :
    ((run Client.apiStep (.initial { channelProfile := 1 })
        (joinOnce.map .action)).engine.calls.filter Call.creates).drop 1 =
      [.createRoomPut "frameWidth" (.int 1920), .createRoomPut "frameHeight" (.int 1080),
        .createRoomPut "backGroundUrl" .null,
        .request (.createRoomMediasoup [("roomId", .str "room"), ("userId", .null),
          ("videoType", .str "rtc_video_fusion_call")])] ∧
    ¬ Guarded Client.apiStep Client.SendsConsistently (.initial { channelProfile := 1 })
      (joinOnce.map .action) ∧
    (run Client.apiStep (.initial { channelProfile := 2 })
        ((openChannel ++ List.replicate 11 (Action.work (workGood "t"))).map
          .action)).engine.calls.filter Call.creates =
      [.request (.createRoom [("roomId", .str "room"), ("userId", .null),
        ("videoType", .str "rtc_video_fusion_call")])] ∧
    ¬ Guarded Client.apiStep Client.SendsConsistently (.initial { channelProfile := 2 })
      ((openChannel ++ List.replicate 11 (Action.work (workGood "t"))).map .action) := by
  refine ⟨by decide, ?_, by decide, ?_⟩
  · intro h
    have hlast := h (joinOnce.dropLast.map .action) (.action (.work (workGood "t"))) (by decide)
    exact hlast (.createRoomPut "frameWidth" (.int 1920)) (by decide)
  · intro h
    have hlast := h ((openChannel ++ List.replicate 10 (Action.work (workGood "t"))).map .action)
      (.action (.work (workGood "t"))) (by decide)
    have hbody : FusionConsistent { channelProfile := 2 } [("roomId", .str "room"),
        ("userId", .null), ("videoType", .str "rtc_video_fusion_call")] :=
      hlast (.request (.createRoom _)) (by decide)
    exact absurd hbody (by decide)

end RtcClient.System
