import RtcClient.Engine.CallLog
import RtcClient.System.Phases

/-!
# What each step calls

Only the worker sends room requests and releases native objects: `joinImpl` and the task of
the `CREATE_ROOM` listener the former, the destroy task the latter. The other threads add
callbacks and requests of their own to the log, and tasks to the end of the worker's queue.
-/

namespace RtcClient.System

open RtcClient.Native RtcClient.Store RtcClient.Engine RtcClient.Lib

/-- What the other threads do to the log, to the worker's queue and to the room's set-up. -/
structure QueueStep (s s' : Client) : Prop where
  uneventful : RtcEngineEx.Uneventful s.engine s'.engine
  requests : s'.createRoomRequests ≤ s.createRoomRequests
  queue : .createRoomMediasoup ∈ s'.workQueue →
    .createRoomMediasoup ∈ s.workQueue ∨ 0 < s.createRoomRequests

/-- The same with everything the step adds to the log: none of it is about a room. -/
structure QuietStep (s s' : Client) : Prop where
  adds : RtcEngineEx.Adds Call.Plain s.engine s'.engine
  requests : s'.createRoomRequests ≤ s.createRoomRequests
  queue : .createRoomMediasoup ∈ s'.workQueue →
    .createRoomMediasoup ∈ s.workQueue ∨ 0 < s.createRoomRequests

private theorem QuietStep.queueStep {s s' : Client} (h : QuietStep s s') : QueueStep s s' :=
  ⟨h.adds.uneventful, h.requests, h.queue⟩

namespace Client

variable (s : Client)

private theorem mem_post {t t' : Task} (h : t' ∈ (s.post t).workQueue) :
    t' ∈ s.workQueue ∨ t' = t := by
  unfold post at h
  split at h
  · exact .inl h
  · rcases List.mem_append.mp h with h | h
    · exact .inl h
    · exact .inr (List.mem_singleton.mp h)

private theorem post_createRoomRequests (t : Task) :
    (s.post t).createRoomRequests = s.createRoomRequests := by
  unfold post
  split <;> rfl

end Client

namespace QuietStep

variable {s s' : Client}

/-- Neither the queue nor the room's set-up was touched. -/
theorem of_adds (h : RtcEngineEx.Adds Call.Plain s.engine s'.engine)
    (hr : s'.createRoomRequests = s.createRoomRequests) (hq : s'.workQueue = s.workQueue) :
    QuietStep s s' :=
  ⟨h, hr.le, fun h ↦ .inl (hq ▸ h)⟩

private theorem refl (s : Client) : QuietStep s s := of_adds (.refl _) rfl rfl

/-- A task was posted as well; that of the `CREATE_ROOM` listener needs its request. -/
theorem post (h : QuietStep s s') {t : Task}
    (ht : t = .createRoomMediasoup → 0 < s.createRoomRequests) : QuietStep s (s'.post t) where
  adds := by
    rw [Client.post_engine]
    exact h.adds
  requests := by
    rw [s'.post_createRoomRequests]
    exact h.requests
  queue hm := by
    rcases s'.mem_post hm with hm | hm
    · exact h.queue hm
    · exact .inr (ht hm.symm)

end QuietStep

namespace Client

variable (s : Client)

private theorem callback_quietStep (c : Callback) : QuietStep s (s.callback c) :=
  .of_adds (.of_callback c rfl) rfl rfl

private theorem AskStep.quietStep {s s' : Client} (h : AskStep s s') : QuietStep s s' := by
  cases h with
  | threw => exact .refl s
  | init | exit => exact .of_adds (.of_call ⟨⟨rfl, rfl⟩, rfl⟩ rfl) rfl rfl
  | lost => exact s.callback_quietStep _

private theorem initReply_quietStep (r : InitReply) : QuietStep s (s.initReply r) := by
  unfold initReply
  split
  · exact .refl s
  · cases r with
    | failed => exact .of_adds (.of_callback _ rfl) rfl rfl
    | code n serverRoomId =>
      simp only
      have htaken : QuietStep s { s with initRequests := s.initRequests - 1 } :=
        .of_adds (.refl _) rfl rfl
      have hcallback : ∀ {s' : Client} (c : Callback), QuietStep s s' →
          QuietStep s (s'.callback c) :=
        fun c h ↦ ⟨h.adds.trans (.of_callback c rfl), h.requests, h.queue⟩
      split
      · exact .of_adds (.refl _) rfl rfl
      · by_cases h1 : n = 1
        · simp only [h1, if_true, true_or]
          exact (hcallback _ ((hcallback _ htaken).post (by simp))).post (by simp)
        · simp only [h1, if_false, false_or]
          split
          · exact (hcallback _ htaken).post (by simp)
          · exact htaken

private theorem initListener_quietStep (stage : InitStage) :
    QuietStep s (s.initListener stage) := by
  unfold initListener
  split
  · cases stage with
    | registerReceiver r => exact .of_adds (.refl _) rfl rfl
    | setServerRoomId r => exact .of_adds (.of_eq rfl) rfl rfl
    | onOpen =>
      have htaken : QuietStep s { s with initListeners := s.initListeners.erase .onOpen } :=
        .of_adds (.refl _) rfl rfl
      exact htaken.post (by simp)
  · exact .refl s

private theorem createRoomReply_quietStep (ok : Bool) : QuietStep s (s.createRoomReply ok) := by
  unfold createRoomReply
  split
  · exact .refl s
  · next hn =>
    have htaken : QuietStep s { s with createRoomRequests := s.createRoomRequests - 1 } :=
      ⟨.refl _, Nat.sub_le _ _, .inl⟩
    cases ok with
    | false => exact htaken
    | true => exact htaken.post fun _ ↦ Nat.pos_of_ne_zero hn

private theorem joinReply_quietStep (users : Option (List PeerInfo)) :
    QuietStep s (s.joinReply users) := by
  unfold joinReply
  split
  · exact .refl s
  · cases users with
    | none => exact .of_adds (.refl _) rfl rfl
    | some us => exact .of_adds (s.engine.adds_onJoinReply us) rfl rfl

private theorem deliver_quietStep (n : Notification) (o : RecvTransport.ConsumeOutcome) :
    QuietStep s (s.deliver n o) := by
  unfold deliver
  split
  · simp only
    split
    · exact .of_adds (s.engine.adds_handleNotification n o) rfl rfl
    · exact .of_adds (.refl _) rfl rfl
  · exact .refl s

private theorem main_quietStep : QuietStep s s.main := by
  unfold main
  split
  · exact .refl s
  · next q _ =>
    have htaken : QuietStep s { s with mainQueue := q } := .of_adds (.refl _) rfl rfl
    exact htaken.post (by simp)
  · next q _ =>
    have htaken : QuietStep s { s with mainQueue := q } := .of_adds (.refl _) rfl rfl
    exact htaken.post (by simp)

/-- The other threads say nothing about a room and release nothing. -/
theorem step_quietStep {a : Action} (ha : ∀ env, a ≠ .work env) : QuietStep s (s.step a) := by
  cases a with
  | joinChannel available => exact (s.joinChannel_askStep available).quietStep
  | leaveChannel available => exact (s.leaveChannel_askStep available).quietStep
  | enableVideo => exact .of_adds (.refl _) rfl rfl
  | disableVideo => exact (QuietStep.refl s).post (by simp)
  | enableAudio => exact (QuietStep.refl s).post (by simp)
  | disableAudio => exact (QuietStep.refl s).post (by simp)
  | setupLocalVideo => exact .of_adds (.refl _) rfl rfl
  | destroy =>
    simp only [step, destroy]
    split
    · exact .refl s
    · have hclosed : QuietStep s (s.withEngine { s.engine with mClosed := true }) :=
        .of_adds (.of_eq rfl) rfl rfl
      exact hclosed.post (by simp)
  | initReply r => exact s.initReply_quietStep r
  | initListener stage => exact s.initListener_quietStep stage
  | exitReply ok =>
    simp only [step, exitReply]
    split
    · exact .refl s
    · cases ok with
      | false => exact .of_adds (.refl _) rfl rfl
      | true => exact .of_adds (.of_callback _ rfl) rfl rfl
  | createRoomReply ok => exact s.createRoomReply_quietStep ok
  | joinReply users => exact s.joinReply_quietStep users
  | serverJoin =>
    simp only [step]
    split <;> exact .of_adds (.refl _) rfl rfl
  | serverSend n =>
    simp only [step, serverSend]
    split <;> exact .of_adds (.refl _) rfl rfl
  | deliver n o => exact s.deliver_quietStep n o
  | acknowledge =>
    simp only [step, acknowledge]
    split
    · exact .refl s
    · exact .of_adds (.of_call ⟨⟨rfl, rfl⟩, rfl⟩ rfl) rfl rfl
  | main => exact s.main_quietStep
  | work env => exact absurd rfl (ha env)

/-- The other threads send no room request and release nothing. -/
theorem step_queueStep {a : Action} (ha : ∀ env, a ≠ .work env) : QueueStep s (s.step a) :=
  (s.step_quietStep ha).queueStep

end Client

end RtcClient.System
