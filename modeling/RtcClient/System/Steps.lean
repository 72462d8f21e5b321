import RtcClient.Engine.Links
import RtcClient.System.Machine

/-!
# What one step does to the engine

Every action either is a network or caller step that leaves the worker alone, a short worker
task, a step of `joinImpl`, or the destroy task. `ClientStep` says this once, with what each
of them does to the engine; invariants of the engine over runs follow from it.
-/

namespace RtcClient.System

open RtcClient.Native RtcClient.Store RtcClient.Engine RtcClient.Lib

/-- Engine changes made outside the worker. -/
inductive NetStep (e : RtcEngineEx) : RtcEngineEx → Prop
  | same : NetStep e e
  | calls (cs : List Call) (h : ∀ c ∈ cs, c.Silent) : NetStep e (e.emitAll cs)
  | close : NetStep e { e with mClosed := true }
  | setServerRoomId (r : Option String) : NetStep e { e with serverRoomId := r }
  | notify (n : Notification) (o : RecvTransport.ConsumeOutcome) :
      NetStep e (e.handleNotification n o).engine
  | joinReply (users : List PeerInfo) : NetStep e (e.onJoinReply users)

/-- Engine changes made by a worker task that is neither `joinImpl` nor the destroy task. -/
inductive TaskStep (e : RtcEngineEx) : RtcEngineEx → Prop
  | net {e' : RtcEngineEx} (h : NetStep e e') : TaskStep e e'
  | media (env : Environment) (task : MediaTask) : TaskStep e (e.mediaStep (env, task))

/-- A step that leaves the worker where it is. -/
structure OutsideStep (s s' : Client) : Prop where
  engine : NetStep s.engine s'.engine
  worker : s'.worker = s.worker
  joinSent : s'.joinSent = s.joinSent
  joinEnds : s'.joinEnds = s.joinEnds

/-- Everything one step can do to the engine, the worker and the joins. -/
inductive ClientStep (s s' : Client) : Prop
  | net (h : OutsideStep s s')
  | task (h : TaskStep s.engine s'.engine) (idle : s.worker = .idle)
      (worker : s'.worker = .idle ∨ s'.worker = .crashed)
      (joinSent : s'.joinSent = s.joinSent) (joinEnds : s'.joinEnds = s.joinEnds)
  | start (q : List Task) (engine : s'.engine = s.engine) (idle : s.worker = .idle)
      (queue : s.workQueue = .joinImpl :: q) (worker : s'.worker = .joining .start)
      (joinSent : s'.joinSent = s.joinSent) (joinEnds : s'.joinEnds = s.joinEnds)
  | join (env : JoinEnv) (pc : JoinPc) (worker : s.worker = .joining pc)
      (h : s' = s.joinStep env pc)
  | destroy (q : List Task) (idle : s.worker = .idle) (queue : s.workQueue = .destroy :: q)
      (engine : s'.engine = s.engine.destroyTask) (worker : s'.worker = .quit)
      (joinSent : s'.joinSent = s.joinSent) (joinEnds : s'.joinEnds = s.joinEnds)

/-- Nothing outside the worker touches the sending side. -/
theorem NetStep.sendSide {e e' : RtcEngineEx} (h : NetStep e e') :
    e'.producerSlots = e.producerSlots ∧ e'.dataSlots = e.dataSlots ∧ e.nextRef ≤ e'.nextRef := by
  cases h with
  | same => exact ⟨rfl, rfl, Nat.le_refl _⟩
  | calls cs hcs =>
    have hstill := Still.of_calls e hcs
    exact ⟨hstill.producers, hstill.data, Nat.le_refl _⟩
  | close => exact ⟨rfl, rfl, Nat.le_refl _⟩
  | setServerRoomId r => exact ⟨rfl, rfl, Nat.le_refl _⟩
  | notify n o =>
    have hframe := e.handleNotification_netFrame n o
    exact ⟨hframe.producers, hframe.data, hframe.nextRef⟩
  | joinReply users =>
    have hframe := e.onJoinReply_netFrame users
    exact ⟨hframe.producers, hframe.data, hframe.nextRef⟩

/-- A looper that has quit stays so. -/
theorem ClientStep.quit {s s' : Client} (h : ClientStep s s') (hq : s.worker = .quit) :
    s'.worker = .quit := by
  cases h with
  | net h => exact h.worker.trans hq
  | task _ hidle _ _ _ =>
    rw [hq] at hidle
    cases hidle
  | start _ _ hidle _ _ _ _ =>
    rw [hq] at hidle
    cases hidle
  | join _ _ hw _ =>
    rw [hq] at hw
    cases hw
  | destroy _ _ _ _ hw _ _ => exact hw

namespace Client

variable (s : Client)

/-- Posting a task does not touch the engine. -/
@[simp] theorem post_engine (t : Task) : (s.post t).engine = s.engine := by
  unfold post
  split <;> rfl

/-- It does not touch the worker. -/
@[simp] theorem post_worker (t : Task) : (s.post t).worker = s.worker := by
  unfold post
  split <;> rfl

/-- It sends no request to join. -/
@[simp] theorem post_joinSent (t : Task) : (s.post t).joinSent = s.joinSent := by
  unfold post
  split <;> rfl

/-- It ends no request to join. -/
@[simp] theorem post_joinEnds (t : Task) : (s.post t).joinEnds = s.joinEnds := by
  unfold post
  split <;> rfl

private theorem netStep_callback (e : RtcEngineEx) (c : Callback) : NetStep e (e.callback c) :=
  .calls [.callback c] (by simp [Call.silent_iff])

private theorem netStep_request (e : RtcEngineEx) {r : Request}
    (hr : ∀ id, r ≠ .closeUserProducer id) : NetStep e (e.request r) :=
  .calls [.request r] (by simpa using RtcEngineEx.silent_request hr)

/-- All that `joinChannel` and `leaveChannel` can do: throw before the request, send it and
count it, or report the lost connection. -/
inductive AskStep (s : Client) : Client → Prop
  | threw : AskStep s s
  | init (config : RtcEngineConfig) : AskStep s
      { s with engine := s.engine.request (.initClient config), initRequests := s.initRequests + 1 }
  | exit (userId roomId : Option String) : AskStep s
      { s with
        engine := s.engine.request (.exitRoom userId roomId)
        exitRequests := s.exitRequests + 1 }
  | lost : AskStep s (s.callback (.onError .connectionLost))

/-- `joinChannel` asks at most once. -/
theorem joinChannel_askStep (available : Bool) : AskStep s (s.joinChannel available) := by
  unfold joinChannel
  split
  · split
    · exact .threw
    · next hsend =>
      rw [RtcEngineEx.eq_request_of_send hsend]
      exact .init _
  · exact .lost

/-- `leaveChannel` asks at most once. -/
theorem leaveChannel_askStep (available : Bool) : AskStep s (s.leaveChannel available) := by
  unfold leaveChannel
  split
  · split
    · exact .threw
    · next hsend =>
      rw [RtcEngineEx.eq_request_of_send hsend]
      exact .exit _ _
  · exact .lost

private theorem AskStep.outsideStep {s s' : Client} (h : AskStep s s') : OutsideStep s s' := by
  cases h with
  | threw => exact .mk .same rfl rfl rfl
  | init | exit => exact .mk (netStep_request _ (by simp)) rfl rfl rfl
  | lost => exact .mk (netStep_callback _ _) rfl rfl rfl

private theorem destroy_step : OutsideStep s s.destroy := by
  unfold Client.destroy
  split
  · exact .mk .same rfl rfl rfl
  · refine .mk ?_ (by simp [withEngine]) (by simp [withEngine]) (by simp [withEngine])
    simp only [post_engine, withEngine]
    exact .close

private theorem initReply_step (r : InitReply) : OutsideStep s (s.initReply r) := by
  unfold initReply
  split
  · exact .mk .same rfl rfl rfl
  · cases r with
    | failed => exact .mk (netStep_callback _ _) rfl rfl rfl
    | code n serverRoomId =>
      simp only
      split
      · exact .mk .same rfl rfl rfl
      · by_cases h1 : n = 1
        · simp only [h1, if_true, true_or]
          refine .mk ?_ (by simp [Client.callback, withEngine])
            (by simp [Client.callback, withEngine])
            (by simp [Client.callback, withEngine])
          have htwo : ∀ (e : RtcEngineEx) c d,
              (e.callback c).callback d = e.emitAll [.callback c, .callback d] := by
            simp [RtcEngineEx.callback, RtcEngineEx.emit, RtcEngineEx.emitAll]
          simp only [Client.callback, withEngine, post_engine, htwo]
          exact .calls _ (by simp [Call.silent_iff])
        · simp only [h1, if_false, false_or]
          split
          · refine .mk ?_ (by simp [Client.callback, withEngine])
              (by simp [Client.callback, withEngine]) (by simp [Client.callback, withEngine])
            simp only [Client.callback, withEngine, post_engine]
            exact netStep_callback _ _
          · exact .mk .same rfl rfl rfl

private theorem initListener_step (stage : InitStage) : OutsideStep s (s.initListener stage) := by
  unfold initListener
  split
  · cases stage with
    | registerReceiver r => exact .mk .same rfl rfl rfl
    | setServerRoomId r => exact .mk (.setServerRoomId r) rfl rfl rfl
    | onOpen =>
      refine .mk ?_ (by simp) (by simp) (by simp)
      simp only [post_engine]
      exact .same
  · exact .mk .same rfl rfl rfl

private theorem exitReply_step (ok : Bool) : OutsideStep s (s.exitReply ok) := by
  unfold exitReply
  split
  · exact .mk .same rfl rfl rfl
  · cases ok with
    | false => exact .mk .same rfl rfl rfl
    | true => exact .mk (netStep_callback _ _) rfl rfl rfl

private theorem createRoomReply_step (ok : Bool) : OutsideStep s (s.createRoomReply ok) := by
  unfold createRoomReply
  split
  · exact .mk .same rfl rfl rfl
  · cases ok with
    | false => exact .mk .same rfl rfl rfl
    | true =>
      refine .mk ?_ (by simp) (by simp) (by simp)
      simp only [if_true, post_engine]
      exact .same

private theorem joinReply_step (users : Option (List PeerInfo)) :
    OutsideStep s (s.joinReply users) := by
  unfold joinReply
  split
  · exact .mk .same rfl rfl rfl
  · cases users with
    | none => exact .mk .same rfl rfl rfl
    | some us => exact .mk (.joinReply us) rfl rfl rfl

private theorem deliver_step (n : Notification) (o : RecvTransport.ConsumeOutcome) :
    OutsideStep s (s.deliver n o) := by
  unfold deliver
  split
  · simp only
    split
    · exact .mk (.notify n o) rfl rfl rfl
    · exact .mk .same rfl rfl rfl
  · exact .mk .same rfl rfl rfl

private theorem acknowledge_step : OutsideStep s s.acknowledge := by
  unfold acknowledge
  split
  · exact .mk .same rfl rfl rfl
  · exact .mk (.calls [.acknowledge _ _] (by simp [Call.silent_iff])) rfl rfl rfl

private theorem main_step : OutsideStep s s.main := by
  unfold main
  split
  · exact .mk .same rfl rfl rfl
  · refine .mk ?_ (by simp) (by simp) (by simp)
    simp only [post_engine]
    exact .same
  · refine .mk ?_ (by simp) (by simp) (by simp)
    simp only [post_engine]
    exact .same

private theorem finish_worker (r : Result) :
    (s.finish r).worker = .idle ∨ (s.finish r).worker = .crashed := by
  unfold finish
  cases r.thrown <;> simp

/-- The worker's steps. -/
theorem work_clientStep (env : WorkEnv) : ClientStep s (s.work env) := by
  unfold work
  cases hw : s.worker with
  | joining pc => exact .join env.join pc hw rfl
  | crashed => exact .net (.mk .same rfl rfl rfl)
  | quit => exact .net (.mk .same rfl rfl rfl)
  | idle =>
    cases hq : s.workQueue with
    | nil => exact .net (.mk .same rfl rfl rfl)
    | cons t q =>
      cases t with
      | joinImpl => exact .start q rfl hw hq rfl rfl rfl
      | throwRuntimeException => exact .task (.net .same) hw (.inr rfl) rfl rfl
      | createRoomMediasoup =>
        obtain ⟨cs, hcs, heq⟩ := s.engine.createRoomMediasoup_calls env.createRoom
        have hnet : NetStep s.engine (s.engine.createRoomMediasoup env.createRoom).engine := by
          rw [heq]
          exact .calls cs hcs
        exact .task (.net hnet) hw (finish_worker _ _) rfl rfl
      | media task => exact .task (.media env.media task) hw (finish_worker _ _) rfl rfl
      | destroy => exact .destroy q hw hq rfl rfl rfl rfl

private theorem post_step (t : Task) : OutsideStep s (s.post t) := by
  refine .mk ?_ (by simp) (by simp) (by simp)
  rw [post_engine]
  exact .same

/-- The other threads leave the worker where it is. -/
theorem step_outsideStep {a : Action} (ha : ∀ env, a ≠ .work env) : OutsideStep s (s.step a) := by
  cases a with
  | joinChannel available => exact (s.joinChannel_askStep available).outsideStep
  | leaveChannel available => exact (s.leaveChannel_askStep available).outsideStep
  | enableVideo => exact .mk .same rfl rfl rfl
  | disableVideo => exact s.post_step _
  | enableAudio => exact s.post_step _
  | disableAudio => exact s.post_step _
  | setupLocalVideo => exact .mk .same rfl rfl rfl
  | destroy => exact s.destroy_step
  | initReply r => exact s.initReply_step r
  | initListener stage => exact s.initListener_step stage
  | exitReply ok => exact s.exitReply_step ok
  | createRoomReply ok => exact s.createRoomReply_step ok
  | joinReply users => exact s.joinReply_step users
  | serverJoin =>
    simp only [step]
    split <;> exact .mk .same rfl rfl rfl
  | serverSend n =>
    simp only [step, serverSend]
    split <;> exact .mk .same rfl rfl rfl
  | deliver n o => exact s.deliver_step n o
  | acknowledge => exact s.acknowledge_step
  | main => exact s.main_step
  | work env => exact absurd rfl (ha env)

/-- Every action is one of these steps. -/
theorem step_clientStep (a : Action) : ClientStep s (s.step a) := by
  by_cases ha : ∃ env, a = .work env
  · obtain ⟨env, rfl⟩ := ha
    exact s.work_clientStep env
  · exact .net (s.step_outsideStep fun env he ↦ ha ⟨env, he⟩)

end Client

end RtcClient.System
