import RtcClient.Lib.Past
import RtcClient.System.CallSteps

/-!
# The order of the room requests

`joinImpl` sends `CREATE_ROOM`, `JOIN_ROOM` and `JOIN_ROOM_MEDIASOUP` itself and waits for the
reply of `JOIN_ROOM` on the worker (`RtcEngineEx.java:310,346–349,367`). `CREATE_ROOM_MEDIASOUP`
is sent by a task that the listener of the `CREATE_ROOM` reply posts to the same worker
(`RtcEngineEx.java:310–334`), so that it stays behind the `joinImpl` that asked for it.
-/

namespace RtcClient.System

open RtcClient.Native RtcClient.Store RtcClient.Engine RtcClient.Lib

section Steps

variable {e : RtcEngineEx}

private theorem goto_sendThen {r : Request} {pc pc' : JoinPc}
    (h : (e.sendThen r (.goto pc)).2 = .goto pc') : pc' = pc := by
  unfold RtcEngineEx.sendThen at h
  split at h <;> cases h
  rfl

private theorem goto_awaitThen {α : Type} {r : Reply α} {next : α → JoinPc} {pc' : JoinPc}
    (h : (e.awaitThen r next).2 = .goto pc') : ∃ a, pc' = next a := by
  cases r with
  | data a =>
    cases h
    exact ⟨a, rfl⟩
  | failed => cases h
  | noData => cases h

private theorem goto_withLoaded {next : RtcEngineEx × JoinNext} {pc' : JoinPc}
    (h : (e.withLoaded next).2 = .goto pc') : next.2 = .goto pc' := by
  unfold RtcEngineEx.withLoaded at h
  split at h
  · cases h
  · exact h

/-- The statement of `joinImpl` that sends a room request sends it, the others none. -/
theorem joinStep_roomRequests (env : JoinEnv) {pc : JoinPc} (h : LinkOk e.link)
    (hpc : PcOk e.link pc) :
    (e.joinStep env pc).1.roomRequests = e.roomRequests ++ RtcEngineEx.joinRequests pc := by
  have hsend : ∀ (r : Request) (next : JoinNext), (e.sendThen r next).1.roomRequests =
      e.roomRequests ++ (Call.request r).room.toList := by
    intro r next
    rw [h.sendThen_eq]
    unfold RtcEngineEx.roomRequests RtcEngineEx.request RtcEngineEx.emit
    cases hr : (Call.request r).room <;> simp [hr]
  have hawait : ∀ {α : Type} (r : Reply α) (next : α → JoinPc),
      (e.awaitThen r next).1.roomRequests = e.roomRequests ++ [] := by
    intro α r next
    rw [List.append_nil]
    cases r <;> rfl
  cases pc with
  | start =>
    simp only [RtcEngineEx.joinStep]
    split
    · exact hsend _ _
    · exact (RtcEngineEx.Uneventful.of_callback _ rfl).roomRequests.trans (List.append_nil _).symm
  | load | awaitJoinRoom =>
    simp only [RtcEngineEx.joinStep, RtcEngineEx.joinRequests, List.append_nil]
    split <;> rfl
  | newSendTransport id | newRecvTransport id =>
    simp only [RtcEngineEx.joinRequests, List.append_nil]
    cases id with
    | none => rfl
    | some id =>
      simp only [RtcEngineEx.joinStep, h.withLoaded_eq hpc.1]
      rfl
  | requestSendTransport | joinRoomMediasoup =>
    simp only [RtcEngineEx.joinStep, h.withLoaded_eq hpc.1]
    exact hsend _ _
  | awaitRouterRtp | awaitSendTransport | awaitRecvTransport => exact hawait _ _
  | requestRecvTransport | createRoom | joinRoom => exact hsend _ _

/-- `joinImpl` never unloads the device. -/
theorem joinStep_loaded (env : JoinEnv) (pc : JoinPc) (h : e.mDevice.loaded = true) :
    (e.joinStep env pc).1.mDevice.loaded = true := by
  have hchange := e.joinStep_joinChange env pc
  generalize (e.joinStep env pc).1 = e' at hchange
  cases hchange with
  | calls _ cs hcs => exact h
  | load caps d hd =>
    simp only [Device.load, h, if_true] at hd
    split at hd <;> cases hd
  | sendTransport id => exact h
  | recvTransport id => exact h

end Steps

namespace Client

/-! ### Requests along a run -/

/-- Nothing of `CREATE_ROOM_MEDIASOUP` is under way: no reply is awaited that would post its
task, the task is not queued, and it has not run. -/
structure NoRoomTask (s : Client) : Prop where
  requests : s.createRoomRequests = 0
  queue : .createRoomMediasoup ∉ s.workQueue
  sent : .createRoomMediasoup ∉ s.engine.roomRequests

/-- Room requests when `joinImpl` stands at a statement. -/
def RoomPcOk (s : Client) : JoinPc → Prop
  | .start | .awaitRouterRtp | .load _ => True
  | .joinRoom | .awaitJoinRoom | .joinRoomMediasoup =>
    .createRoom ∈ s.engine.roomRequests ∧ .createRoomMediasoup ∉ s.engine.roomRequests
  | _ => s.NoRoomTask

/-- Device, queue and room requests fit together until the destroy task has run. -/
structure RoomInv (s : Client) : Prop where
  phases : s.PhaseInv
  unloaded : s.worker ≠ .quit → s.engine.mDevice.loaded = false → s.NoRoomTask
  pc : ∀ pc, s.worker = .joining pc → s.RoomPcOk pc

/-- Every `JOIN_ROOM` sent has a `CREATE_ROOM` before it, and every `JOIN_ROOM_MEDIASOUP` a
`CREATE_ROOM_MEDIASOUP`. -/
structure CreatesFirst (s : Client) : Prop where
  room : Precedes .createRoom .joinRoom s.engine.roomRequests
  mediasoup : Precedes .createRoomMediasoup .joinRoomMediasoup s.engine.roomRequests

/-- The step does not take the last statement of a `joinImpl`. -/
def StopsBeforeMediasoup (s : Client) (a : Action) : Prop :=
  ∀ env, a = .work env → s.worker ≠ .joining .joinRoomMediasoup

variable {s s' : Client}

private theorem NoRoomTask.of_queueStep (h : s.NoRoomTask) (hs : QueueStep s s') :
    s'.NoRoomTask where
  requests := Nat.le_zero.mp (h.requests ▸ hs.requests)
  queue hm := by
    rcases hs.queue hm with hm | hm
    · exact h.queue hm
    · exact absurd h.requests (Nat.ne_of_gt hm)
  sent := by
    rw [hs.uneventful.roomRequests]
    exact h.sent

private theorem RoomPcOk.of_queueStep {pc : JoinPc} (h : s.RoomPcOk pc) (hs : QueueStep s s') :
    s'.RoomPcOk pc := by
  have hkept := hs.uneventful.roomRequests
  cases pc with
  | start => trivial
  | awaitRouterRtp => trivial
  | load caps => trivial
  | joinRoom => exact ⟨hkept ▸ h.1, hkept ▸ h.2⟩
  | awaitJoinRoom => exact ⟨hkept ▸ h.1, hkept ▸ h.2⟩
  | joinRoomMediasoup => exact ⟨hkept ▸ h.1, hkept ▸ h.2⟩
  | _ => exact NoRoomTask.of_queueStep h hs

/-! ### Steps of `joinImpl` -/

private theorem joinStep_workQueue (env : JoinEnv) (pc : JoinPc) :
    (s.joinStep env pc).workQueue =
      s.workQueue ++ (RtcEngineEx.joinPosts pc (s.engine.joinStep env pc).2).map Task.media := by
  simp only [joinStep]
  cases (s.engine.joinStep env pc).2 <;> rfl

private theorem joinStep_createRoomRequests (env : JoinEnv) {pc : JoinPc} (h : pc ≠ .createRoom) :
    (s.joinStep env pc).createRoomRequests = s.createRoomRequests := by
  simp only [joinStep]
  cases (s.engine.joinStep env pc).2 with
  | goto pc' => simp only [continueJoin, if_neg h]
  | _ => rfl

private theorem goto_of_worker {env : JoinEnv} {pc pc' : JoinPc}
    (h : (s.joinStep env pc).worker = .joining pc') : (s.engine.joinStep env pc).2 = .goto pc' := by
  simp only [joinStep] at h
  cases hr : (s.engine.joinStep env pc).2 with
  | goto pc'' =>
    rw [hr] at h
    cases h
    rfl
  | returned => rw [hr] at h; cases h
  | sent => rw [hr] at h; cases h
  | threw ex => rw [hr] at h; cases h

-- Only the statement that sends `CREATE_ROOM` gets its task under way.
private theorem NoRoomTask.joinStep (h : s.NoRoomTask) (env : JoinEnv) {pc : JoinPc}
    (hpc : pc ≠ .createRoom)
    (hreq : (s.joinStep env pc).engine.roomRequests =
      s.engine.roomRequests ++ RtcEngineEx.joinRequests pc) : (s.joinStep env pc).NoRoomTask where
  requests := (s.joinStep_createRoomRequests env hpc).trans h.requests
  queue hm := by
    rw [joinStep_workQueue] at hm
    rcases List.mem_append.mp hm with hm | hm
    · exact h.queue hm
    · obtain ⟨t, -, ht⟩ := List.mem_map.mp hm
      cases ht
  sent hm := by
    rw [hreq] at hm
    rcases List.mem_append.mp hm with hm | hm
    · exact h.sent hm
    · cases pc <;> simp [RtcEngineEx.joinRequests] at hm

private theorem RoomInv.joinStep_pc (h : s.RoomInv) (env : JoinEnv) {pc pc' : JoinPc}
    (hw : s.worker = .joining pc) (hgoto : (s.engine.joinStep env pc).2 = .goto pc')
    (hreq : (s.joinStep env pc).engine.roomRequests =
      s.engine.roomRequests ++ RtcEngineEx.joinRequests pc) : (s.joinStep env pc).RoomPcOk pc' := by
  have hok := h.pc pc hw
  have hkept : RtcEngineEx.joinRequests pc = [] →
      (s.joinStep env pc).engine.roomRequests = s.engine.roomRequests := by
    intro hnil
    rw [hreq, hnil, List.append_nil]
  cases pc with
  | start =>
    simp only [RtcEngineEx.joinStep] at hgoto
    split at hgoto
    · rw [goto_sendThen hgoto]
      trivial
    · cases hgoto
  | awaitRouterRtp =>
    obtain ⟨caps, hpc'⟩ := goto_awaitThen hgoto
    rw [hpc']
    trivial
  | load caps =>
    -- only a device that was not loaded goes on, and then no task of the room is under way
    have hunloaded : s.engine.mDevice.loaded = false ∧ pc' = .requestSendTransport := by
      simp only [RtcEngineEx.joinStep, Device.load] at hgoto
      cases hl : s.engine.mDevice.loaded with
      | true =>
        simp only [hl, if_true] at hgoto
        split at hgoto
        · cases hgoto
        · next hx => split at hx <;> cases hx
      | false =>
        split at hgoto
        · cases hgoto
        · cases hgoto
          exact ⟨rfl, rfl⟩
    rw [hunloaded.2]
    exact (h.unloaded (by simp [hw]) hunloaded.1).joinStep env (by simp) hreq
  | requestSendTransport =>
    rw [goto_sendThen (goto_withLoaded hgoto)]
    exact NoRoomTask.joinStep hok env (by simp) hreq
  | awaitSendTransport | awaitRecvTransport =>
    obtain ⟨id, hpc'⟩ := goto_awaitThen hgoto
    rw [hpc']
    exact NoRoomTask.joinStep hok env (by simp) hreq
  | newSendTransport id | newRecvTransport id =>
    cases id with
    | none => cases hgoto
    | some id =>
      cases goto_withLoaded hgoto
      exact NoRoomTask.joinStep hok env (by simp) hreq
  | requestRecvTransport =>
    rw [goto_sendThen hgoto]
    exact NoRoomTask.joinStep hok env (by simp) hreq
  | createRoom =>
    rw [goto_sendThen hgoto]
    have hnone : s.NoRoomTask := hok
    constructor
    · rw [hreq]
      simp [RtcEngineEx.joinRequests]
    · rw [hreq]
      simp [RtcEngineEx.joinRequests, hnone.sent]
  | joinRoom =>
    rw [goto_sendThen hgoto]
    constructor
    · rw [hreq]
      exact List.mem_append_left _ hok.1
    · rw [hreq]
      simp [RtcEngineEx.joinRequests, hok.2]
  | awaitJoinRoom =>
    simp only [RtcEngineEx.joinStep] at hgoto
    split at hgoto
    · cases hgoto
    · cases hgoto
      exact ⟨hkept rfl ▸ hok.1, hkept rfl ▸ hok.2⟩
  | joinRoomMediasoup =>
    have hnext := goto_withLoaded hgoto
    unfold RtcEngineEx.sendThen at hnext
    split at hnext <;> cases hnext

-- What a step of a running `joinImpl` sends.
private theorem RoomInv.joinStep_requests (h : s.RoomInv) (env : JoinEnv) {pc : JoinPc}
    (hw : s.worker = .joining pc) : (s.joinStep env pc).engine.roomRequests =
      s.engine.roomRequests ++ RtcEngineEx.joinRequests pc := by
  have hphases := h.phases.phases (by simp [hw])
  rw [joinStep_engine]
  exact joinStep_roomRequests env hphases.link (hphases.pc pc hw)

private theorem RoomInv.joinStep (h : s.RoomInv) (env : WorkEnv) {pc : JoinPc}
    (hw : s.worker = .joining pc) : (s.joinStep env.join pc).RoomInv where
  phases := h.phases.step (.join env.join pc hw rfl)
  unloaded _ hl := by
    have hbefore : s.engine.mDevice.loaded = false := by
      cases hb : s.engine.mDevice.loaded with
      | false => rfl
      | true =>
        rw [joinStep_engine, joinStep_loaded env.join pc hb] at hl
        cases hl
    have hphases := h.phases.phases (by simp [hw])
    refine (h.unloaded (by simp [hw]) hbefore).joinStep env.join ?_
      (h.joinStep_requests env.join hw)
    intro hpc
    have hready := hphases.pc pc hw
    rw [hpc] at hready
    have hloaded : s.engine.mDevice.loaded = true := hready.1
    rw [hbefore] at hloaded
    cases hloaded
  pc pc' hpc' := h.joinStep_pc env.join hw (goto_of_worker hpc') (h.joinStep_requests env.join hw)

/-! ### The other steps of the worker -/

private theorem RoomInv.of_queueStep (h : s.RoomInv) (hs : QueueStep s s') (ho : OutsideStep s s') :
    s'.RoomInv where
  phases := h.phases.step (.net ho)
  unloaded hq hl := by
    have hdevice : s'.engine.mDevice = s.engine.mDevice := congrArg Link.device ho.engine.link
    rw [hdevice] at hl
    exact (h.unloaded (ho.worker ▸ hq) hl).of_queueStep hs
  pc pc hpc := (h.pc pc (ho.worker ▸ hpc)).of_queueStep hs

-- A task that the worker has taken from its queue has ended.
private theorem RoomInv.of_task (h : s.RoomInv) (hs : ClientStep s s') (hidle : s.worker = .idle)
    (hw : ∀ pc, s'.worker ≠ .joining pc) (hd : s'.engine.mDevice = s.engine.mDevice)
    (htask : s.NoRoomTask → s'.NoRoomTask) : s'.RoomInv where
  phases := h.phases.step hs
  unloaded _ hl := by
    rw [hd] at hl
    exact htask (h.unloaded (by simp [hidle]) hl)
  pc pc hpc := absurd hpc (hw pc)

-- Taking the head of the queue gets no task of the room under way.
private theorem NoRoomTask.taken {t : Task} {q : List Task} (h : s.NoRoomTask)
    (hq : s.workQueue = t :: q) (hqueue : ∀ t' ∈ s'.workQueue, t' ∈ q)
    (hr : s'.createRoomRequests = s.createRoomRequests)
    (hsent : s'.engine.roomRequests = s.engine.roomRequests) : s'.NoRoomTask where
  requests := hr.trans h.requests
  queue hm := h.queue (by rw [hq]; exact List.mem_cons_of_mem t (hqueue _ hm))
  sent := by
    rw [hsent]
    exact h.sent

-- Room requests and invariant after a step of an idle worker.
private theorem RoomInv.work_idle (h : s.RoomInv) (env : WorkEnv) (hidle : s.worker = .idle) :
    (s.work env).RoomInv ∧
      ((s.work env).engine.roomRequests = s.engine.roomRequests ∨
        (s.work env).engine.roomRequests = s.engine.roomRequests ++ [.createRoomMediasoup]) := by
  have hphases := h.phases.phases (by simp [hidle])
  have hstep := s.work_clientStep env
  cases hq : s.workQueue with
  | nil =>
    have hwork : s.work env = s := by simp only [work, hidle, hq]
    rw [hwork]
    exact ⟨h, .inl rfl⟩
  | cons t q =>
    have hwork : s.work env = { s with workQueue := q }.runTask env t := by
      simp only [work, hidle, hq]
    rw [hwork] at hstep ⊢
    cases t with
    | joinImpl =>
      refine ⟨⟨h.phases.step hstep, ?_, ?_⟩, .inl rfl⟩
      · intro _ hl
        exact (h.unloaded (by simp [hidle]) hl).taken hq (fun _ ht ↦ ht) rfl rfl
      · intro pc hpc
        cases hpc
        trivial
    | throwRuntimeException =>
      refine ⟨h.of_task hstep hidle (fun _ hpc ↦ nomatch hpc) rfl ?_, .inl rfl⟩
      intro hn
      exact hn.taken hq (fun _ ht ↦ ht) rfl rfl
    | createRoomMediasoup =>
      have hsent := s.engine.roomRequests_createRoomMediasoup hphases.link.client env.createRoom
      obtain ⟨cs, hcs, heq⟩ := s.engine.createRoomMediasoup_calls env.createRoom
      refine ⟨h.of_task hstep hidle ?_ ?_ ?_, .inr hsent⟩
      · intro pc hpc
        simp only [runTask, finish] at hpc
        split at hpc <;> cases hpc
      · change (s.engine.createRoomMediasoup env.createRoom).engine.mDevice = _
        rw [heq]
        rfl
      · intro hn
        exact absurd (hq ▸ List.mem_cons_self) hn.queue
    | media task =>
      have hsent := (s.engine.uneventful_runMediaTask env.media task).roomRequests
      refine ⟨h.of_task hstep hidle ?_ ?_ ?_, .inl hsent⟩
      · intro pc hpc
        simp only [runTask, finish] at hpc
        split at hpc <;> cases hpc
      · exact congrArg Link.device (s.engine.link_runMediaTask env.media task)
      · intro hn
        exact hn.taken hq (fun _ ht ↦ ht) rfl hsent
    | destroy =>
      have hsent := s.engine.roomRequests_destroyTask
      refine ⟨⟨h.phases.step hstep, fun hw _ ↦ absurd rfl hw, fun _ hpc ↦ nomatch hpc⟩, .inl hsent⟩

/-! ### Whole runs -/

-- Every step keeps the invariant. It sends nothing, the request of the listener's task, or
-- what the statement of `joinImpl` it takes sends.
private theorem RoomInv.step_cases (h : s.RoomInv) (a : Action) :
    (s.step a).RoomInv ∧
      (s.StopsBeforeMediasoup a ∧
          ((s.step a).engine.roomRequests = s.engine.roomRequests ∨
            (s.step a).engine.roomRequests = s.engine.roomRequests ++ [.createRoomMediasoup]) ∨
        ∃ env pc, a = .work env ∧ s.worker = .joining pc ∧
          (s.step a).engine.roomRequests =
            s.engine.roomRequests ++ RtcEngineEx.joinRequests pc) := by
  by_cases ha : ∃ env, a = .work env
  · obtain ⟨env, rfl⟩ := ha
    change (s.work env).RoomInv ∧ _
    cases hw : s.worker with
    | idle =>
      obtain ⟨hinv, hsent⟩ := h.work_idle env hw
      exact ⟨hinv, .inl ⟨fun _ _ ↦ by simp [hw], hsent⟩⟩
    | joining pc =>
      have hwork : s.work env = s.joinStep env.join pc := by simp only [work, hw]
      have hsent := h.joinStep_requests env.join hw
      rw [← hwork] at hsent
      refine ⟨?_, .inr ⟨env, pc, rfl, rfl, hsent⟩⟩
      rw [hwork]
      exact h.joinStep env hw
    | crashed =>
      have hwork : s.work env = s := by simp only [work, hw]
      rw [step, hwork]
      exact ⟨h, .inl ⟨fun _ _ ↦ by simp [hw], .inl rfl⟩⟩
    | quit =>
      have hwork : s.work env = s := by simp only [work, hw]
      rw [step, hwork]
      exact ⟨h, .inl ⟨fun _ _ ↦ by simp [hw], .inl rfl⟩⟩
  · have hne : ∀ env, a ≠ .work env := fun env he ↦ ha ⟨env, he⟩
    have hqueue := s.step_queueStep hne
    refine ⟨h.of_queueStep hqueue (s.step_outsideStep hne), .inl ⟨?_, ?_⟩⟩
    · intro env he
      exact absurd he (hne env)
    · exact .inl hqueue.uneventful.roomRequests

private theorem initial_roomInv (config : RtcEngineConfig) : (initial config).RoomInv where
  phases := .inr (initial_phases config 0)
  unloaded _ _ := ⟨rfl, by simp [initial], by simp [initial, RtcEngineEx.roomRequests]⟩
  pc pc hpc := by cases hpc

-- When `joinImpl` comes to `JOIN_ROOM`, it has sent `CREATE_ROOM`.
private theorem RoomInv.step_room (h : s.RoomInv) (a : Action)
    (hs : Precedes .createRoom .joinRoom s.engine.roomRequests) :
    Precedes .createRoom .joinRoom (s.step a).engine.roomRequests := by
  obtain ⟨-, ⟨-, hsame | htask⟩ | ⟨env, pc, rfl, hw, hsent⟩⟩ := h.step_cases a
  · rw [hsame]
    exact hs
  · rw [htask, precedes_concat]
    exact ⟨hs, by simp⟩
  · have hok := h.pc pc hw
    rw [hsent]
    cases pc with
    | createRoom => exact (precedes_concat _ _ _ _).mpr ⟨hs, by simp⟩
    | joinRoom => exact (precedes_concat _ _ _ _).mpr ⟨hs, fun _ ↦ hok.1⟩
    | joinRoomMediasoup => exact (precedes_concat _ _ _ _).mpr ⟨hs, by simp⟩
    | _ => simpa [RtcEngineEx.joinRequests] using hs

-- When it comes to `JOIN_ROOM_MEDIASOUP`, the task of the listener is still to come.
private theorem RoomInv.step_mediasoup_iff (h : s.RoomInv) (a : Action)
    (hs : Precedes .createRoomMediasoup .joinRoomMediasoup s.engine.roomRequests) :
    Precedes .createRoomMediasoup .joinRoomMediasoup (s.step a).engine.roomRequests ↔
      s.StopsBeforeMediasoup a := by
  obtain ⟨-, ⟨hstops, hsame | htask⟩ | ⟨env, pc, rfl, hw, hsent⟩⟩ := h.step_cases a
  · rw [hsame]
    exact iff_of_true hs hstops
  · rw [htask, precedes_concat]
    exact iff_of_true ⟨hs, by simp⟩ hstops
  · rw [hsent]
    by_cases hpc : pc = .joinRoomMediasoup
    · subst hpc
      apply iff_of_false
      · intro hfirst
        exact (h.pc _ hw).2 (((precedes_concat _ _ _ _).mp hfirst).2 rfl)
      · intro hstops
        exact hstops env rfl hw
    · have hstops : s.StopsBeforeMediasoup (.work env) := by
        intro env' _ hw'
        rw [hw] at hw'
        exact hpc (Worker.joining.inj hw')
      refine iff_of_true ?_ hstops
      cases pc with
      | createRoom => exact (precedes_concat _ _ _ _).mpr ⟨hs, by simp⟩
      | joinRoom => exact (precedes_concat _ _ _ _).mpr ⟨hs, by simp⟩
      | joinRoomMediasoup => exact absurd rfl hpc
      | _ => simpa [RtcEngineEx.joinRequests] using hs

/-- The rooms are created before they are joined in every state of a run iff no `joinImpl` of
the run takes its last statement: that statement always overtakes the task which sends
`CREATE_ROOM_MEDIASOUP`, however early the reply to `CREATE_ROOM` comes. -/
theorem createsFirst_always_iff (config : RtcEngineConfig) (as : List Action) :
    Always step CreatesFirst (initial config) as ↔
      Guarded step StopsBeforeMediasoup (initial config) as := by
  apply always_iff_guarded RoomInv (initial_roomInv config)
  · exact ⟨precedes_nil _ _, precedes_nil _ _⟩
  · intro s a _ h
    exact (h.step_cases a).1
  · intro s a _ h hs
    constructor
    · intro hfirst
      exact (h.step_mediasoup_iff a hs.mediasoup).mp hfirst.mediasoup
    · intro hstops
      exact ⟨h.step_room a hs.room, (h.step_mediasoup_iff a hs.mediasoup).mpr hstops⟩

/-- The part about `JOIN_ROOM` holds in every run. -/
theorem createRoom_precedes_joinRoom (config : RtcEngineConfig) (as : List Action) :
    Precedes .createRoom .joinRoom (run step (initial config) as).engine.roomRequests := by
  let good (s : Client) := s.RoomInv ∧ Precedes .createRoom .joinRoom s.engine.roomRequests
  have hgood : good (run step (initial config) as) := by
    apply run_invariant good ⟨initial_roomInv config, precedes_nil _ _⟩
    rintro s a ⟨h, hs⟩
    exact ⟨(h.step_cases a).1, h.step_room a hs⟩
  exact hgood.2

end Client

/-- The server accepts `CREATE_ROOM` while `joinImpl` still waits for the reply to `JOIN_ROOM`:
`JOIN_ROOM_MEDIASOUP` is sent all the same before `CREATE_ROOM_MEDIASOUP`. -/
theorem createsFirst_fails_accepted_early :
    let s := run Client.step (Client.initial {})
      (openChannel ++ List.replicate 12 (.work (workGood "t")) ++ [.createRoomReply true] ++
        List.replicate 5 (.work (workGood "t")))
    s.engine.roomRequests = [.createRoom, .joinRoom, .joinRoomMediasoup, .createRoomMediasoup] ∧
      ¬ s.CreatesFirst := by
  intro s
  have hsent : s.engine.roomRequests =
      [.createRoom, .joinRoom, .joinRoomMediasoup, .createRoomMediasoup] := by decide
  refine ⟨hsent, ?_⟩
  intro h
  have hmem := h.mediasoup [.createRoom, .joinRoom] [.createRoomMediasoup] hsent
  simp at hmem

end RtcClient.System
