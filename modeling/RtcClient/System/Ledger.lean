import RtcClient.Engine.DestroySteps
import RtcClient.System.Phases

/-!
# How far the joins have got

The order of events around a join: `INIT_CLIENT` is answered, its listener stores the room id
and posts `joinImpl`, `joinImpl` sends `JOIN_ROOM_MEDIASOUP`, the server receives it and may
then announce consumers. Each stage is kept as an implication that no other step breaks.
-/

namespace RtcClient.System

open RtcClient.Native RtcClient.Store RtcClient.Engine RtcClient.Lib

/-- Actions that bring no join further and destroy nothing. -/
def Action.Ordinary : Action → Prop
  | .destroy | .initReply _ | .initListener _ | .serverJoin | .serverSend _ | .deliver _ _
  | .work _ => False
  | _ => True

namespace Client

/-- How far the joins have got, on both sides and in between. -/
structure Ledger (s : Client) : Prop where
  closing : .destroy ∈ s.workQueue ∨ s.worker = .quit → s.engine.mClosed = true
  joined : s.serverJoined = true → s.joinSent = true
  consumers : ∀ n ∈ s.downlink, isConsumer n = true → s.serverJoined = true
  acks : 0 < s.pendingAcks → s.joinSent = true
  stages : ∀ r, .registerReceiver r ∈ s.initListeners ∨ .setServerRoomId r ∈ s.initListeners →
    r ∈ s.completedInits
  room : .onOpen ∈ s.initListeners ∨ .joinImpl ∈ s.workQueue ∨ (∃ pc, s.worker = .joining pc) ∨
    s.joinSent = true → s.engine.serverRoomId ∈ s.completedInits

/-- A step that brings no join further. -/
structure Idle (s s' : Client) : Prop where
  mClosed : s'.engine.mClosed = s.engine.mClosed
  serverRoomId : s'.engine.serverRoomId = s.engine.serverRoomId
  completedInits : s'.completedInits = s.completedInits
  initListeners : s'.initListeners = s.initListeners
  workQueue : ∀ t ∈ s'.workQueue, t ∈ s.workQueue ∨ t ≠ .destroy ∧ t ≠ .joinImpl
  worker : s'.worker = s.worker ∨ s'.worker = .idle ∨ s'.worker = .crashed
  joinSent : s'.joinSent = s.joinSent
  serverJoined : s'.serverJoined = s.serverJoined
  downlink : ∀ n ∈ s'.downlink, n ∈ s.downlink
  pendingAcks : s'.pendingAcks ≤ s.pendingAcks

variable {s s' : Client}

/-- Such a step keeps the ledger. -/
theorem Ledger.idle (h : s.Ledger) (hi : Idle s s') : s'.Ledger where
  closing hc := by
    rw [hi.mClosed]
    apply h.closing
    rcases hc with hc | hc
    · rcases hi.workQueue _ hc with hq | hq
      · exact .inl hq
      · exact absurd rfl hq.1
    · rcases hi.worker with hw | hw | hw
      · exact .inr (hw.symm.trans hc)
      · rw [hw] at hc; cases hc
      · rw [hw] at hc; cases hc
  joined := by
    rw [hi.serverJoined, hi.joinSent]
    exact h.joined
  consumers n hn hc := by
    rw [hi.serverJoined]
    exact h.consumers n (hi.downlink n hn) hc
  acks ha := by
    rw [hi.joinSent]
    exact h.acks (Nat.lt_of_lt_of_le ha hi.pendingAcks)
  stages := by
    rw [hi.initListeners, hi.completedInits]
    exact h.stages
  room hr := by
    rw [hi.serverRoomId, hi.completedInits]
    apply h.room
    rw [hi.initListeners, hi.joinSent] at hr
    rcases hr with hr | hr | ⟨pc, hr⟩ | hr
    · exact .inl hr
    · rcases hi.workQueue _ hr with hq | hq
      · exact .inr (.inl hq)
      · exact absurd rfl hq.2
    · rcases hi.worker with hw | hw | hw
      · exact .inr (.inr (.inl ⟨pc, hw.symm.trans hr⟩))
      · rw [hw] at hr; cases hr
      · rw [hw] at hr; cases hr
    · exact .inr (.inr (.inr hr))

namespace Idle

/-- Doing nothing. -/
theorem refl (s : Client) : Idle s s :=
  ⟨rfl, rfl, rfl, rfl, fun _ h ↦ .inl h, .inl rfl, rfl, rfl, fun _ h ↦ h, Nat.le_refl _⟩

/-- All these fields are as before. -/
theorem of_same (hm : s'.engine.mClosed = s.engine.mClosed)
    (hr : s'.engine.serverRoomId = s.engine.serverRoomId)
    (hi : s'.completedInits = s.completedInits) (hl : s'.initListeners = s.initListeners)
    (hq : s'.workQueue = s.workQueue) (hw : s'.worker = s.worker) (hs : s'.joinSent = s.joinSent)
    (hj : s'.serverJoined = s.serverJoined) (hd : s'.downlink = s.downlink)
    (ha : s'.pendingAcks = s.pendingAcks) : Idle s s' :=
  ⟨hm, hr, hi, hl, fun _ ht ↦ .inl (hq ▸ ht), .inl hw, hs, hj, fun _ hn ↦ hd ▸ hn, ha.le⟩

/-- An engine with the same flags. -/
theorem withEngine (s : Client) {e : RtcEngineEx} (hm : e.mClosed = s.engine.mClosed)
    (hr : e.serverRoomId = s.engine.serverRoomId) : Idle s (s.withEngine e) :=
  ⟨hm, hr, rfl, rfl, fun _ h ↦ .inl h, .inl rfl, rfl, rfl, fun _ h ↦ h, Nat.le_refl _⟩

/-- Posting a task that neither joins nor destroys. -/
theorem post (s : Client) (t : Task) (hd : t ≠ .destroy) (hj : t ≠ .joinImpl) :
    Idle s (s.post t) := by
  unfold Client.post
  split
  · exact .refl s
  · refine ⟨rfl, rfl, rfl, rfl, ?_, .inl rfl, rfl, rfl, fun _ h ↦ h, Nat.le_refl _⟩
    intro t' ht'
    rcases List.mem_append.mp ht' with ht' | ht'
    · exact .inl ht'
    · rw [List.mem_singleton.mp ht']
      exact .inr ⟨hd, hj⟩

/-- Such steps compose. -/
theorem trans {s'' : Client} (h : Idle s s') (h' : Idle s' s'') : Idle s s'' where
  mClosed := h'.mClosed.trans h.mClosed
  serverRoomId := h'.serverRoomId.trans h.serverRoomId
  completedInits := h'.completedInits.trans h.completedInits
  initListeners := h'.initListeners.trans h.initListeners
  workQueue t ht := (h'.workQueue t ht).elim (h.workQueue t) .inr
  worker := by
    rcases h'.worker with hw | hw
    · rw [hw]
      exact h.worker
    · exact .inr hw
  joinSent := h'.joinSent.trans h.joinSent
  serverJoined := h'.serverJoined.trans h.serverJoined
  downlink n hn := h.downlink n (h'.downlink n hn)
  pendingAcks := Nat.le_trans h'.pendingAcks h.pendingAcks

end Idle

/-! ### Steps that bring a join further -/

private theorem mem_of_concat {α : Type} {x y : α} {l : List α} (h : x ∈ l ++ [y]) (hne : x ≠ y) :
    x ∈ l :=
  (List.mem_append.mp h).resolve_right fun h ↦ hne (List.mem_singleton.mp h)

private theorem PhaseInv.destroyTask_flags (hp : s.PhaseInv) (hw : s.worker = .idle) :
    s.engine.destroyTask.mClosed = s.engine.mClosed ∧
      s.engine.destroyTask.serverRoomId = s.engine.serverRoomId ∧
      s.engine.destroyTask.mStartupClient = none := by
  have hphases := hp.phases (by simp [hw])
  exact RtcEngineEx.destroyTask_flags hphases.link.transportsOpen

private theorem AskStep.idle (h : AskStep s s') : Idle s s' := by
  cases h with
  | threw => exact .refl s
  | init | exit => exact .of_same rfl rfl rfl rfl rfl rfl rfl rfl rfl rfl
  | lost => exact .withEngine s rfl rfl

private theorem Ledger.destroy (h : s.Ledger) : s.destroy.Ledger := by
  unfold Client.destroy
  split
  · exact h
  · have hclosed : ({ s.engine with mClosed := true } : RtcEngineEx).mClosed = true := rfl
    unfold Client.post
    split
    · exact ⟨fun _ ↦ hclosed, h.joined, h.consumers, h.acks, h.stages, h.room⟩
    · refine ⟨fun _ ↦ hclosed, h.joined, h.consumers, h.acks, h.stages, ?_⟩
      rintro (hr | hr | hr)
      · exact h.room (.inl hr)
      · exact h.room (.inr (.inl (mem_of_concat hr (by simp))))
      · exact h.room (.inr (.inr hr))

private theorem Ledger.initReply (h : s.Ledger) (r : InitReply) : (s.initReply r).Ledger := by
  unfold Client.initReply
  split
  · exact h
  · have hbase : ({ s with initRequests := s.initRequests - 1 } : Client).Ledger :=
      ⟨h.closing, h.joined, h.consumers, h.acks, h.stages, h.room⟩
    cases r with
    | failed => exact hbase.idle (.withEngine _ rfl rfl)
    | code n serverRoomId =>
      simp only
      split
      · -- the room id is completed before the listener gets to use it
        refine ⟨h.closing, h.joined, h.consumers, h.acks, ?_, ?_⟩
        · rintro r (hr | hr)
          · rcases List.mem_append.mp hr with hr | hr
            · exact List.mem_append_left _ (h.stages r (.inl hr))
            · cases List.mem_singleton.mp hr
              simp
          · have hr := mem_of_concat hr (by simp)
            exact List.mem_append_left _ (h.stages r (.inr hr))
        · rintro (hr | hr)
          · have hr := mem_of_concat hr (by simp)
            exact List.mem_append_left _ (h.room (.inl hr))
          · exact List.mem_append_left _ (h.room (.inr hr))
      · have hcallback : ∀ (x : Client) c, Idle x ((x.callback c).post .throwRuntimeException) := by
          intro x c
          have hengine : Idle x (x.callback c) := .withEngine x rfl rfl
          exact hengine.trans (.post _ _ (by simp) (by simp))
        apply hbase.idle
        by_cases h1 : n = 1
        · simp only [h1, if_true, true_or]
          exact Idle.trans (hcallback _ _) (hcallback _ _)
        · simp only [h1, if_false, false_or]
          split
          · exact hcallback _ _
          · exact .refl _

private theorem Ledger.initListener (h : s.Ledger) (stage : InitStage) :
    (s.initListener stage).Ledger := by
  unfold Client.initListener
  split
  · next hmem =>
    have herase : ∀ x, x ∈ s.initListeners.erase stage → x ∈ s.initListeners :=
      fun x hx ↦ List.mem_of_mem_erase hx
    have hstages : ∀ r, .registerReceiver r ∈ s.initListeners.erase stage ∨
        .setServerRoomId r ∈ s.initListeners.erase stage → r ∈ s.completedInits :=
      fun r hr ↦ h.stages r (hr.imp (herase _) (herase _))
    cases stage with
    | registerReceiver r =>
      refine ⟨h.closing, h.joined, h.consumers, h.acks, ?_, ?_⟩
      · rintro r' (hr | hr)
        · exact hstages r' (.inl (mem_of_concat hr (by simp)))
        · rcases List.mem_append.mp hr with hr | hr
          · exact hstages r' (.inr hr)
          · cases List.mem_singleton.mp hr
            exact h.stages r (.inl hmem)
      · rintro (hr | hr)
        · have hr := mem_of_concat hr (by simp)
          exact h.room (.inl (herase _ hr))
        · exact h.room (.inr hr)
    | setServerRoomId r =>
      refine ⟨h.closing, h.joined, h.consumers, h.acks, ?_, fun _ ↦ h.stages r (.inr hmem)⟩
      rintro r' (hr | hr)
      · exact hstages r' (.inl (mem_of_concat hr (by simp)))
      · exact hstages r' (.inr (mem_of_concat hr (by simp)))
    | onOpen =>
      have hroom := h.room (.inl hmem)
      simp only
      unfold Client.post
      split
      · exact ⟨h.closing, h.joined, h.consumers, h.acks, hstages, fun _ ↦ hroom⟩
      · refine ⟨?_, h.joined, h.consumers, h.acks, hstages, fun _ ↦ hroom⟩
        rintro (hd | hd)
        · exact h.closing (.inl (mem_of_concat hd (by simp)))
        · exact h.closing (.inr hd)
  · exact h

private theorem Ledger.deliver (h : s.Ledger) (n : Notification)
    (o : RecvTransport.ConsumeOutcome) : (s.deliver n o).Ledger := by
  unfold Client.deliver
  split
  · next hmem =>
    have herase : ∀ m, m ∈ s.downlink.erase n → m ∈ s.downlink :=
      fun m hm ↦ List.mem_of_mem_erase hm
    have hf := s.engine.handleNotification_netFrame n o
    simp only
    split
    · refine ⟨?_, h.joined, fun m hm ↦ h.consumers m (herase m hm), ?_, h.stages, ?_⟩
      · intro hc
        rw [hf.mClosed]
        exact h.closing hc
      · intro hacks
        by_cases hn : isConsumer n = true
        · exact h.joined (h.consumers n hmem hn)
        · exact h.acks (by simpa [hn] using hacks)
      · intro hr
        rw [hf.serverRoomId]
        exact h.room hr
    · exact ⟨h.closing, h.joined, fun m hm ↦ h.consumers m (herase m hm), h.acks, h.stages, h.room⟩
  · exact h

private theorem joinStep_flags (e : RtcEngineEx) (env : JoinEnv) (pc : JoinPc) :
    (e.joinStep env pc).1.mClosed = e.mClosed ∧
      (e.joinStep env pc).1.serverRoomId = e.serverRoomId := by
  have hchange := e.joinStep_joinChange env pc
  generalize (e.joinStep env pc).1 = e' at hchange
  cases hchange <;> exact ⟨rfl, rfl⟩

private theorem Ledger.joinStep (h : s.Ledger) (env : JoinEnv) {pc : JoinPc}
    (hw : s.worker = .joining pc) : (s.joinStep env pc).Ledger := by
  obtain ⟨hclosed, hroom⟩ := joinStep_flags s.engine env pc
  have hcompleted := h.room (.inr (.inr (.inl ⟨pc, hw⟩)))
  rw [← hroom] at hcompleted
  have hclosing : ∀ (posts : List MediaTask) (w : Worker), w ≠ .quit →
      .destroy ∈ s.workQueue ++ posts.map Task.media ∨ w = .quit →
        (s.engine.joinStep env pc).1.mClosed = true := by
    rintro posts w hw (hd | hd)
    · rw [hclosed]
      rcases List.mem_append.mp hd with hd | hd
      · exact h.closing (.inl hd)
      · simp at hd
    · exact absurd hd hw
  unfold Client.joinStep
  simp only
  cases (s.engine.joinStep env pc).2 with
  | goto pc' =>
    exact ⟨hclosing _ (.joining pc') (by simp), h.joined, h.consumers, h.acks, h.stages,
      fun _ ↦ hcompleted⟩
  | returned =>
    exact ⟨hclosing _ .idle (by simp), h.joined, h.consumers, h.acks, h.stages, fun _ ↦ hcompleted⟩
  | sent =>
    exact ⟨hclosing _ .idle (by simp), fun _ ↦ rfl, h.consumers, fun _ ↦ rfl, h.stages,
      fun _ ↦ hcompleted⟩
  | threw ex =>
    exact ⟨hclosing _ .crashed (by simp), h.joined, h.consumers, h.acks, h.stages,
      fun _ ↦ hcompleted⟩

private theorem Ledger.work (h : s.Ledger) (hp : s.PhaseInv) (env : WorkEnv) :
    (s.work env).Ledger := by
  unfold Client.work
  split
  · next pc hw => exact h.joinStep env.join hw
  · exact h
  · exact h
  · next hw =>
    split
    · exact h
    · next t q hq =>
      have hmem : ∀ x, x ∈ q → x ∈ s.workQueue := by
        intro x hx
        rw [hq]
        exact List.mem_cons_of_mem _ hx
      have hhead : t ∈ s.workQueue := by
        rw [hq]
        exact List.mem_cons_self
      -- a task that neither joins nor destroys ends idle or crashed
      have hfinish : ∀ r : Result, r.engine.mClosed = s.engine.mClosed →
          r.engine.serverRoomId = s.engine.serverRoomId →
            (({ s with workQueue := q } : Client).finish r).Ledger := by
        intro r hclosed hroom
        refine h.idle ⟨hclosed, hroom, rfl, rfl, fun x hx ↦ .inl (hmem x hx), ?_, rfl, rfl,
          fun _ hn ↦ hn, Nat.le_refl _⟩
        unfold finish
        cases r.thrown <;> simp
      cases t with
      | joinImpl =>
        have hroom := h.room (.inr (.inl hhead))
        refine ⟨?_, h.joined, h.consumers, h.acks, h.stages, fun _ ↦ hroom⟩
        rintro (hd | hd)
        · exact h.closing (.inl (hmem _ hd))
        · cases hd
      | throwRuntimeException =>
        exact h.idle ⟨rfl, rfl, rfl, rfl, fun x hx ↦ .inl (hmem x hx), .inr (.inr rfl), rfl, rfl,
          fun _ hn ↦ hn, Nat.le_refl _⟩
      | createRoomMediasoup =>
        obtain ⟨cs, -, heq⟩ := s.engine.createRoomMediasoup_calls env.createRoom
        apply hfinish
        · rw [heq]
          rfl
        · rw [heq]
          rfl
      | media task =>
        have hf := (s.engine.runMediaTask_step env.media task).frame
        exact hfinish _ hf.mClosed hf.serverRoomId
      | destroy =>
        obtain ⟨hclosed, hroom, -⟩ := hp.destroyTask_flags hw
        refine ⟨?_, h.joined, h.consumers, h.acks, h.stages, ?_⟩
        · intro _
          exact hclosed.trans (h.closing (.inl hhead))
        · rintro (hr | hr | ⟨pc, hr⟩ | hr)
          · exact hroom ▸ h.room (.inl hr)
          · cases hr
          · cases hr
          · exact hroom ▸ h.room (.inr (.inr (.inr hr)))

/-- An ordinary action is idle. -/
theorem step_idle (s : Client) {a : Action} (ha : a.Ordinary) : Idle s (s.step a) := by
  cases a with
  | joinChannel available => exact (s.joinChannel_askStep available).idle
  | leaveChannel available => exact (s.leaveChannel_askStep available).idle
  | enableVideo => exact .of_same rfl rfl rfl rfl rfl rfl rfl rfl rfl rfl
  | disableVideo => exact .post s _ (by simp) (by simp)
  | enableAudio => exact .post s _ (by simp) (by simp)
  | disableAudio => exact .post s _ (by simp) (by simp)
  | setupLocalVideo => exact .of_same rfl rfl rfl rfl rfl rfl rfl rfl rfl rfl
  | exitReply ok =>
    simp only [Client.step, exitReply]
    split
    · exact .refl s
    · cases ok <;> exact .of_same rfl rfl rfl rfl rfl rfl rfl rfl rfl rfl
  | createRoomReply ok =>
    simp only [Client.step, createRoomReply]
    split
    · exact .refl s
    · have hbase : Idle s { s with createRoomRequests := s.createRoomRequests - 1 } :=
        .of_same rfl rfl rfl rfl rfl rfl rfl rfl rfl rfl
      cases ok with
      | false => exact hbase
      | true => exact hbase.trans (.post _ _ (by simp) (by simp))
  | joinReply users =>
    simp only [Client.step, joinReply]
    split
    · exact .refl s
    · have hbase : Idle s { s with joinRequests := s.joinRequests - 1 } :=
        .of_same rfl rfl rfl rfl rfl rfl rfl rfl rfl rfl
      cases users with
      | none => exact hbase
      | some us =>
        have hf := s.engine.onJoinReply_netFrame us
        exact hbase.trans (.withEngine _ hf.mClosed hf.serverRoomId)
  | acknowledge =>
    simp only [Client.step, acknowledge]
    split
    · exact .refl s
    · exact ⟨rfl, rfl, rfl, rfl, fun _ ht ↦ .inl ht, .inl rfl, rfl, rfl, fun _ hn ↦ hn,
        Nat.sub_le _ _⟩
  | main =>
    simp only [Client.step, Client.main]
    split
    · exact .refl s
    · next q _ =>
      have hbase : Idle s { s with mainQueue := q } :=
        .of_same rfl rfl rfl rfl rfl rfl rfl rfl rfl rfl
      exact hbase.trans (.post _ _ (by simp) (by simp))
    · next q _ =>
      have hbase : Idle s { s with mainQueue := q } :=
        .of_same rfl rfl rfl rfl rfl rfl rfl rfl rfl rfl
      exact hbase.trans (.post _ _ (by simp) (by simp))
  | _ => cases ha

/-- A step keeps the ledger. -/
theorem Ledger.step (h : s.Ledger) (hp : s.PhaseInv) (a : Action) : (s.step a).Ledger := by
  cases a with
  | destroy => exact h.destroy
  | initReply r => exact h.initReply r
  | initListener stage => exact h.initListener stage
  | serverJoin =>
    simp only [Client.step]
    split
    · next hsent =>
      exact ⟨h.closing, fun _ ↦ hsent, fun _ _ _ ↦ rfl, h.acks, h.stages, h.room⟩
    · exact h
  | serverSend n =>
    simp only [Client.step, serverSend]
    split
    · exact h
    · next hn =>
      refine ⟨h.closing, h.joined, ?_, h.acks, h.stages, h.room⟩
      intro m hm hc
      rcases List.mem_append.mp hm with hm | hm
      · exact h.consumers m hm hc
      · rw [List.mem_singleton.mp hm] at hc
        simpa [hc] using hn
  | deliver n o => exact h.deliver n o
  | work env => exact h.work hp env
  | _ => exact h.idle (s.step_idle trivial)

/-- A new client has nothing on its books. -/
theorem initial_ledger (config : RtcEngineConfig) (client : Ref) :
    (initial config client).Ledger := by
  constructor <;> simp [initial]

/-! ### Flags that other engines depend on -/

/-- The worker is about to take the destroy task. -/
def DestroyNext (s : Client) : Prop := s.worker = .idle ∧ s.workQueue.head? = some .destroy

instance (s : Client) : Decidable s.DestroyNext :=
  inferInstanceAs (Decidable (_ ∧ _))

/-- The network client of an engine changes only when its destroy task runs. -/
theorem mStartupClient_step (s : Client) (hp : s.PhaseInv) (a : Action) :
    (s.step a).engine.mStartupClient = s.engine.mStartupClient ∨
      s.DestroyNext ∧ (s.step a).engine.mStartupClient = none := by
  cases s.step_clientStep a with
  | net h => exact .inl (congrArg Link.client h.engine.link)
  | task h _ _ _ _ => exact .inl (congrArg Link.client h.link)
  | start _ hengine _ _ _ _ _ => exact .inl (by rw [hengine])
  | join env pc _ heq =>
    left
    rw [heq, s.joinStep_engine]
    have hchange := s.engine.joinStep_joinChange env pc
    generalize (s.engine.joinStep env pc).1 = e' at hchange
    cases hchange <;> rfl
  | destroy q hidle hq hengine _ _ _ =>
    right
    rw [hengine]
    exact ⟨⟨hidle, by rw [hq]; rfl⟩, (hp.destroyTask_flags hidle).2.2⟩

/-- Only `nativeDestroy` sets `mClosed`. -/
theorem mClosed_step (s : Client) (hp : s.PhaseInv) {a : Action} (ha : a ≠ .destroy) :
    (s.step a).engine.mClosed = s.engine.mClosed := by
  cases a with
  | destroy => exact absurd rfl ha
  | initReply r =>
    simp only [Client.step, initReply]
    split
    · rfl
    · cases r with
      | failed => rfl
      | code n serverRoomId =>
        simp only
        split
        · rfl
        · by_cases h1 : n = 1
          · simp only [h1, if_true, true_or, post_engine, callback, withEngine]
            rfl
          · simp only [h1, if_false, false_or]
            split
            · rw [post_engine]
              rfl
            · rfl
  | initListener stage =>
    simp only [Client.step, initListener]
    split
    · cases stage with
      | registerReceiver r => rfl
      | setServerRoomId r => rfl
      | onOpen => simp only [post_engine]
    · rfl
  | serverJoin =>
    simp only [Client.step]
    split <;> rfl
  | serverSend n =>
    simp only [Client.step, serverSend]
    split <;> rfl
  | deliver n o =>
    have hf := s.engine.handleNotification_netFrame n o
    simp only [Client.step, deliver]
    split
    · split
      · exact hf.mClosed
      · rfl
    · rfl
  | work env =>
    simp only [Client.step, work]
    split
    · next pc _ =>
      rw [s.joinStep_engine]
      exact (joinStep_flags s.engine env.join pc).1
    · rfl
    · rfl
    · next hw =>
      split
      · rfl
      · next t q _ =>
        cases t with
        | joinImpl => rfl
        | throwRuntimeException => rfl
        | createRoomMediasoup =>
          obtain ⟨cs, -, heq⟩ := s.engine.createRoomMediasoup_calls env.createRoom
          have hclosed : (s.engine.createRoomMediasoup env.createRoom).engine.mClosed =
              s.engine.mClosed := by
            rw [heq]
            rfl
          exact hclosed
        | media task => exact (s.engine.runMediaTask_step env.media task).frame.mClosed
        | destroy => exact (hp.destroyTask_flags hw).1
  | _ => exact Idle.mClosed (s.step_idle trivial)

end Client

end RtcClient.System
