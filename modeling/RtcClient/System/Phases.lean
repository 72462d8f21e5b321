import RtcClient.Lib.Run
import RtcClient.System.Steps

/-!
# Device and transports along a run

Until the destroy task runs, the device is loaded at most once and each transport is created
at most once, by the `joinImpl` that loaded it: `Device::Load` throws on a loaded device
before `joinImpl` gets to the transports (`RtcEngineEx.java:293–296`). The state of the link
at each statement of `joinImpl` follows.
-/

namespace RtcClient.System

open RtcClient.Native RtcClient.Store RtcClient.Engine RtcClient.Lib

/-- What holds of the link of an engine that has not been destroyed. -/
structure LinkOk (l : Link) : Prop where
  notDisposed : l.device.disposed = false
  client : l.client.isSome
  unloaded : l.device.loaded = false → l.send = none ∧ l.recv = none
  sendOpen : ∀ h, l.send = some h → h.2 = (false, false)
  recvOpen : ∀ h, l.recv = some h → h.2 = (false, false)

/-- What holds of the link when `joinImpl` stands at a statement. -/
def PcOk (l : Link) : JoinPc → Prop
  | .start | .awaitRouterRtp | .load _ => True
  | .requestSendTransport | .awaitSendTransport | .newSendTransport _ =>
    l.device.loaded = true ∧ l.send = none ∧ l.recv = none
  | .requestRecvTransport | .awaitRecvTransport | .newRecvTransport _ =>
    l.device.loaded = true ∧ l.send.isSome ∧ l.recv = none
  | .createRoom | .joinRoom | .awaitJoinRoom | .joinRoomMediasoup =>
    l.device.loaded = true ∧ l.send.isSome ∧ l.recv.isSome

/-- The engine can receive. -/
def RecvReady (l : Link) : Prop := l.device.loaded = true ∧ l.recv.isSome

section Steps

variable {e : RtcEngineEx}

/-- With its client in place, a send of `joinImpl` goes on. -/
theorem LinkOk.sendThen_eq (h : LinkOk e.link) (r : Request) (next : JoinNext) :
    e.sendThen r next = (e.request r, next) := by
  obtain ⟨c, hc⟩ := Option.isSome_iff_exists.mp h.client
  have hclient : e.mStartupClient = some c := hc
  simp only [RtcEngineEx.sendThen, RtcEngineEx.send, hclient]

/-- With a loaded device, so does what asks for one. -/
theorem LinkOk.withLoaded_eq (h : LinkOk e.link) (hl : e.mDevice.loaded = true)
    (next : RtcEngineEx × JoinNext) : e.withLoaded next = next := by
  have hd : e.mDevice.disposed = false := h.notDisposed
  simp [RtcEngineEx.withLoaded, Device.requireLoaded, hd, hl]

/-- A transport that is set is open. -/
theorem LinkOk.transportsOpen (h : LinkOk e.link) : e.TransportsOpen where
  send t ht := by
    have hheader : e.link.send = some (t.id, t.closed, t.disposed) := by
      simp only [RtcEngineEx.link, RtcEngineEx.sendHeader, ht, Option.map_some]
    exact congrArg Prod.fst (h.sendOpen _ hheader)
  recv t ht := by
    have hheader : e.link.recv = some (t.id, t.closed, t.disposed) := by
      simp only [RtcEngineEx.link, RtcEngineEx.recvHeader, ht, Option.map_some]
    exact congrArg Prod.fst (h.recvOpen _ hheader)

/-- The link and the next statement after one step of `joinImpl`. -/
structure JoinOk (l : Link) (r : RtcEngineEx × JoinNext) : Prop where
  link : LinkOk r.1.link
  goto : ∀ pc, r.2 = .goto pc → PcOk r.1.link pc
  sent : r.2 = .sent → RecvReady r.1.link
  keeps : RecvReady l → RecvReady r.1.link

private theorem JoinOk.of_threw (h : LinkOk e.link) (ex : Throwable) :
    JoinOk e.link (e, .threw ex) :=
  ⟨h, by simp, by simp, id⟩

private theorem JoinOk.of_goto {e' : RtcEngineEx} {pc : JoinPc} (h : LinkOk e'.link)
    (hpc : PcOk e'.link pc) (hk : RecvReady e.link → RecvReady e'.link) :
    JoinOk e.link (e', .goto pc) := by
  refine ⟨h, ?_, by simp, hk⟩
  intro pc' hpc'
  cases hpc'
  exact hpc

private theorem JoinOk.of_sendThen (h : LinkOk e.link) (r : Request) {pc : JoinPc}
    (hpc : PcOk e.link pc) : JoinOk e.link (e.sendThen r (.goto pc)) := by
  rw [h.sendThen_eq]
  exact .of_goto h hpc id

private theorem JoinOk.of_awaitThen {α : Type} (h : LinkOk e.link) (r : Reply α) {next : α → JoinPc}
    (hpc : ∀ a, PcOk e.link (next a)) : JoinOk e.link (e.awaitThen r next) := by
  cases r with
  | data a => exact .of_goto h (hpc a) id
  | failed => exact .of_threw h _
  | noData => exact .of_threw h _

/-- One step of `joinImpl` keeps the link in order and leads where its next statement
expects it. -/
theorem joinStep_ok (env : JoinEnv) {pc : JoinPc} (h : LinkOk e.link) (hpc : PcOk e.link pc) :
    JoinOk e.link (e.joinStep env pc) := by
  cases pc with
  | start =>
    simp only [RtcEngineEx.joinStep]
    split
    · exact .of_sendThen h _ trivial
    · have hl := (e.callback_netFrame (.onError .connectionLost)).link
      refine ⟨by rw [hl]; exact h, by simp, by simp, by rw [hl]; exact id⟩
  | awaitRouterRtp => exact .of_awaitThen h _ fun _ ↦ trivial
  | load caps =>
    simp only [RtcEngineEx.joinStep]
    cases hload : e.mDevice.load caps with
    | error ex => exact .of_threw h ex
    | ok d =>
      -- only a device that was not loaded loads, and it has no transports yet
      have hd : e.mDevice.loaded = false ∧ d.loaded = true ∧ d.disposed = false := by
        have hdis : e.mDevice.disposed = false := h.notDisposed
        simp only [Device.load, hdis] at hload
        cases hl : e.mDevice.loaded with
        | true => simp [hl] at hload
        | false =>
          cases caps with
          | invalid => simp [hl] at hload
          | valid a v =>
            simp only [hl, Bool.false_eq_true, if_false, Except.ok.injEq] at hload
            rw [← hload]
            exact ⟨rfl, rfl, rfl⟩
      obtain ⟨hsend, hrecv⟩ := h.unloaded hd.1
      refine .of_goto ⟨hd.2.2, h.client, ?_, h.sendOpen, h.recvOpen⟩ ⟨hd.2.1, hsend, hrecv⟩ ?_
      · intro hn
        have := hd.2.1.symm.trans hn
        cases this
      · intro hready
        exact ⟨hd.2.1, hready.2⟩
  | requestSendTransport =>
    simp only [RtcEngineEx.joinStep]
    rw [h.withLoaded_eq hpc.1]
    exact .of_sendThen h _ hpc
  | awaitSendTransport => exact .of_awaitThen h _ fun _ ↦ hpc
  | newSendTransport id =>
    cases id with
    | none => exact .of_threw h _
    | some id =>
      simp only [RtcEngineEx.joinStep]
      rw [h.withLoaded_eq hpc.1]
      refine .of_goto ⟨h.notDisposed, h.client, ?_, ?_, h.recvOpen⟩ ⟨hpc.1, rfl, hpc.2.2⟩ ?_
      · intro hn
        have := hpc.1.symm.trans hn
        cases this
      · intro x hx
        cases hx
        rfl
      · intro hready
        exact ⟨hready.1, hready.2⟩
  | requestRecvTransport => exact .of_sendThen h _ hpc
  | awaitRecvTransport => exact .of_awaitThen h _ fun _ ↦ hpc
  | newRecvTransport id =>
    cases id with
    | none => exact .of_threw h _
    | some id =>
      simp only [RtcEngineEx.joinStep]
      rw [h.withLoaded_eq hpc.1]
      refine .of_goto ⟨h.notDisposed, h.client, ?_, h.sendOpen, ?_⟩ ⟨hpc.1, hpc.2.1, rfl⟩ ?_
      · intro hn
        have := hpc.1.symm.trans hn
        cases this
      · intro x hx
        cases hx
        rfl
      · intro hready
        exact ⟨hready.1, rfl⟩
  | createRoom => exact .of_sendThen h _ hpc
  | joinRoom => exact .of_sendThen h _ hpc
  | awaitJoinRoom =>
    simp only [RtcEngineEx.joinStep]
    split
    · exact .of_threw h _
    · exact .of_goto h hpc id
  | joinRoomMediasoup =>
    simp only [RtcEngineEx.joinStep]
    rw [h.withLoaded_eq hpc.1]
    rw [h.sendThen_eq]
    exact ⟨h, by simp, fun _ ↦ ⟨hpc.1, hpc.2.2⟩, id⟩

end Steps

/-- Steps outside the worker leave the link alone. -/
theorem NetStep.link {e e' : RtcEngineEx} (h : NetStep e e') : e'.link = e.link := by
  cases h with
  | same => rfl
  | calls cs hcs => exact (NetFrame.of_still (Still.of_calls e hcs)).link
  | close => rfl
  | setServerRoomId r => rfl
  | notify n o => exact (e.handleNotification_netFrame n o).link
  | joinReply users => exact (e.onJoinReply_netFrame users).link

/-- So do the short worker tasks. -/
theorem TaskStep.link {e e' : RtcEngineEx} (h : TaskStep e e') : e'.link = e.link := by
  cases h with
  | net h => exact h.link
  | media env task => exact e.link_runMediaTask env task

namespace Client

/-- The link is in order, fits the statement `joinImpl` stands at, and can receive once
`JOIN_ROOM_MEDIASOUP` has been sent. -/
structure Phases (s : Client) : Prop where
  link : LinkOk s.engine.link
  pc : ∀ pc, s.worker = .joining pc → PcOk s.engine.link pc
  sent : s.joinSent = true → RecvReady s.engine.link

/-- Phases hold until the destroy task has run. -/
def PhaseInv (s : Client) : Prop := s.worker = .quit ∨ s.Phases

variable {s s' : Client}

/-- A worker that is not past its end is in its phases. -/
theorem PhaseInv.phases (h : s.PhaseInv) (hw : s.worker ≠ .quit) : s.Phases :=
  h.resolve_left hw

/-- A step of `joinImpl` continues with what its engine step returned. -/
theorem joinStep_engine (s : Client) (env : JoinEnv) (pc : JoinPc) :
    (s.joinStep env pc).engine = (s.engine.joinStep env pc).1 := by
  unfold Client.joinStep
  simp only
  cases (s.engine.joinStep env pc).2 <;> rfl

/-- A step of `joinImpl` keeps the phases. -/
theorem Phases.joinStep (h : s.Phases) (env : JoinEnv) {pc : JoinPc}
    (hw : s.worker = .joining pc) : (s.joinStep env pc).Phases := by
  have hok := joinStep_ok env h.link (h.pc pc hw)
  have hengine := s.joinStep_engine env pc
  refine ⟨by rw [hengine]; exact hok.link, ?_, ?_⟩
  · intro pc' hpc'
    rw [hengine]
    apply hok.goto
    unfold Client.joinStep at hpc'
    simp only at hpc'
    cases hr : (s.engine.joinStep env pc).2 with
    | goto pc'' =>
      rw [hr] at hpc'
      cases hpc'
      rfl
    | returned => rw [hr] at hpc'; cases hpc'
    | sent => rw [hr] at hpc'; cases hpc'
    | threw ex => rw [hr] at hpc'; cases hpc'
  · intro hsent
    rw [hengine]
    unfold Client.joinStep at hsent
    simp only at hsent
    cases hr : (s.engine.joinStep env pc).2 with
    | sent => exact hok.sent hr
    | goto pc'' =>
      rw [hr] at hsent
      exact hok.keeps (h.sent hsent)
    | returned =>
      rw [hr] at hsent
      exact hok.keeps (h.sent hsent)
    | threw ex =>
      rw [hr] at hsent
      exact hok.keeps (h.sent hsent)

/-- A step keeps the phases. -/
theorem PhaseInv.step (h : s.PhaseInv) (hs : ClientStep s s') : s'.PhaseInv := by
  rcases h with h | h
  · exact .inl (hs.quit h)
  · cases hs with
    | net hn =>
      refine .inr ⟨by rw [hn.engine.link]; exact h.link, ?_, ?_⟩
      · intro pc hpc
        rw [hn.engine.link]
        exact h.pc pc (hn.worker.symm.trans hpc)
      · intro hsent
        rw [hn.engine.link]
        exact h.sent (hn.joinSent.symm.trans hsent)
    | task ht hidle hw hj he =>
      refine .inr ⟨by rw [ht.link]; exact h.link, ?_, ?_⟩
      · intro pc hpc
        rcases hw with hw | hw <;> rw [hw] at hpc <;> cases hpc
      · intro hsent
        rw [ht.link]
        exact h.sent (hj.symm.trans hsent)
    | start q hengine hidle hq hw hj he =>
      refine .inr ⟨by rw [hengine]; exact h.link, ?_, ?_⟩
      · intro pc hpc
        rw [hw] at hpc
        cases hpc
        trivial
      · intro hsent
        rw [hengine]
        exact h.sent (hj.symm.trans hsent)
    | join env pc hw heq =>
      rw [heq]
      exact .inr (h.joinStep env hw)
    | destroy q hidle hq hengine hw hj he => exact .inl hw

/-- A new client starts before all phases. -/
theorem initial_phases (config : RtcEngineConfig) (client : Ref) :
    (initial config client).Phases where
  link := ⟨rfl, rfl, fun _ ↦ ⟨rfl, rfl⟩, by simp [initial, RtcEngineEx.link,
    RtcEngineEx.sendHeader], by simp [initial, RtcEngineEx.link, RtcEngineEx.recvHeader]⟩
  pc := by simp [initial]
  sent := by simp [initial]

/-- The phases hold in every state of every run. -/
theorem run_phaseInv (config : RtcEngineConfig) (as : List Action) :
    (run step (initial config) as).PhaseInv :=
  run_invariant PhaseInv (.inr (initial_phases config 0))
    (fun s a h ↦ h.step (s.step_clientStep a)) as

end Client

/-- Replies that let every step of `joinImpl` go on; `id` answers a produce. -/
def workGood (id : String) : WorkEnv where
  media := { produce := .asks (.id id) }
  join :=
    { capabilities := .data (.valid true true), transport := .data (some id), joined := .data () }
  createRoom := .data ()

/-- `joinChannel` with a successful `INIT_CLIENT`, up to the posted `joinImpl`. -/
def openChannel : List Action :=
  [.joinChannel true, .initReply (.code 0 (some "room")),
    .initListener (.registerReceiver (some "room")), .initListener (.setServerRoomId (some "room")),
    .initListener .onOpen]

/-- A channel joined with good replies only, the data producers and the room included. -/
def joinOnce : List Action :=
  openChannel ++ List.replicate 14 (.work (workGood "t")) ++
    [.createRoomReply true, .joinReply (some []), .work (workGood "chat"), .work (workGood "bot"),
      .work (workGood "t")]

/-- A server notification about a new consumer of user `u`. -/
def newConsumer : Notification :=
  .createUserConsumer ⟨"simple", "u", false, "c", "p", "video"⟩

example : (run Client.step (Client.initial {}) joinOnce).joinEnds = [.sent] := by decide

end RtcClient.System
