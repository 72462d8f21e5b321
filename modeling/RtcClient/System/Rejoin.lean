import RtcClient.System.Phases

/-!
# Joining again

`joinImpl` loads the device on every call (`RtcEngineEx.java:276–294`) and neither
`leaveChannel` nor anything else but the destroy task resets it, so with good replies it
arrives at `JOIN_ROOM_MEDIASOUP` exactly when no earlier call has loaded the device.
-/

namespace RtcClient.Engine

open RtcClient.Native RtcClient.Store

/-- The network is up and the replies `joinImpl` waits for are successful and well formed. -/
structure JoinEnv.Ok (env : JoinEnv) : Prop where
  available : env.available = true
  capabilities : ∃ audio video, env.capabilities = .data (.valid audio video)
  transport : ∃ id, env.transport = .data (some id)
  joined : env.joined ≠ .failed

namespace JoinPc

/-- Steps until `JOIN_ROOM_MEDIASOUP` is sent, that one included. -/
def remaining : JoinPc → Nat
  | .start => 13
  | .awaitRouterRtp => 12
  | .load _ => 11
  | .requestSendTransport => 10
  | .awaitSendTransport => 9
  | .newSendTransport _ => 8
  | .requestRecvTransport => 7
  | .awaitRecvTransport => 6
  | .newRecvTransport _ => 5
  | .createRoom => 4
  | .joinRoom => 3
  | .awaitJoinRoom => 2
  | .joinRoomMediasoup => 1

/-- `mDevice.load` is still to come. -/
def Loads : JoinPc → Prop
  | .start | .awaitRouterRtp | .load _ => True
  | _ => False

/-- The reply this statement was given is well formed. -/
def WellFormed : JoinPc → Prop
  | .load caps => caps ≠ .invalid
  | .newSendTransport id | .newRecvTransport id => id.isSome
  | _ => True

/-- Something is left to do at every statement. -/
theorem remaining_pos (pc : JoinPc) : 0 < pc.remaining := by
  cases pc <;> simp [remaining]

end JoinPc

end RtcClient.Engine

namespace RtcClient.System

open RtcClient.Native RtcClient.Store RtcClient.Engine RtcClient.Lib

section Steps

variable {e : RtcEngineEx} {env : JoinEnv}

/-- One good step short of the last: the next statement is one step closer, and the device
still as `mDevice.load` will want it. -/
def Advances (pc : JoinPc) (r : RtcEngineEx × JoinNext) : Prop :=
  ∃ pc', r.2 = .goto pc' ∧ pc.remaining = pc'.remaining + 1 ∧ pc'.WellFormed ∧
    (pc'.Loads → r.1.mDevice.loaded = false)

/-- With good replies and a device that `mDevice.load` will accept, a step of `joinImpl`
goes on, and the last one sends. -/
theorem joinStep_advances (h : LinkOk e.link) (henv : env.Ok) {pc : JoinPc} (hpc : PcOk e.link pc)
    (hwf : pc.WellFormed) (hload : pc.Loads → e.mDevice.loaded = false) :
    Advances pc (e.joinStep env pc) ∨
      pc = .joinRoomMediasoup ∧ (e.joinStep env pc).2 = .sent := by
  obtain ⟨audio, video, hcaps⟩ := henv.capabilities
  obtain ⟨id, htransport⟩ := henv.transport
  cases pc with
  | start =>
    left
    simp only [RtcEngineEx.joinStep, henv.available, if_true, h.sendThen_eq]
    exact ⟨_, rfl, rfl, trivial, fun _ ↦ hload trivial⟩
  | awaitRouterRtp =>
    left
    simp only [RtcEngineEx.joinStep, RtcEngineEx.awaitThen, hcaps]
    exact ⟨_, rfl, rfl, by simp [JoinPc.WellFormed], fun _ ↦ hload trivial⟩
  | load caps =>
    left
    have hd : e.mDevice.disposed = false := h.notDisposed
    have hl : e.mDevice.loaded = false := hload trivial
    cases caps with
    | invalid => exact absurd rfl hwf
    | valid a v =>
      simp only [RtcEngineEx.joinStep, Device.load, hd, hl, Bool.false_eq_true, if_false]
      exact ⟨_, rfl, rfl, trivial, False.elim⟩
  | requestSendTransport =>
    left
    simp only [RtcEngineEx.joinStep, h.withLoaded_eq hpc.1, h.sendThen_eq]
    exact ⟨_, rfl, rfl, trivial, False.elim⟩
  | awaitSendTransport | awaitRecvTransport =>
    left
    simp only [RtcEngineEx.joinStep, RtcEngineEx.awaitThen, htransport]
    exact ⟨_, rfl, rfl, rfl, False.elim⟩
  | newSendTransport id | newRecvTransport id =>
    left
    cases id with
    | none => cases hwf
    | some id =>
      simp only [RtcEngineEx.joinStep, h.withLoaded_eq hpc.1]
      exact ⟨_, rfl, rfl, trivial, False.elim⟩
  | requestRecvTransport | createRoom | joinRoom =>
    left
    simp only [RtcEngineEx.joinStep, h.sendThen_eq]
    exact ⟨_, rfl, rfl, trivial, False.elim⟩
  | awaitJoinRoom =>
    left
    simp only [RtcEngineEx.joinStep]
    split
    · next hj => exact absurd hj henv.joined
    · exact ⟨_, rfl, rfl, trivial, False.elim⟩
  | joinRoomMediasoup =>
    right
    simp only [RtcEngineEx.joinStep, h.withLoaded_eq hpc.1, h.sendThen_eq]
    exact ⟨trivial, trivial⟩

/-- Before a load of a loaded device, a good step goes on towards it; the load throws. -/
theorem joinStep_of_loaded (h : LinkOk e.link) (henv : env.Ok) {pc : JoinPc} (hpc : pc.Loads)
    (hl : e.mDevice.loaded = true) :
    (∃ ex, (e.joinStep env pc).2 = .threw ex) ∨
      ∃ pc', (e.joinStep env pc).2 = .goto pc' ∧ pc.remaining = pc'.remaining + 1 ∧ pc'.Loads ∧
        pc'.WellFormed ∧ (e.joinStep env pc).1.mDevice.loaded = true := by
  obtain ⟨audio, video, hcaps⟩ := henv.capabilities
  cases pc with
  | start =>
    right
    simp only [RtcEngineEx.joinStep, henv.available, if_true, h.sendThen_eq]
    exact ⟨_, rfl, rfl, trivial, trivial, hl⟩
  | awaitRouterRtp =>
    right
    simp only [RtcEngineEx.joinStep, RtcEngineEx.awaitThen, hcaps]
    exact ⟨_, rfl, rfl, trivial, by simp [JoinPc.WellFormed], hl⟩
  | load caps =>
    left
    have hd : e.mDevice.disposed = false := h.notDisposed
    simp only [RtcEngineEx.joinStep, Device.load, hd, hl, Bool.false_eq_true, if_false, if_true]
    exact ⟨_, rfl⟩
  | _ => cases hpc

end Steps

/-- Every reply the worker gets while it joins is successful and well formed. -/
def Action.RepliesOk : Action → Prop
  | .work env => env.join.Ok
  | _ => True

namespace Client

/-- Every `joinImpl` that ended has sent `JOIN_ROOM_MEDIASOUP`, and a running one will, given
good replies for its remaining steps. -/
structure JoinsArrive (s : Client) : Prop where
  ended : ∀ x ∈ s.joinEnds, x = .sent
  running : ∀ pc, s.worker = .joining pc → ∀ envs : List WorkEnv, envs.length = pc.remaining →
    (∀ env ∈ envs, env.join.Ok) → (run work s envs).joinEnds = s.joinEnds ++ [.sent]

/-- The worker takes a `joinImpl` task from its queue. -/
def StartsJoin (s : Client) (a : Action) : Prop :=
  (∃ env, a = .work env) ∧ s.worker = .idle ∧ s.workQueue.head? = some .joinImpl

/-- A `joinImpl` starts only while no earlier one has loaded the device. -/
def StartsUnloaded (s : Client) (a : Action) : Prop :=
  s.StartsJoin a → s.engine.mDevice.loaded = false

variable {s : Client}

private theorem joinStep_goto {env : JoinEnv} {pc pc' : JoinPc}
    (h : (s.engine.joinStep env pc).2 = .goto pc') :
    (s.joinStep env pc).worker = .joining pc' ∧ (s.joinStep env pc).joinEnds = s.joinEnds := by
  simp only [Client.joinStep, h]
  exact ⟨rfl, rfl⟩

private theorem joinStep_sent {env : JoinEnv} {pc : JoinPc}
    (h : (s.engine.joinStep env pc).2 = .sent) :
    (s.joinStep env pc).worker = .idle ∧
      (s.joinStep env pc).joinEnds = s.joinEnds ++ [.sent] := by
  simp only [Client.joinStep, h]
  exact ⟨rfl, rfl⟩

private theorem joinStep_threw {env : JoinEnv} {pc : JoinPc} {ex : Throwable}
    (h : (s.engine.joinStep env pc).2 = .threw ex) :
    (s.joinStep env pc).worker = .crashed ∧
      (s.joinStep env pc).joinEnds = s.joinEnds ++ [.threw ex] := by
  simp only [Client.joinStep, h]
  exact ⟨rfl, rfl⟩

private theorem work_joining {pc : JoinPc} (h : s.worker = .joining pc) (env : WorkEnv) :
    s.work env = s.joinStep env.join pc := by
  simp only [work, h]

private theorem run_work_crashed (h : s.worker = .crashed) (envs : List WorkEnv) :
    run work s envs = s := by
  induction envs with
  | nil => rfl
  | cons env envs ih =>
    have hwork : s.work env = s := by simp only [work, h]
    rw [run_cons, hwork, ih]

-- From a statement whose load will be accepted, the remaining good steps send.
private theorem run_work_sent {envs : List WorkEnv} (hok : ∀ env ∈ envs, env.join.Ok) {pc : JoinPc}
    (h : s.Phases) (hw : s.worker = .joining pc) (hwf : pc.WellFormed)
    (hload : pc.Loads → s.engine.mDevice.loaded = false) (hlen : envs.length = pc.remaining) :
    (run work s envs).joinEnds = s.joinEnds ++ [.sent] := by
  -- one step of `joinImpl` for each reply; the phases say that none of them throws
  induction envs generalizing s pc with
  | nil =>
    have hpos := pc.remaining_pos
    rw [List.length_nil] at hlen
    omega
  | cons env envs ih =>
    have henv := hok env (by simp)
    rw [run_cons, work_joining hw]
    rcases joinStep_advances h.link henv (h.pc pc hw) hwf hload with
      ⟨pc', hgoto, hrem, hwf', hload'⟩ | ⟨hlast, hsent⟩
    · obtain ⟨hw', hends⟩ := joinStep_goto hgoto
      have hlen' : envs.length = pc'.remaining := by
        rw [List.length_cons] at hlen
        omega
      rw [← s.joinStep_engine env.join pc] at hload'
      rw [ih (fun env' henv' ↦ hok env' (by simp [henv'])) (h.joinStep env.join hw) hw' hwf' hload'
        hlen', hends]
    · have hnil : envs = [] := by
        rw [hlast, List.length_cons] at hlen
        exact List.eq_nil_of_length_eq_zero (Nat.succ.inj hlen)
      rw [hnil, run_nil]
      exact (joinStep_sent hsent).2

-- From a statement before the load of a loaded device, the same steps throw.
private theorem run_work_threw {envs : List WorkEnv} (hok : ∀ env ∈ envs, env.join.Ok) {pc : JoinPc}
    (h : s.Phases) (hw : s.worker = .joining pc) (hpc : pc.Loads)
    (hl : s.engine.mDevice.loaded = true) (hlen : envs.length = pc.remaining) :
    ∃ ex, (run work s envs).joinEnds = s.joinEnds ++ [.threw ex] := by
  induction envs generalizing s pc with
  | nil =>
    have hpos := pc.remaining_pos
    rw [List.length_nil] at hlen
    omega
  | cons env envs ih =>
    have henv := hok env (by simp)
    rw [run_cons, work_joining hw]
    rcases joinStep_of_loaded h.link henv hpc hl with ⟨ex, hex⟩ | ⟨pc', hgoto, hrem, hpc', -, hl'⟩
    · obtain ⟨hw', hends⟩ := joinStep_threw hex
      rw [run_work_crashed hw', hends]
      exact ⟨ex, rfl⟩
    · obtain ⟨hw', hends⟩ := joinStep_goto hgoto
      have hlen' : envs.length = pc'.remaining := by
        rw [List.length_cons] at hlen
        omega
      rw [← s.joinStep_engine env.join pc] at hl'
      obtain ⟨ex, hex⟩ := ih (fun env' henv' ↦ hok env' (by simp [henv'])) (h.joinStep env.join hw)
        hw' hpc' hl' hlen'
      exact ⟨ex, by rw [hex, hends]⟩

end Client

/-- The replies are good. -/
theorem workGood_ok (id : String) : (workGood id).join.Ok :=
  ⟨rfl, ⟨true, true, rfl⟩, ⟨id, rfl⟩, by simp [workGood]⟩

namespace Client

variable {s : Client} {a : Action}

/-- What is known of the joins in a run with good replies. -/
structure JoinInv (s : Client) : Prop where
  phases : s.PhaseInv
  wellFormed : ∀ pc, s.worker = .joining pc → pc.WellFormed

private theorem JoinInv.phases_of_joining {pc : JoinPc} (h : s.JoinInv)
    (hw : s.worker = .joining pc) :
    s.Phases :=
  h.phases.phases (by simp [hw])

-- A running `joinImpl` arrives exactly when the device is not loaded while its load is
-- still to come.
private theorem joinsArrive_iff (h : s.JoinInv) :
    s.JoinsArrive ↔ (∀ x ∈ s.joinEnds, x = .sent) ∧
      ∀ pc, s.worker = .joining pc → pc.Loads → s.engine.mDevice.loaded = false := by
  constructor
  · intro ha
    refine ⟨ha.ended, ?_⟩
    intro pc hw hpc
    by_contra hl
    have hgood : ∀ env ∈ List.replicate pc.remaining (workGood "t"), env.join.Ok := by
      intro env henv
      rw [List.eq_of_mem_replicate henv]
      exact workGood_ok "t"
    have hlen : (List.replicate pc.remaining (workGood "t")).length = pc.remaining :=
      List.length_replicate
    obtain ⟨ex, hex⟩ :=
      run_work_threw hgood (h.phases_of_joining hw) hw hpc (by simpa using hl) hlen
    rw [ha.running pc hw _ hlen hgood] at hex
    simp at hex
  · rintro ⟨hends, hload⟩
    refine ⟨hends, ?_⟩
    intro pc hw envs hlen hok
    exact run_work_sent hok (h.phases_of_joining hw) hw (h.wellFormed pc hw) (hload pc hw) hlen

private theorem JoinInv.joinStep {env : JoinEnv} {pc pc' : JoinPc} (h : s.JoinInv) (henv : env.Ok)
    (hw : s.worker = .joining pc) (hw' : (s.joinStep env pc).worker = .joining pc') :
    pc'.WellFormed := by
  have hp := h.phases_of_joining hw
  by_cases hload : pc.Loads → s.engine.mDevice.loaded = false
  · rcases joinStep_advances hp.link henv (hp.pc pc hw) (h.wellFormed pc hw) hload with
      ⟨pc'', hgoto, -, hwf, -⟩ | ⟨-, hsent⟩
    · rw [(joinStep_goto hgoto).1] at hw'
      cases hw'
      exact hwf
    · rw [(joinStep_sent hsent).1] at hw'
      cases hw'
  · push Not at hload
    rcases joinStep_of_loaded hp.link henv hload.1 (by simpa using hload.2) with
      ⟨ex, hex⟩ | ⟨pc'', hgoto, -, -, hwf, -⟩
    · rw [(joinStep_threw hex).1] at hw'
      cases hw'
    · rw [(joinStep_goto hgoto).1] at hw'
      cases hw'
      exact hwf

-- A step outside a running `joinImpl` ends no join, and leads into one only by starting it.
private theorem step_of_not_joining (hw : ∀ pc, s.worker ≠ .joining pc) :
    (s.step a).joinEnds = s.joinEnds ∧ ∀ pc, (s.step a).worker = .joining pc →
      pc = .start ∧ s.StartsJoin a ∧ (s.step a).engine = s.engine := by
  cases s.step_clientStep a with
  | net h => exact ⟨h.joinEnds, fun pc hpc ↦ absurd (h.worker.symm.trans hpc) (hw pc)⟩
  | task _ _ hw' _ hends =>
    refine ⟨hends, ?_⟩
    intro pc hpc
    rw [hpc] at hw'
    simp at hw'
  | start q hengine hidle hq hw' _ hends =>
    refine ⟨hends, ?_⟩
    intro pc hpc
    rw [hw'] at hpc
    cases hpc
    refine ⟨rfl, ⟨?_, hidle, by rw [hq]; rfl⟩, hengine⟩
    by_contra ha
    have hout := (s.step_outsideStep fun env he ↦ ha ⟨env, he⟩).worker
    rw [hw', hidle] at hout
    cases hout
  | join env pc hpc _ => exact absurd hpc (hw pc)
  | destroy q hidle hq hengine hw' _ hends =>
    refine ⟨hends, ?_⟩
    intro pc hpc
    rw [hw'] at hpc
    cases hpc

private theorem StartsJoin.worker (h : s.StartsJoin a) : (s.step a).worker = .joining .start := by
  obtain ⟨⟨env, rfl⟩, hidle, hq⟩ := h
  cases hqueue : s.workQueue with
  | nil => rw [hqueue] at hq; cases hq
  | cons t q =>
    rw [hqueue] at hq
    cases hq
    simp only [step, work, hidle, hqueue, runTask]

-- Steps during a `joinImpl`: either the worker's next one, or one that leaves it there.
private theorem step_of_joining {pc : JoinPc} (hw : s.worker = .joining pc) (a : Action) :
    (∃ env, a = .work env ∧ s.step a = s.joinStep env.join pc) ∨ OutsideStep s (s.step a) := by
  by_cases ha : ∃ env, a = .work env
  · obtain ⟨env, rfl⟩ := ha
    exact .inl ⟨env, rfl, work_joining hw env⟩
  · exact .inr (s.step_outsideStep fun env he ↦ ha ⟨env, he⟩)

-- A step with good replies keeps what is known of the joins.
private theorem JoinInv.step (h : s.JoinInv) (ha : a.RepliesOk) : (s.step a).JoinInv := by
  refine ⟨h.phases.step (s.step_clientStep a), ?_⟩
  intro pc' hw'
  by_cases hw : ∃ pc, s.worker = .joining pc
  · obtain ⟨pc, hw⟩ := hw
    rcases step_of_joining hw a with ⟨env, rfl, heq⟩ | hout
    · rw [heq] at hw'
      exact h.joinStep ha hw hw'
    · exact h.wellFormed pc' (hout.worker.symm.trans hw')
  · obtain ⟨rfl, -, -⟩ := (step_of_not_joining fun pc hpc ↦ hw ⟨pc, hpc⟩).2 pc' hw'
    trivial

-- The guard is exactly what a step needs.
private theorem joinsArrive_step_iff (h : s.JoinInv) (ha : a.RepliesOk) (hs : s.JoinsArrive) :
    (s.step a).JoinsArrive ↔ s.StartsUnloaded a := by
  rw [joinsArrive_iff (h.step ha)]
  obtain ⟨hends, hload⟩ := (joinsArrive_iff h).mp hs
  by_cases hw : ∃ pc, s.worker = .joining pc
  · -- a running `joinImpl` whose load is accepted goes on or sends
    obtain ⟨pc, hw⟩ := hw
    have hguard : s.StartsUnloaded a := by
      intro hstart
      have hidle := hstart.2.1
      rw [hw] at hidle
      cases hidle
    refine ⟨fun _ ↦ hguard, fun _ ↦ ?_⟩
    rcases step_of_joining hw a with ⟨env, rfl, heq⟩ | hout
    · rw [heq, s.joinStep_engine]
      have hp := h.phases_of_joining hw
      rcases joinStep_advances hp.link ha (hp.pc pc hw) (h.wellFormed pc hw) (hload pc hw) with
        ⟨pc', hgoto, -, -, hload'⟩ | ⟨-, hsent⟩
      · obtain ⟨hw', hends'⟩ := joinStep_goto hgoto
        rw [hw', hends']
        refine ⟨hends, ?_⟩
        intro pc'' hpc''
        cases hpc''
        exact hload'
      · obtain ⟨hw', hends'⟩ := joinStep_sent hsent
        rw [hw', hends']
        refine ⟨?_, fun pc'' hpc'' ↦ by cases hpc''⟩
        intro x hx
        rcases List.mem_append.mp hx with hx | hx
        · exact hends x hx
        · exact List.mem_singleton.mp hx
    · have hdevice : (s.step a).engine.mDevice = s.engine.mDevice :=
        congrArg Link.device hout.engine.link
      rw [hout.worker, hout.joinEnds, hdevice]
      exact ⟨hends, hload⟩
  · -- otherwise only the start of a `joinImpl` matters, and it asks for an unloaded device
    obtain ⟨hends', hstart⟩ := step_of_not_joining (a := a) fun pc hpc ↦ hw ⟨pc, hpc⟩
    rw [hends']
    constructor
    · rintro ⟨-, hload'⟩ hs'
      have hw' := hs'.worker
      rw [← (hstart _ hw').2.2]
      exact hload' _ hw' trivial
    · intro hguard
      refine ⟨hends, ?_⟩
      intro pc hpc _
      obtain ⟨-, hs', hengine⟩ := hstart pc hpc
      rw [hengine]
      exact hguard hs'

/-- In every run with good replies, every `joinImpl` arrives at `JOIN_ROOM_MEDIASOUP` exactly
when none is started after an earlier one has loaded the device. -/
theorem joinsArrive_always_iff (config : RtcEngineConfig) (as : List Action)
    (h : ∀ a ∈ as, a.RepliesOk) :
    Always step JoinsArrive (initial config) as ↔
      Guarded step StartsUnloaded (initial config) as := by
  have hinv : (initial config).JoinInv := ⟨.inr (initial_phases config 0), by simp [initial]⟩
  refine always_iff_guarded JoinInv hinv ?_ ?_ ?_
  · rw [joinsArrive_iff hinv]
    simp [initial]
  · intro s a ha hs
    exact hs.step (h a ha)
  · intro s a ha hs hP
    exact joinsArrive_step_iff hs (h a ha) hP

end Client

/-- The first `joinImpl` of an engine starts on an unloaded device and arrives. -/
theorem joinsArrive_always_first :
    Always Client.step Client.JoinsArrive (Client.initial {})
      (openChannel ++ [.work (workGood "t")]) := by
  refine (Client.joinsArrive_always_iff {} _ ?_).mpr ?_
  · simp [openChannel, Action.RepliesOk, workGood_ok]
  · simp only [openChannel, List.cons_append, List.nil_append, guarded_cons]
    refine ⟨?_, ?_, ?_, ?_, ?_, ?_, guarded_nil⟩ <;> exact fun _ ↦ by decide

/-- A channel that is joined, left and joined again. -/
def rejoin : List Action :=
  joinOnce ++ [.leaveChannel true, .exitReply true] ++ openChannel ++
    List.replicate 4 (.work (workGood "t"))

/-- The second `joinImpl` throws at `mDevice.load` and takes the worker down. -/
theorem joinsArrive_fails_rejoin :
    (∀ a ∈ rejoin, a.RepliesOk) ∧
    (run Client.step (Client.initial {}) rejoin).joinEnds = [.sent, .threw .mediasoup] ∧
    ¬ Always Client.step Client.JoinsArrive (Client.initial {}) rejoin := by
  have hends : (run Client.step (Client.initial {}) rejoin).joinEnds =
      [.sent, .threw .mediasoup] := by
    decide
  refine ⟨?_, hends, ?_⟩
  · simp [rejoin, joinOnce, openChannel, Action.RepliesOk, workGood_ok]
  · intro halways
    have hthrew := halways.last.ended (.threw .mediasoup) (by rw [hends]; simp)
    cases hthrew

end RtcClient.System
