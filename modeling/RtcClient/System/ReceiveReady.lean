import RtcClient.System.Ledger

/-!
# Consumer notifications and the receive transport

The processors are registered before the room id is stored and before any transport exists
(`RtcEngineEx.java:172–174`). What keeps a consumer notification from meeting a missing
transport is the order of sends in `joinImpl`: the server knows of the client only from
`JOIN_ROOM_MEDIASOUP`, the last of them.
-/

namespace RtcClient.System

open RtcClient.Native RtcClient.Store RtcClient.Engine RtcClient.Lib

/-- `onNewConsumer` and `onNewDataConsumer` find what they use: a loaded device and a receive
transport that is not disposed of. -/
structure CanReceive (e : RtcEngineEx) : Prop where
  deviceLoaded : e.mDevice.loaded = true
  deviceExists : e.mDevice.disposed = false
  transport : ∃ t, e.mRecvTransport = some t ∧ t.disposed = false

namespace Client

/-- The action runs `onNewConsumer` or `onNewDataConsumer`. -/
def HandlesConsumer (s : Client) (a : Action) : Prop :=
  ∃ n o, a = .deliver n o ∧ n ∈ s.downlink ∧ s.registered = true ∧ isConsumer n = true

/-- The action sends the acknowledgement of a consumer notification. -/
def Acknowledges (s : Client) (a : Action) : Prop := a = .acknowledge ∧ 0 < s.pendingAcks

variable {s : Client}

/-- Before `nativeDestroy` a consumer handler finds a loaded device and a receive transport,
and an acknowledgement names the room of a completed `INIT_CLIENT`. -/
def ReceivesReady (s : Client) (a : Action) : Prop :=
  (s.engine.mClosed = false → s.HandlesConsumer a → CanReceive s.engine) ∧
    (s.Acknowledges a → s.engine.serverRoomId ∈ s.completedInits)

private theorem canReceive_of_joinSent (h : s.Phases) (hsent : s.joinSent = true) :
    CanReceive s.engine := by
  obtain ⟨hloaded, hrecv⟩ := h.sent hsent
  refine ⟨hloaded, h.link.notDisposed, ?_⟩
  cases ht : s.engine.mRecvTransport with
  | none =>
    have hnone : s.engine.link.recv = none := by
      simp only [RtcEngineEx.link, RtcEngineEx.recvHeader, ht, Option.map_none]
    rw [hnone] at hrecv
    cases hrecv
  | some t =>
    have hheader : s.engine.link.recv = some (t.id, t.closed, t.disposed) := by
      simp only [RtcEngineEx.link, RtcEngineEx.recvHeader, ht, Option.map_some]
    exact ⟨t, rfl, congrArg Prod.snd (h.link.recvOpen _ hheader)⟩

/-- In every run, with any number of joins that may abort at any step, no consumer
notification meets a missing device or receive transport, and no acknowledgement a room id
of no completed `INIT_CLIENT`. -/
theorem receivesReady_always (config : RtcEngineConfig) (as : List Action) :
    Guarded step ReceivesReady (initial config) as := by
  intro pre a _
  have hinv := run_invariant (fun s : Client ↦ s.PhaseInv ∧ s.Ledger)
    ⟨.inr (initial_phases config 0), initial_ledger config 0⟩
    (fun s a h ↦ ⟨h.1.step (s.step_clientStep a), h.2.step h.1 a⟩) pre
  generalize run step (initial config) pre = s at hinv
  obtain ⟨hphases, hledger⟩ := hinv
  constructor
  · rintro hopen ⟨n, o, -, hmem, -, hn⟩
    have hsent := hledger.joined (hledger.consumers n hmem hn)
    rcases hphases with hquit | hp
    · rw [hledger.closing (.inr hquit)] at hopen
      cases hopen
    · exact canReceive_of_joinSent hp hsent
  · rintro ⟨-, hacks⟩
    exact hledger.room (.inr (.inr (.inr (hledger.acks hacks))))

end Client

example :
    (run Client.step (Client.initial {})
      (joinOnce ++ [.serverJoin, .serverSend newConsumer])).HandlesConsumer
        (.deliver newConsumer (.returns .video)) :=
  ⟨_, _, rfl, by decide, by decide, rfl⟩

end RtcClient.System
