import RtcClient.Engine.Destroy
import RtcClient.Engine.Links
import RtcClient.Engine.MediaWrites
import RtcClient.Lib.Run

/-!
# Which task makes which call

The log of outgoing calls grows at its end. This module says for each handler and task what
it can add: notifications add callbacks, media tasks their own requests, `joinImpl` and the
task of the `CREATE_ROOM` listener the requests that set up a room, and the destroy task the
releases (`RtcEngineEx.java:1318–1378`).
-/

namespace RtcClient.Engine

open RtcClient.Native RtcClient.Store RtcClient.Lib

/-- The requests that set up a room; `RtcServer.java:16–26`. -/
inductive RoomRequest where
  | createRoom
  | createRoomMediasoup
  | joinRoom
  | joinRoomMediasoup
  deriving DecidableEq, Repr

namespace Call

/-- The room request a call is, if it is one. -/
def room : Call → Option RoomRequest
  | .request (.createRoom _) => some .createRoom
  | .request (.createRoomMediasoup _) => some .createRoomMediasoup
  | .request (.joinRoom _ _ _) => some .joinRoom
  | .request (.joinRoomMediasoup _ _ _) => some .joinRoomMediasoup
  | _ => none

/-- The call releases a native object or the network client. -/
def releases : Call → Bool
  | .closeStartupClient | .disposeSendTransport | .disposeRecvTransport | .disposeDevice => true
  | _ => false

/-- Neither a room request nor a release. -/
def Ordinary (c : Call) : Prop := c.room = none ∧ c.releases = false

/-- The call hands over the body of a room, or changes one that has been handed over. -/
def creates : Call → Bool
  | .request (.createRoom _) | .request (.createRoomMediasoup _) | .createRoomPut _ _ => true
  | _ => false

/-- Ordinary, and about no body of a room. -/
def Plain (c : Call) : Prop := c.Ordinary ∧ c.creates = false

private theorem OfMedia.plain {c : Call} (h : c.OfMedia) : c.Plain := by
  cases c with
  | request r => cases r <;> first | exact ⟨⟨rfl, rfl⟩, rfl⟩ | exact absurd h id
  | callback cb => exact ⟨⟨rfl, rfl⟩, rfl⟩
  | answered k id => exact ⟨⟨rfl, rfl⟩, rfl⟩
  | produced p => exact ⟨⟨rfl, rfl⟩, rfl⟩
  | producedData p => exact ⟨⟨rfl, rfl⟩, rfl⟩
  | _ => exact absurd h id

end Call

namespace RtcEngineEx

/-- The room requests sent so far, oldest first. -/
def roomRequests (e : RtcEngineEx) : List RoomRequest := e.calls.filterMap Call.room

/-- The releases so far, oldest first. -/
def released (e : RtcEngineEx) : List Call := e.calls.filter Call.releases

/-- Room requests and releases are as before. -/
structure Uneventful (e e' : RtcEngineEx) : Prop where
  roomRequests : e'.roomRequests = e.roomRequests
  released : e'.released = e.released

namespace Uneventful

variable {e e' e'' : RtcEngineEx}

/-- Only ordinary calls were added. -/
theorem of_append (cs : List Call) (h : e'.calls = e.calls ++ cs) (hcs : ∀ c ∈ cs, c.Ordinary) :
    Uneventful e e' := by
  constructor
  · have hnil : cs.filterMap Call.room = [] := List.filterMap_eq_nil_iff.mpr fun c hc ↦ (hcs c hc).1
    unfold RtcEngineEx.roomRequests
    rw [h, List.filterMap_append, hnil, List.append_nil]
  · have hnil : cs.filter Call.releases = [] := by
      apply List.filter_eq_nil_iff.mpr
      intro c hc
      simp [(hcs c hc).2]
    unfold RtcEngineEx.released
    rw [h, List.filter_append, hnil, List.append_nil]

/-- No call was made. -/
theorem of_eq (h : e'.calls = e.calls) : Uneventful e e' :=
  of_append [] (by rw [h, List.append_nil]) (by simp)

private theorem refl (e : RtcEngineEx) : Uneventful e e := of_eq rfl

private theorem trans (h : Uneventful e e') (h' : Uneventful e' e'') : Uneventful e e'' :=
  ⟨h'.roomRequests.trans h.roomRequests, h'.released.trans h.released⟩

/-- One ordinary call was made. -/
theorem of_call {c : Call} (hc : c.Ordinary) (h : e'.calls = e.calls ++ [c]) : Uneventful e e' :=
  of_append [c] h (by simpa using hc)

/-- The application was called. -/
theorem of_callback (cb : Callback) (h : e'.calls = e.calls ++ [.callback cb]) : Uneventful e e' :=
  of_call ⟨rfl, rfl⟩ h

end Uneventful

/-- The configuration is as before and the log has grown at its end, by calls that satisfy
`P`. -/
structure Adds (P : Call → Prop) (e e' : RtcEngineEx) : Prop where
  config : e'.rtcEngineConfig = e.rtcEngineConfig
  log : ∃ cs, e'.calls = e.calls ++ cs ∧ ∀ c ∈ cs, P c

namespace Adds

variable {P Q : Call → Prop} {e e' e'' : RtcEngineEx}

/-- No call was made. -/
theorem of_eq (h : e'.calls = e.calls) (hc : e'.rtcEngineConfig = e.rtcEngineConfig := by rfl) :
    Adds P e e' :=
  ⟨hc, [], by rw [h, List.append_nil], by simp⟩

/-- Nothing is added. -/
theorem refl (e : RtcEngineEx) : Adds P e e := of_eq rfl

/-- What is added twice. -/
theorem trans (h : Adds P e e') (h' : Adds P e' e'') : Adds P e e'' := by
  obtain ⟨hc, cs, hcs, hP⟩ := h
  obtain ⟨hc', cs', hcs', hP'⟩ := h'
  refine ⟨hc'.trans hc, cs ++ cs', by rw [hcs', hcs, List.append_assoc], ?_⟩
  intro c hc
  exact (List.mem_append.mp hc).elim (hP c) (hP' c)

/-- A weaker description of what is added. -/
theorem imp (h : Adds P e e') (hPQ : ∀ c, P c → Q c) : Adds Q e e' := by
  obtain ⟨hc, cs, hcs, hP⟩ := h
  exact ⟨hc, cs, hcs, fun c hc ↦ hPQ c (hP c hc)⟩

/-- One call was made. -/
theorem of_call {c : Call} (hc : P c) (h : e'.calls = e.calls ++ [c])
    (hconfig : e'.rtcEngineConfig = e.rtcEngineConfig := by rfl) : Adds P e e' :=
  ⟨hconfig, [c], h, by simpa using hc⟩

/-- The application was called. -/
theorem of_callback (cb : Callback) (h : e'.calls = e.calls ++ [.callback cb])
    (hconfig : e'.rtcEngineConfig = e.rtcEngineConfig := by rfl) : Adds Call.Plain e e' :=
  of_call ⟨⟨rfl, rfl⟩, rfl⟩ h hconfig

/-- Plain calls are no events. -/
theorem uneventful (h : Adds Call.Plain e e') : Uneventful e e' := by
  obtain ⟨-, cs, hcs, hplain⟩ := h
  exact .of_append cs hcs fun c hc ↦ (hplain c hc).1

/-- No release was made. -/
theorem released (h : Adds (fun c ↦ c.releases = false) e e') : e'.released = e.released := by
  obtain ⟨-, cs, hcs, hP⟩ := h
  have hnil : cs.filter Call.releases = [] := by
    apply List.filter_eq_nil_iff.mpr
    intro c hc
    simp [hP c hc]
  rw [RtcEngineEx.released, hcs, List.filter_append, hnil, List.append_nil]
  rfl

end Adds

variable (e : RtcEngineEx)

/-- Notifications only call the application. -/
theorem adds_handleNotification (n : Notification) (o : RecvTransport.ConsumeOutcome) :
    Adds Call.Plain e (e.handleNotification n o).engine := by
  cases n with
  | userConsumerClosed consumerId kind =>
    simp only [handleNotification, onConsumerClosed]
    split
    · exact .refl e
    · next holder _ =>
      have hclose := closeConsumer_calls
        { e with mConsumers := e.mConsumers.erase consumerId } holder.mConsumer
      have hconfig := closeConsumer_rtcEngineConfig
        { e with mConsumers := e.mConsumers.erase consumerId } holder.mConsumer
      split
      · exact .of_callback _ (congrArg (· ++ [_]) hclose) hconfig
      · exact .of_eq hclose hconfig
  | createUserConsumer msg =>
    simp only [handleNotification]
    cases hc : e.consumed msg o with
    | none =>
      rw [e.onNewConsumer_of_none hc]
      exact .refl e
    | some c =>
      obtain ⟨-, t, -, hr⟩ := e.onNewConsumer_of_some hc
      rw [hr]
      simp only [addConsumer]
      split
      · exact .of_callback _ rfl
      · exact .of_eq rfl
  | createUserTextConsumer msg =>
    simp only [handleNotification]
    cases hd : e.consumedData msg o with
    | none =>
      rw [e.onNewDataConsumer_of_none hd]
      exact .refl e
    | some d =>
      obtain ⟨-, t, -, hr⟩ := e.onNewDataConsumer_of_some hd
      rw [hr]
      exact .of_eq rfl
  | consumerLayersChanged => exact .refl e
  | consumerScore => exact .refl e
  | producerScore => exact .refl e
  | _ => exact .of_callback _ rfl

/-- The join reply makes no call. -/
theorem adds_onJoinReply (users : List PeerInfo) : Adds Call.Plain e (e.onJoinReply users) := by
  rw [onJoinReply_eq]
  exact .of_eq rfl

/-- Media tasks neither set up a room nor release anything. -/
theorem adds_runMediaTask (env : Environment) (task : MediaTask) :
    Adds Call.Plain e (e.runMediaTask env task).engine := by
  obtain ⟨cs, hcalls, hcs⟩ := e.runMediaTask_calls env task
  have hframe := (e.runMediaTask_step env task).frame
  exact ⟨hframe.rtcEngineConfig, cs, hcalls, fun c hc ↦ (hcs c hc).plain⟩

/-- A task of the media thread calls back nothing but plain calls. -/
theorem uneventful_runMediaTask (env : Environment) (task : MediaTask) :
    Uneventful e (e.runMediaTask env task).engine :=
  (e.adds_runMediaTask env task).uneventful

/-! ### Joining -/

/-- The room request at each statement of `joinImpl`; `RtcEngineEx.java:310,346,367`. -/
def joinRequests : JoinPc → List RoomRequest
  | .createRoom => [.createRoom]
  | .joinRoom => [.joinRoom]
  | .joinRoomMediasoup => [.joinRoomMediasoup]
  | _ => []

/-- The request each statement of `joinImpl` sends, if it sends one. -/
def joinRequest (e : RtcEngineEx) : JoinPc → Option Request
  | .start => some (.getRouterRtpCapabilities e.serverRoomId e.rtcEngineConfig.userId)
  | .requestSendTransport => some .createSendTransport
  | .requestRecvTransport => some (.createRecvTransport e.rtcEngineConfig.userId e.serverRoomId)
  | .createRoom => some (.createRoom e.createRoomBody)
  | .joinRoom => some (.joinRoom e.serverRoomId e.rtcEngineConfig.userId
      (e.rtcEngineConfig.channelProfile = 1))
  | .joinRoomMediasoup => some (.joinRoomMediasoup e.rtcEngineConfig.displayName e.serverRoomId
      e.rtcEngineConfig.userId)
  | _ => none

/-- What a statement of `joinImpl` may add to the log: the error callback, or its request. -/
def OfJoin (e : RtcEngineEx) (pc : JoinPc) (c : Call) : Prop :=
  c = .callback (.onError .connectionLost) ∨ ∃ r, e.joinRequest pc = some r ∧ c = .request r

private theorem adds_sendThen {pc : JoinPc} {r : Request} (hr : e.joinRequest pc = some r)
    (next : JoinNext) : Adds (e.OfJoin pc) e (e.sendThen r next).1 := by
  unfold sendThen send
  cases e.mStartupClient with
  | none => exact .refl e
  | some c => exact .of_call (.inr ⟨r, hr, rfl⟩) rfl

private theorem adds_awaitThen {α : Type} {P : Call → Prop} (r : Reply α) (next : α → JoinPc) :
    Adds P e (e.awaitThen r next).1 := by
  cases r <;> exact .refl e

private theorem adds_withLoaded {P : Call → Prop} {next : RtcEngineEx × JoinNext}
    (h : Adds P e next.1) : Adds P e (e.withLoaded next).1 := by
  unfold withLoaded
  split
  · exact .refl e
  · exact h

/-- A statement of `joinImpl` adds nothing but that. -/
theorem adds_joinStep (env : JoinEnv) (pc : JoinPc) :
    Adds (e.OfJoin pc) e (e.joinStep env pc).1 := by
  cases pc with
  | start =>
    simp only [joinStep]
    split
    · exact e.adds_sendThen rfl _
    · exact .of_call (.inl rfl) rfl
  | load caps =>
    simp only [joinStep]
    split <;> exact .of_eq rfl
  | awaitJoinRoom =>
    simp only [joinStep]
    split <;> exact .refl e
  | newSendTransport id =>
    cases id with
    | none => exact .refl e
    | some id => exact e.adds_withLoaded (.of_eq rfl)
  | newRecvTransport id =>
    cases id with
    | none => exact .refl e
    | some id => exact e.adds_withLoaded (.of_eq rfl)
  | requestSendTransport => exact e.adds_withLoaded (e.adds_sendThen rfl _)
  | joinRoomMediasoup => exact e.adds_withLoaded (e.adds_sendThen rfl _)
  | awaitRouterRtp => exact e.adds_awaitThen _ _
  | awaitSendTransport => exact e.adds_awaitThen _ _
  | awaitRecvTransport => exact e.adds_awaitThen _ _
  | requestRecvTransport => exact e.adds_sendThen rfl _
  | createRoom => exact e.adds_sendThen rfl _
  | joinRoom => exact e.adds_sendThen rfl _

/-- `joinImpl` releases nothing. -/
theorem released_joinStep (env : JoinEnv) (pc : JoinPc) :
    (e.joinStep env pc).1.released = e.released := by
  refine ((e.adds_joinStep env pc).imp ?_).released
  rintro c (rfl | ⟨r, -, rfl⟩) <;> rfl

/-- The fields that the task of the `CREATE_ROOM` listener puts into the body of `CREATE_ROOM`. -/
def createRoomPuts (e : RtcEngineEx) : List Call :=
  if e.rtcEngineConfig.channelProfile = 1 then
    [.createRoomPut "frameWidth" (.int 1920), .createRoomPut "frameHeight" (.int 1080),
      .createRoomPut "backGroundUrl" (.ofOption e.rtcEngineConfig.backgroundUrl)]
  else []

/-- What the task of the `CREATE_ROOM` listener adds to the log. -/
theorem createRoomMediasoup_log (h : e.mStartupClient.isSome) (reply : Reply Unit) :
    (e.createRoomMediasoup reply).engine.calls =
      e.calls ++ (e.createRoomPuts ++ [.request (.createRoomMediasoup e.roomBody)]) := by
  obtain ⟨c, hc⟩ := Option.isSome_iff_exists.mp h
  by_cases hp : e.rtcEngineConfig.channelProfile = 1 <;> cases reply <;>
    simp [createRoomMediasoup, createRoomPuts, hp, send, hc, request, emit]

/-- The task of the `CREATE_ROOM` listener sends one room request. -/
theorem roomRequests_createRoomMediasoup (h : e.mStartupClient.isSome) (reply : Reply Unit) :
    (e.createRoomMediasoup reply).engine.roomRequests =
      e.roomRequests ++ [.createRoomMediasoup] := by
  obtain ⟨c, hc⟩ := Option.isSome_iff_exists.mp h
  by_cases hp : e.rtcEngineConfig.channelProfile = 1 <;> cases reply <;>
    simp [createRoomMediasoup, hp, send, hc, request, emit, roomRequests, List.filterMap_cons,
      Call.room]

/-- It releases nothing. -/
theorem released_createRoomMediasoup (reply : Reply Unit) :
    (e.createRoomMediasoup reply).engine.released = e.released := by
  by_cases hp : e.rtcEngineConfig.channelProfile = 1 <;> cases hc : e.mStartupClient <;>
    cases reply <;>
    simp [createRoomMediasoup, hp, send, hc, request, emit, released, Call.releases]

/-! ### The destroy task -/

/-- Closing the send transport calls only listeners, none of which touches the device or the
receive transport. -/
theorem closeSendTransport_keeps (t : SendTransport) :
    (e.closeSendTransport t).calls = e.calls ∧
      (e.closeSendTransport t).mRecvTransport = e.mRecvTransport ∧
      (e.closeSendTransport t).mDevice = e.mDevice := by
  obtain ⟨_, _, _, _, _, _, _, _, hwrites⟩ := e.closeSendTransport_writes t
  rw [hwrites]
  exact ⟨rfl, rfl, rfl⟩

/-- So does closing the receive transport. -/
theorem closeRecvTransport_keeps (t : RecvTransport) :
    (e.closeRecvTransport t).calls = e.calls ∧ (e.closeRecvTransport t).mDevice = e.mDevice := by
  obtain ⟨_, _, _, _, hwrites⟩ := e.closeRecvTransport_writes t
  rw [hwrites]
  exact ⟨rfl, rfl⟩

/-- Calls of the destroy task up to the walk over `mConsumers`, in their order. -/
def releaseCalls (e : RtcEngineEx) : List Call :=
  (if e.mStartupClient.isSome then [Call.closeStartupClient, Call.processorsClear] else []) ++
    (if e.mSendTransport.isSome then [Call.disposeSendTransport] else []) ++
    (if e.mRecvTransport.isSome then [Call.disposeRecvTransport] else []) ++ [Call.disposeDevice]

private theorem releaseStartupClient_calls :
    e.releaseStartupClient.calls = e.calls ++
        (if e.mStartupClient.isSome then [.closeStartupClient, .processorsClear] else []) ∧
      e.releaseStartupClient.mSendTransport = e.mSendTransport ∧
      e.releaseStartupClient.mRecvTransport = e.mRecvTransport := by
  unfold releaseStartupClient
  cases e.mStartupClient with
  | none => exact ⟨by simp, rfl, rfl⟩
  | some c => exact ⟨by simp [emit], rfl, rfl⟩

private theorem disposeSendTransport_calls :
    e.disposeSendTransport.calls = e.calls ++
        (if e.mSendTransport.isSome then [.disposeSendTransport] else []) ∧
      e.disposeSendTransport.mRecvTransport = e.mRecvTransport := by
  unfold disposeSendTransport
  cases ht : e.mSendTransport with
  | none => exact ⟨by simp, rfl⟩
  | some t =>
    obtain ⟨hcalls, hrecv, -⟩ := e.closeSendTransport_keeps t
    exact ⟨by simp [emit, hcalls], hrecv⟩

private theorem disposeRecvTransport_calls :
    e.disposeRecvTransport.calls = e.calls ++
      if e.mRecvTransport.isSome then [.disposeRecvTransport] else [] := by
  unfold disposeRecvTransport
  cases e.mRecvTransport with
  | none => simp
  | some t => simp [emit, (e.closeRecvTransport_keeps t).1]

private theorem releaseConsumers_calls :
    ∃ cs, e.releaseConsumers.calls = e.calls ++ cs ∧ ∀ c ∈ cs, c.Plain := by
  unfold releaseConsumers
  induction e.mConsumers.toList generalizing e with
  | nil => exact ⟨[], by simp, by simp⟩
  | cons kv l ih =>
    obtain ⟨cs, hcalls, hcs⟩ := ih (e.releaseConsumer kv.1 kv.2)
    rw [List.foldl_cons, hcalls]
    unfold releaseConsumer
    by_cases hk : kv.2.mConsumer.kind = .video
    · refine ⟨[.trackSetEnabled kv.2.mConsumer.ref false, .trackDispose kv.2.mConsumer.ref] ++ cs,
        by simp [hk, emit], ?_⟩
      intro c hc
      rcases List.mem_append.mp hc with hc | hc
      · simp only [List.mem_cons, List.not_mem_nil, or_false] at hc
        rcases hc with rfl | rfl <;> exact ⟨⟨rfl, rfl⟩, rfl⟩
      · exact hcs c hc
    · exact ⟨cs, by simp [hk], hcs⟩

/-- The destroy task releases each object that is there once, in order, and then only touches
tracks of consumers. -/
theorem destroyTask_plain :
    ∃ cs, e.destroyTask.calls = e.calls ++ e.releaseCalls ++ cs ∧ ∀ c ∈ cs, c.Plain := by
  obtain ⟨hclient, hsend, hrecv⟩ := e.releaseStartupClient_calls
  obtain ⟨hsendCalls, hsendRecv⟩ := e.releaseStartupClient.disposeSendTransport_calls
  have hrecvCalls := e.releaseStartupClient.disposeSendTransport.disposeRecvTransport_calls
  have hdispose :
      e.releaseStartupClient.disposeTransportDevice.calls = e.calls ++ e.releaseCalls := by
    change e.releaseStartupClient.disposeSendTransport.disposeRecvTransport.calls ++
      [.disposeDevice] = _
    rw [hrecvCalls, hsendRecv, hrecv, hsendCalls, hsend, hclient]
    simp [releaseCalls]
  obtain ⟨cs, hcalls, hcs⟩ :=
    e.releaseStartupClient.disposeTransportDevice.disposeLocalTracks.releaseConsumers_calls
  refine ⟨cs, ?_, hcs⟩
  rw [destroyTask, hcalls, ← hdispose]
  rfl

private theorem destroyTask_calls :
    ∃ cs, e.destroyTask.calls = e.calls ++ e.releaseCalls ++ cs ∧ ∀ c ∈ cs, c.Ordinary := by
  obtain ⟨cs, hcalls, hcs⟩ := e.destroyTask_plain
  exact ⟨cs, hcalls, fun c hc ↦ (hcs c hc).1⟩

private theorem destroyTask_rtcEngineConfig :
    e.destroyTask.rtcEngineConfig = e.rtcEngineConfig := by
  have hclient : e.releaseStartupClient.rtcEngineConfig = e.rtcEngineConfig := by
    unfold releaseStartupClient
    cases e.mStartupClient <;> rfl
  have hsend : ∀ x : RtcEngineEx, x.disposeSendTransport.rtcEngineConfig = x.rtcEngineConfig := by
    intro x
    unfold disposeSendTransport
    cases x.mSendTransport with
    | none => rfl
    | some t =>
      obtain ⟨_, _, _, _, _, _, _, _, hwrites⟩ := x.closeSendTransport_writes t
      simp only [hwrites]
      rfl
  have hrecv : ∀ x : RtcEngineEx, x.disposeRecvTransport.rtcEngineConfig = x.rtcEngineConfig := by
    intro x
    unfold disposeRecvTransport
    cases x.mRecvTransport with
    | none => rfl
    | some t =>
      obtain ⟨_, _, _, _, hwrites⟩ := x.closeRecvTransport_writes t
      simp only [hwrites]
      rfl
  have hconsumers : ∀ x : RtcEngineEx, x.releaseConsumers.rtcEngineConfig = x.rtcEngineConfig := by
    intro x
    refine foldl_keeps RtcEngineEx.rtcEngineConfig _ _ fun y kv ↦ ?_
    unfold releaseConsumer
    split <;> rfl
  rw [destroyTask, hconsumers]
  exact (hrecv _).trans ((hsend _).trans hclient)

/-- The destroy task hands over no body and changes none. -/
theorem adds_destroyTask : Adds (fun c ↦ c.creates = false) e e.destroyTask := by
  obtain ⟨cs, hcalls, hcs⟩ := e.destroyTask_plain
  have hreleases : ∀ c ∈ e.releaseCalls, c.creates = false := by
    unfold releaseCalls
    split <;> split <;> split <;> simp [Call.creates]
  refine ⟨e.destroyTask_rtcEngineConfig, e.releaseCalls ++ cs,
    by rw [hcalls, List.append_assoc], ?_⟩
  intro c hc
  rcases List.mem_append.mp hc with hc | hc
  · exact hreleases c hc
  · exact (hcs c hc).2

/-- The destroy task sends no request. -/
theorem roomRequests_destroyTask : e.destroyTask.roomRequests = e.roomRequests := by
  obtain ⟨cs, hcalls, hcs⟩ := e.destroyTask_calls
  have hnone : ∀ c ∈ e.releaseCalls, c.room = none := by
    unfold releaseCalls
    split <;> split <;> split <;> simp [Call.room]
  unfold roomRequests
  rw [hcalls, List.filterMap_append, List.filterMap_append,
    List.filterMap_eq_nil_iff.mpr hnone, List.filterMap_eq_nil_iff.mpr fun c hc ↦ (hcs c hc).1,
    List.append_nil, List.append_nil]

/-- What the destroy task releases. -/
theorem released_destroyTask :
    e.destroyTask.released = e.released ++ e.releaseCalls.filter Call.releases := by
  obtain ⟨cs, hcalls, hcs⟩ := e.destroyTask_calls
  have hnil : cs.filter Call.releases = [] := by
    apply List.filter_eq_nil_iff.mpr
    intro c hc
    simp [(hcs c hc).2]
  unfold released
  rw [hcalls, List.filter_append, List.filter_append, hnil, List.append_nil]

end RtcEngineEx

end RtcClient.Engine
