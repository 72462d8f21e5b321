import RtcClient.Engine.CallLog
import RtcClient.Engine.TrackState

/-!
# Tasks on objects that exist

`checkDeviceExists` and `checkTransportExists` throw `IllegalStateException` on a disposed
object (`Device.java:269–273`, `SendTransport.java:63–67`, `RecvTransport.java:27–31`), and a
nulled `mStartupClient` a `NullPointerException`. On an engine whose objects exist no task
gets either of them from there, and the destroy task finds each object it releases.
-/

namespace RtcClient.Native

/-- `Device.java:269–273`. -/
def Device.checkDeviceExists (d : Device) : Except Throwable Unit :=
  if d.disposed then .error .illegalState else .ok ()

/-- `SendTransport.java:63–67`. -/
def SendTransport.checkTransportExists (t : SendTransport) : Except Throwable Unit :=
  if t.disposed then .error .illegalState else .ok ()

/-- `RecvTransport.java:27–31`. -/
def RecvTransport.checkTransportExists (t : RecvTransport) : Except Throwable Unit :=
  if t.disposed then .error .illegalState else .ok ()

end RtcClient.Native

namespace RtcClient.Engine

open RtcClient.Native RtcClient.Store RtcClient.Lib

namespace RtcEngineEx

/-- Every check on an object the engine holds passes, and its client is there. -/
structure ObjectsExist (e : RtcEngineEx) : Prop where
  device : e.mDevice.checkDeviceExists = .ok ()
  send : ∀ t, e.mSendTransport = some t → t.checkTransportExists = .ok ()
  recv : ∀ t, e.mRecvTransport = some t → t.checkTransportExists = .ok ()
  client : e.mStartupClient.isSome

variable {e : RtcEngineEx}

private theorem ObjectsExist.device_eq (h : e.ObjectsExist) : e.mDevice.disposed = false := by
  have hcheck := h.device
  cases hd : e.mDevice.disposed with
  | false => rfl
  | true => simp [Device.checkDeviceExists, hd] at hcheck

private theorem ObjectsExist.send_eq (h : e.ObjectsExist) {t : SendTransport}
    (ht : e.mSendTransport = some t) :
    t.disposed = false := by
  have hcheck := h.send t ht
  cases hd : t.disposed with
  | false => rfl
  | true => simp [SendTransport.checkTransportExists, hd] at hcheck

private theorem ObjectsExist.send_ok (h : e.ObjectsExist) (r : Request) :
    e.send r = .ok (e.request r) := by
  obtain ⟨c, hc⟩ := Option.isSome_iff_exists.mp h.client
  simp only [RtcEngineEx.send, hc]

/-! ### `joinImpl` -/

private theorem threw_awaitThen {α : Type} {r : Reply α} {next : α → JoinPc} {ex : Throwable}
    (h : (e.awaitThen r next).2 = .threw ex) :
    ex = .execution ∨ ex = .nullPointer ∧ r = .noData := by
  cases r with
  | data a => cases h
  | failed =>
    cases h
    exact .inl rfl
  | noData =>
    cases h
    exact .inr ⟨rfl, rfl⟩

private theorem threw_sendThen (h : e.ObjectsExist) {r : Request} {next : JoinNext} {ex : Throwable}
    (ht : (e.sendThen r next).2 = .threw ex) : next = .threw ex := by
  rw [sendThen, h.send_ok r] at ht
  exact ht

private theorem threw_withLoaded (h : e.ObjectsExist) {next : RtcEngineEx × JoinNext}
    {ex : Throwable} (ht : (e.withLoaded next).2 = .threw ex) :
    ex = .mediasoup ∨ next.2 = .threw ex := by
  unfold withLoaded at ht
  split at ht
  · next hr =>
    left
    cases hl : e.mDevice.loaded with
    | true => simp [Device.requireLoaded, h.device_eq, hl] at hr
    | false =>
      simp [Device.requireLoaded, h.device_eq, hl] at hr
      cases ht
      exact hr.symm
  · exact .inr ht

/-- What `joinImpl` throws comes from its replies and from native code, not from a check or a
missing client. -/
theorem ObjectsExist.joinStep_threw (h : e.ObjectsExist) {env : JoinEnv} {pc : JoinPc}
    {ex : Throwable} (ht : (e.joinStep env pc).2 = .threw ex) :
    ex = .mediasoup ∨ ex = .execution ∨
      ex = .nullPointer ∧ (env.capabilities = .noData ∨ env.transport = .noData) := by
  cases pc with
  | start =>
    simp only [joinStep] at ht
    split at ht
    · cases threw_sendThen h ht
    · cases ht
  | awaitRouterRtp =>
    rcases threw_awaitThen ht with hex | ⟨hex, hr⟩
    · exact .inr (.inl hex)
    · exact .inr (.inr ⟨hex, .inl hr⟩)
  | load caps =>
    simp only [joinStep, Device.load, h.device_eq] at ht
    left
    cases hl : e.mDevice.loaded with
    | true =>
      simp [hl] at ht
      exact ht.symm
    | false =>
      cases caps with
      | invalid =>
        simp [hl] at ht
        exact ht.symm
      | valid a v => simp [hl] at ht
  | requestSendTransport =>
    rcases threw_withLoaded h ht with hex | ht
    · exact .inl hex
    · cases threw_sendThen h ht
  | awaitSendTransport =>
    rcases threw_awaitThen ht with hex | ⟨hex, hr⟩
    · exact .inr (.inl hex)
    · exact .inr (.inr ⟨hex, .inr hr⟩)
  | newSendTransport id =>
    cases id with
    | none =>
      cases ht
      exact .inl rfl
    | some id =>
      rcases threw_withLoaded h ht with hex | ht
      · exact .inl hex
      · cases ht
  | requestRecvTransport => cases threw_sendThen h ht
  | awaitRecvTransport =>
    rcases threw_awaitThen ht with hex | ⟨hex, hr⟩
    · exact .inr (.inl hex)
    · exact .inr (.inr ⟨hex, .inr hr⟩)
  | newRecvTransport id =>
    cases id with
    | none =>
      cases ht
      exact .inl rfl
    | some id =>
      rcases threw_withLoaded h ht with hex | ht
      · exact .inl hex
      · cases ht
  | createRoom => cases threw_sendThen h ht
  | joinRoom => cases threw_sendThen h ht
  | awaitJoinRoom =>
    simp only [joinStep] at ht
    split at ht
    · cases ht
      exact .inr (.inl rfl)
    · cases ht
  | joinRoomMediasoup =>
    rcases threw_withLoaded h ht with hex | ht
    · exact .inl hex
    · cases threw_sendThen h ht

/-- The task of the `CREATE_ROOM` listener throws only what its reply makes it throw. -/
theorem ObjectsExist.createRoomMediasoup_thrown (h : e.ObjectsExist) (reply : Reply Unit) :
    (e.createRoomMediasoup reply).thrown =
      match reply with
      | .data _ => none
      | .failed => some .runtime
      | .noData => some .nullPointer := by
  obtain ⟨c, hc⟩ := Option.isSome_iff_exists.mp h.client
  by_cases hp : e.rtcEngineConfig.channelProfile = 1 <;> cases reply <;>
    simp [createRoomMediasoup, hp, RtcEngineEx.send, hc, emit]

/-! ### Media tasks -/

private theorem mStartupClient_write {e e' : RtcEngineEx} (h : MediaWrite e e') :
    e'.mStartupClient = e.mStartupClient := by
  cases h with
  | track tr k => cases k <;> rfl
  | store p =>
    unfold storeProducer
    cases p.kind <;> rfl
  | close p =>
    obtain ⟨_, _, hwrites⟩ := closeProducer_writes _ p
    rw [hwrites]
  | clear k => cases k <;> rfl
  | setData p l => cases l <;> rfl
  | _ => rfl

private theorem produce_threw {t : SendTransport} {kind : Kind} {o : ProduceOutcome}
    {x : RtcEngineEx} {ex : Throwable} (hd : t.disposed = false)
    (h : e.produce t kind o = (x, .error ex)) : ex = .mediasoup ∨ ex = .abort := by
  have hprod := e.produce_step t kind o
  rw [h] at hprod
  cases hprod with
  | disposed hd' =>
    rw [hd] at hd'
    cases hd'
  | failed _ _ => exact .inl rfl
  | refused _ _ _ _ _ => exact .inr rfl

-- The shared `try` block: what it throws is neither a failed check nor a missing client, and
-- a microphone whose produce failed has its track.
private theorem ObjectsExist.tryProduce_threw (h : e.ObjectsExist) {kind : Kind}
    {camera : CameraOutcome} {o : ProduceOutcome} {x : RtcEngineEx} {ex : Throwable}
    (ht : e.tryProduce kind camera o = .threw x ex) :
    ex = .illegalState ∧ kind = .video ∧ camera = .missing ∨
      (ex = .mediasoup ∨ ex = .abort) ∧ (x.mLocalTrack kind).isSome := by
  have hstep := e.tryProduce_step kind camera o
  rw [ht] at hstep
  generalize hexit : Exit.threw x ex = exit at hstep
  cases hstep with
  | returned _ => cases hexit
  | threw hfail =>
    cases hexit
    rcases hfail with hd | ⟨hkind, -, hcamera⟩
    · rw [h.device_eq] at hd
      cases hd
    · exact .inl ⟨rfl, hkind, hcamera⟩
  | produced t hattempts =>
    right
    have htrack := (e.withTrack kind).mLocalTrack_produce t kind kind o
    cases hproduce : (e.withTrack kind).produce t kind o with
    | mk y r =>
      rw [hproduce] at hexit htrack
      cases r with
      | ok p => cases hexit
      | error ex' =>
        cases hexit
        refine ⟨produce_threw (h.send_eq hattempts.transport) hproduce, ?_⟩
        rw [htrack]
        cases kind <;> rfl

private theorem ObjectsExist.enableCameraImpl_thrown (h : e.ObjectsExist) {camera : CameraOutcome}
    {o : ProduceOutcome} {available : Bool} {ex : Throwable}
    (ht : (e.enableCameraImpl camera o available).thrown = some ex) :
    ex = .abort ∨ ex = .illegalState ∧ camera = .missing := by
  have hexist : (e.setCamInProgress true).ObjectsExist := ⟨h.device, h.send, h.recv, h.client⟩
  have hclient := ((e.setCamInProgress true).writes_tryProduce .video camera o).writes.keeps
    mStartupClient fun _ _ hw ↦ mStartupClient_write hw
  have hafter : ∀ x : RtcEngineEx, x.mStartupClient = e.mStartupClient →
      (x.afterCamera available).thrown = none := by
    intro x hx
    apply x.thrown_afterCamera
    rw [hx]
    exact h.client
  unfold enableCameraImpl at ht
  split at ht
  · cases ht
  · next x hx =>
    rw [hx] at hclient
    rw [hafter x hclient] at ht
    cases ht
  · next x hx =>
    rw [hx] at hclient
    rw [hafter (x.setTrackEnabled .video false) hclient] at ht
    cases ht
  · next x ex' hne hx =>
    cases ht
    rcases hexist.tryProduce_threw hx with ⟨hex, -, hcamera⟩ | ⟨hex | hex, -⟩
    · exact .inr ⟨hex, hcamera⟩
    · exact absurd hex hne
    · exact .inl hex

private theorem ObjectsExist.enableAudioImpl_thrown (h : e.ObjectsExist) {o : ProduceOutcome}
    {ex : Throwable} (ht : (e.enableAudioImpl o).thrown = some ex) : ex = .abort := by
  unfold enableAudioImpl at ht
  split at ht
  · cases ht
  · cases ht
  · cases ht
    rfl
  · next x ex' _ hx =>
    rcases h.tryProduce_threw hx with ⟨-, hkind, -⟩ | ⟨-, htrack⟩
    · cases hkind
    · obtain ⟨tr, htr⟩ := Option.isSome_iff_exists.mp htrack
      have haudio : x.mLocalAudioTrack = some tr := htr
      simp [audioFailed, haudio] at ht

/-- A media task that ends with an exception ends with an abort of native code, or without a
camera. -/
theorem ObjectsExist.runMediaTask_thrown (h : e.ObjectsExist) {env : Environment}
    {task : MediaTask} {ex : Throwable} (ht : (e.runMediaTask env task).thrown = some ex) :
    ex = .abort ∨ ex = .illegalState ∧ env.camera = .missing := by
  cases task with
  | setupLocalVideo =>
    simp only [runMediaTask, setupLocalVideo] at ht
    by_cases hc : Kind.video = .video → e.mLocalVideoTrack = none → env.camera = .opened
    · rw [e.ensureTrack_ok .video env.camera hc] at ht
      cases ht
    · rw [e.ensureTrack_error hc] at ht
      cases ht
      simp only [not_forall] at hc
      obtain ⟨-, -, hcamera⟩ := hc
      cases hcam : env.camera with
      | opened => exact absurd hcam hcamera
      | missing => exact .inr ⟨rfl, rfl⟩
  | enable kind =>
    cases kind with
    | video => exact h.enableCameraImpl_thrown ht
    | audio => exact .inl (h.enableAudioImpl_thrown ht)
  | disable kind => cases kind <;> cases ht
  | enableData label =>
    left
    have hdata : (e.enableDataProducer label env.produce).thrown = some ex := by
      cases label <;> exact ht
    unfold enableDataProducer at hdata
    split at hdata
    · cases hdata
    · split at hdata
      · cases hdata
      · split at hdata <;> cases hdata
        rfl

/-! ### The destroy task -/

/-- `disposeTransportDevice` with the checks of the objects it closes and disposes;
`RtcEngineEx.java:1361–1378`. -/
def checkedDisposeTransportDevice (e : RtcEngineEx) : Except Throwable RtcEngineEx := do
  e.mSendTransport.forM SendTransport.checkTransportExists
  let e := e.disposeSendTransport
  e.mRecvTransport.forM RecvTransport.checkTransportExists
  let e := e.disposeRecvTransport
  e.mDevice.checkDeviceExists
  return { e with mDevice := { e.mDevice with disposed := true } }.emit .disposeDevice

/-- The destroy task with these checks; `RtcEngineEx.java:1322–1358`. -/
def checkedDestroyTask (e : RtcEngineEx) : Except Throwable RtcEngineEx := do
  let e ← e.releaseStartupClient.checkedDisposeTransportDevice
  return e.disposeLocalTracks.releaseConsumers

private theorem disposeSendTransport_rest :
    e.disposeSendTransport.mRecvTransport = e.mRecvTransport ∧
      e.disposeSendTransport.mDevice = e.mDevice := by
  unfold disposeSendTransport
  split
  · exact ⟨rfl, rfl⟩
  · next t _ => exact (e.closeSendTransport_keeps t).2

private theorem disposeRecvTransport_mDevice : e.disposeRecvTransport.mDevice = e.mDevice := by
  unfold disposeRecvTransport
  split
  · rfl
  · next t _ => exact (e.closeRecvTransport_keeps t).2

/-- The destroy task finds every object it closes or disposes. -/
theorem ObjectsExist.checkedDestroyTask_eq (h : e.ObjectsExist) :
    e.checkedDestroyTask = .ok e.destroyTask := by
  have hsame : e.releaseStartupClient.mSendTransport = e.mSendTransport ∧
      e.releaseStartupClient.mRecvTransport = e.mRecvTransport ∧
      e.releaseStartupClient.mDevice = e.mDevice := by
    unfold releaseStartupClient
    split <;> exact ⟨rfl, rfl, rfl⟩
  have hsend : e.mSendTransport.forM SendTransport.checkTransportExists = .ok () := by
    cases ht : e.mSendTransport with
    | none => rfl
    | some t => exact h.send t ht
  have hrecv : e.mRecvTransport.forM RecvTransport.checkTransportExists = .ok () := by
    cases ht : e.mRecvTransport with
    | none => rfl
    | some t => exact h.recv t ht
  unfold checkedDestroyTask checkedDisposeTransportDevice destroyTask disposeTransportDevice
  simp only [hsame, disposeSendTransport_rest, disposeRecvTransport_mDevice, hsend, hrecv, h.device]
  rfl

end RtcEngineEx

end RtcClient.Engine
