import RtcClient.Engine.LocalMedia

/-!
# What the media tasks can do, branch by branch

A native produce, the `try` block of the two enable tasks, what follows it, and the tasks of
the data producers, each with everything it can leave behind and when
(`RtcEngineEx.java:406–505,602–688`, `SendTransport.java:107–168`). Whatever holds of all
media tasks is proved by cases on these steps.
-/

namespace RtcClient.Engine

open RtcClient.Native RtcClient.Store

/-- Engine at the end of a `try` body. -/
def Exit.engine : Exit → RtcEngineEx
  | .completed e => e
  | .returned e => e
  | .threw e _ => e

/-- How an enable block ends after the native produce. -/
def Exit.ofProduce : RtcEngineEx × Except Throwable Producer → Exit
  | (e, .error ex) => .threw e ex
  | (e, .ok p) => .completed (e.storeProducer p)

namespace RtcEngineEx

/-- Append several outgoing calls. -/
def emitAll (e : RtcEngineEx) (cs : List Call) : RtcEngineEx :=
  { e with calls := e.calls ++ cs }

/-- No events, no change. -/
theorem emitAll_nil (e : RtcEngineEx) : e.emitAll [] = e := by
  simp [emitAll]

private theorem emit_eq_emitAll (e : RtcEngineEx) (c : Call) : e.emit c = e.emitAll [c] := rfl

/-- The id a native produce files its object under, if it returns one. -/
def producedId (e : RtcEngineEx) : ProduceOutcome → Option String
  | .throws => none
  | .asks answer =>
    if e.mClosed then some ""
    else if e.mStartupClient.isNone then none
    else
      match answer with
      | .id s => some s
      | .malformed => some ""
      | .failed => none

/-- The device is usable and can send this kind. -/
def CanSend (e : RtcEngineEx) (kind : Kind) : Prop :=
  e.mDevice.disposed = false ∧ e.mDevice.loaded = true ∧ e.mDevice.canProduce kind = .ok true

/-- An enable block for this kind gets as far as the native produce on this transport. -/
structure Attempts (e : RtcEngineEx) (kind : Kind) (camera : CameraOutcome) (t : SendTransport) :
    Prop where
  noProducer : e.mProducer kind = none
  canSend : e.CanSend kind
  camera : kind = .video → e.mLocalVideoTrack = none → camera = .opened
  transport : e.mSendTransport = some t

/-- The engine with a track of this kind, a new one if there was none. -/
def withTrack (e : RtcEngineEx) (kind : Kind) : RtcEngineEx :=
  e.setLocalTrack (some ((e.mLocalTrack kind).getD { enabled := true })) kind

/-! ### The native produce -/

/-- Calls of one `onProduce`. -/
def askCalls (e : RtcEngineEx) (transportId : String) (kind : Kind) (answer : Answer) : List Call :=
  if e.mClosed ∨ e.mStartupClient.isNone then []
  else .request (.createUserProduce transportId kind e.serverRoomId e.rtcEngineConfig.userId) ::
    match answer with
    | .id s => [.answered kind s]
    | _ => []

/-- Calls of one `onProduceData`. -/
def askDataCalls (e : RtcEngineEx) (transportId : String) (label : Label) : List Call :=
  if e.mClosed ∨ e.mStartupClient.isNone then []
  else [.request (.createUserTextProduce transportId label e.serverRoomId e.rtcEngineConfig.userId)]

variable (e : RtcEngineEx)

/-- The listener only sends, and its result is the id the object is filed under. -/
theorem onProduce_eq (transportId : String) (kind : Kind) (answer : Answer) :
    e.onProduce transportId kind answer =
      (e.emitAll (e.askCalls transportId kind answer),
        match e.producedId (.asks answer) with
        | some id => .ok id
        | none => .error .abort) := by
  unfold onProduce askCalls producedId send
  by_cases hc : e.mClosed
  · simp [hc, emitAll_nil]
  · cases hs : e.mStartupClient with
    | none => simp [hc, emitAll_nil]
    | some r => cases answer <;> simp [hc, request, emit_eq_emitAll, emitAll]

/-- The same for `onProduceData`. -/
theorem onProduceData_eq (transportId : String) (label : Label) (answer : Answer) :
    e.onProduceData transportId label answer =
      (e.emitAll (e.askDataCalls transportId label),
        match e.producedId (.asks answer) with
        | some id => .ok id
        | none => .error .abort) := by
  unfold onProduceData askDataCalls producedId send
  by_cases hc : e.mClosed
  · simp [hc, emitAll_nil]
  · cases hs : e.mStartupClient with
    | none => simp [hc, emitAll_nil]
    | some r => cases answer <;> simp [hc, request, emit_eq_emitAll, emitAll]

/-- Everything a native produce can do: throw before it asks, get no id from its listener, or
file a new producer. -/
inductive ProduceStep (t : SendTransport) (kind : Kind) (o : ProduceOutcome) :
    RtcEngineEx × Except Throwable Producer → Prop
  | disposed (hd : t.disposed = true) : ProduceStep t kind o (e, .error .illegalState)
  | failed (hd : t.disposed = false) (h : t.closed = true ∨ o = .throws) :
      ProduceStep t kind o (e, .error .mediasoup)
  | refused (answer : Answer) (ho : o = .asks answer) (hd : t.disposed = false)
      (hcl : t.closed = false) (hid : e.producedId o = none) :
      ProduceStep t kind o (e.emitAll (e.askCalls t.id kind answer), .error .abort)
  | filed (answer : Answer) (id : String) (ho : o = .asks answer) (hd : t.disposed = false)
      (hcl : t.closed = false) (hid : e.producedId o = some id) :
      ProduceStep t kind o
        ((e.emitAll (e.askCalls t.id kind answer)).fileProducer t ⟨e.nextRef, id, kind⟩,
          .ok ⟨e.nextRef, id, kind⟩)

/-- A native produce is one of these steps. -/
theorem produce_step (t : SendTransport) (kind : Kind) (o : ProduceOutcome) :
    e.ProduceStep t kind o (e.produce t kind o) := by
  unfold produce
  split
  · next hd => exact .disposed hd
  · next hd =>
    have hd : t.disposed = false := by simpa using hd
    split
    · next hcl => exact .failed hd (.inl hcl)
    · next hcl =>
      have hcl : t.closed = false := by simpa using hcl
      cases o with
      | throws => exact .failed hd (.inr rfl)
      | asks answer =>
        simp only [onProduce_eq]
        cases hid : e.producedId (.asks answer) with
        | none => exact .refused answer rfl hd hcl hid
        | some id => exact .filed answer id rfl hd hcl hid

/-! ### The enable tasks -/

private theorem setLocalTrack_self {kind : Kind} {tr : LocalTrack}
    (h : e.mLocalTrack kind = some tr) : e.setLocalTrack (some tr) kind = e := by
  cases kind <;> rw [← h] <;> rfl

/-- An existing track is left as it is; a new one is enabled. -/
theorem ensureTrack_ok (kind : Kind) (camera : CameraOutcome)
    (h : kind = .video → e.mLocalVideoTrack = none → camera = .opened) :
    e.ensureTrack kind camera =
      .ok (e.setLocalTrack (some ((e.mLocalTrack kind).getD { enabled := true })) kind) := by
  cases ht : e.mLocalTrack kind with
  | some tr => simp [ensureTrack, ht, e.setLocalTrack_self ht]
  | none =>
    cases kind with
    | audio => simp [ensureTrack, ht]
    | video => simp [ensureTrack, ht, h rfl ht]

/-- Only a missing camera keeps the track from existing. -/
theorem ensureTrack_error {kind : Kind} {camera : CameraOutcome}
    (h : ¬ (kind = .video → e.mLocalVideoTrack = none → camera = .opened)) :
    e.ensureTrack kind camera = .error .illegalState := by
  simp only [not_forall] at h
  obtain ⟨rfl, ht, hc⟩ := h
  cases camera with
  | opened => exact absurd rfl hc
  | missing => simp [ensureTrack, mLocalTrack, ht]

/-- With a track the engine goes on as `withTrack`. -/
theorem eq_withTrack_of_ensureTrack {kind : Kind} {camera : CameraOutcome} {x : RtcEngineEx}
    (h : e.ensureTrack kind camera = .ok x) : x = e.withTrack kind := by
  by_cases hc : kind = .video → e.mLocalVideoTrack = none → camera = .opened
  · rw [e.ensureTrack_ok kind camera hc] at h
    exact (Except.ok.inj h).symm
  · rw [e.ensureTrack_error hc] at h
    cases h

/-- Everything an enable block can do: return or throw at one of its guards, in the state it
began in, or ask the transport. -/
inductive TryStep (kind : Kind) (camera : CameraOutcome) (o : ProduceOutcome) : Exit → Prop
  | returned (h : ∀ t, ¬ e.Attempts kind camera t) : TryStep kind camera o (.returned e)
  | threw (h : e.mDevice.disposed = true ∨
        kind = .video ∧ e.mLocalVideoTrack = none ∧ camera = .missing) :
      TryStep kind camera o (.threw e .illegalState)
  | produced (t : SendTransport) (h : e.Attempts kind camera t) :
      TryStep kind camera o (.ofProduce ((e.withTrack kind).produce t kind o))

/-- An enable block is one of these steps. -/
theorem tryProduce_step (kind : Kind) (camera : CameraOutcome) (o : ProduceOutcome) :
    e.TryStep kind camera o (e.tryProduce kind camera o) := by
  unfold tryProduce
  split
  · next hp =>
    apply TryStep.returned
    intro t h
    rw [h.noProducer] at hp
    cases hp
  · next hp =>
    have hp : e.mProducer kind = none := Option.not_isSome_iff_eq_none.mp hp
    cases hd : e.mDevice.disposed with
    | true =>
      simp only [Device.isLoaded, hd, if_true]
      exact .threw (.inl hd)
    | false =>
      simp only [Device.isLoaded, Device.canProduce, hd, Bool.false_eq_true, if_false]
      cases hl : e.mDevice.loaded with
      | false =>
        apply TryStep.returned
        intro t h
        rw [h.canSend.2.1] at hl
        cases hl
      | true =>
        simp only [if_true]
        split
        · next hcan => cases hcan
        · next hcan =>
          apply TryStep.returned
          intro t h
          have hcan' := h.canSend.2.2
          simp only [Device.canProduce, hd, hl, Bool.false_eq_true, if_false, if_true] at hcan'
          rw [hcan] at hcan'
          cases hcan'
        · next hcan =>
          have hsend : e.CanSend kind := by
            refine ⟨hd, hl, ?_⟩
            simp only [Device.canProduce, hd, hl, Bool.false_eq_true, if_false, if_true]
            exact hcan
          split
          · next ht =>
            apply TryStep.returned
            intro t h
            rw [h.transport] at ht
            cases ht
          · next t ht =>
            by_cases hc : kind = .video → e.mLocalVideoTrack = none → camera = .opened
            · rw [e.ensureTrack_ok kind camera hc]
              exact .produced t ⟨hp, hsend, hc, ht⟩
            · rw [e.ensureTrack_error hc]
              simp only [not_forall] at hc
              obtain ⟨hkind, htrack, hcamera⟩ := hc
              refine .threw (.inr ⟨hkind, htrack, ?_⟩)
              cases camera with
              | opened => exact absurd rfl hcamera
              | missing => rfl

/-- A second enable returns at once. -/
theorem tryProduce_of_isSome (kind : Kind) (camera : CameraOutcome) (o : ProduceOutcome)
    (h : (e.mProducer kind).isSome) : e.tryProduce kind camera o = .returned e := by
  rw [tryProduce, if_pos h]

-- Starting the fusion only sends its request or reports the lost connection.
private theorem nativeStartFusion_calls (available : Bool) :
    ∃ cs, (e.nativeStartFusion available).engine = e.emitAll cs ∧
      ∀ c ∈ cs, (∃ roomId userId, c = .request (.startFusion roomId userId)) ∨
        c = .callback (.onError .connectionLost) := by
  unfold nativeStartFusion
  split
  · cases hc : e.mStartupClient with
    | none => exact ⟨[], by simp [send, hc, emitAll_nil], by simp⟩
    | some r =>
      refine ⟨[.request (.startFusion e.serverRoomId e.rtcEngineConfig.userId)], ?_, by simp⟩
      simp only [send, hc]
      rfl
  · exact ⟨[.callback (.onError .connectionLost)], rfl, by simp⟩

/-- What follows the camera's `try` statement lowers the flag and may start the fusion. -/
theorem afterCamera_calls (available : Bool) :
    ∃ cs, (e.afterCamera available).engine = (e.setCamInProgress false).emitAll cs ∧
      ∀ c ∈ cs, (∃ roomId userId, c = .request (.startFusion roomId userId)) ∨
        c = .callback (.onError .connectionLost) := by
  unfold afterCamera
  split
  · exact (e.setCamInProgress false).nativeStartFusion_calls available
  · exact ⟨[], by rw [emitAll_nil], by simp⟩

/-- It throws only without a client. -/
theorem thrown_afterCamera (h : e.mStartupClient.isSome) (available : Bool) :
    (e.afterCamera available).thrown = none := by
  obtain ⟨r, hr⟩ := Option.isSome_iff_exists.mp h
  unfold afterCamera nativeStartFusion send setCamInProgress
  split
  · cases available <;> simp [hr]
  · rfl

/-- Everything the engine `x` left by the camera's `try` statement can become: an early return
or another exception ends the task, the end of the block and its handler do not. -/
inductive CameraEnd (x : RtcEngineEx) (available : Bool) : RtcEngineEx → Prop
  | left : CameraEnd x available x
  | ended : CameraEnd x available (x.afterCamera available).engine
  | handled : CameraEnd x available ((x.setTrackEnabled .video false).afterCamera available).engine

/-- `enableCameraImpl` ends in one of these ways. -/
theorem enableCameraImpl_end (camera : CameraOutcome) (o : ProduceOutcome) (available : Bool) :
    CameraEnd ((e.setCamInProgress true).tryProduce .video camera o).engine available
      (e.enableCameraImpl camera o available).engine := by
  unfold enableCameraImpl
  split
  · next hx =>
    rw [hx]
    exact .left
  · next hx =>
    rw [hx]
    exact .ended
  · next hx =>
    rw [hx]
    exact .handled
  · next hx =>
    rw [hx]
    exact .left

/-- `enableAudioImpl` leaves what its `try` block left, or disables the track. -/
theorem enableAudioImpl_end (o : ProduceOutcome) :
    (e.enableAudioImpl o).engine = (e.tryProduce .audio .opened o).engine ∨
      (e.enableAudioImpl o).engine =
        (e.tryProduce .audio .opened o).engine.setTrackEnabled .audio false := by
  unfold enableAudioImpl
  split
  · next hx => exact .inl (by rw [hx]; rfl)
  · next hx => exact .inl (by rw [hx]; rfl)
  · next hx => exact .inl (by rw [hx]; rfl)
  · next x _ _ hx =>
    rw [hx]
    unfold audioFailed
    split
    · exact .inl rfl
    · exact .inr rfl

/-! ### The other tasks -/

/-- Closing a producer writes the closed handles and the table of the transport. -/
theorem closeProducer_writes (p : Producer) :
    ∃ closed transport, e.closeProducer p =
      { e with closedProducers := closed, mSendTransport := transport } := by
  unfold closeProducer
  split
  · exact ⟨_, _, rfl⟩
  · exact ⟨_, _, rfl⟩

/-- The close request goes out while there is a client. -/
theorem closeUserProducer_eq (producerId : String) :
    e.closeUserProducer producerId = e.emitAll
      (if e.mStartupClient.isSome then [.request (.closeUserProducer producerId)] else []) := by
  unfold closeUserProducer send
  cases e.mStartupClient with
  | none => simp [emitAll_nil]
  | some r => rfl

/-- Everything a data producer task can do: nothing, ask in vain, or file and store a new data
producer. -/
inductive DataStep (label : Label) (o : ProduceOutcome) : RtcEngineEx → Prop
  | skipped : DataStep label o e
  | refused (transportId : String) :
      DataStep label o (e.emitAll (e.askDataCalls transportId label))
  | filed (t : SendTransport) (id : String) (hnone : e.mDataProducer label = none)
      (ht : e.mSendTransport = some t) (hid : e.producedId o = some id) :
      DataStep label o
        (((e.emitAll (e.askDataCalls t.id label)).fileDataProducer t
          ⟨e.nextRef, id, label⟩).setDataProducer (some ⟨e.nextRef, id, label⟩) label)

/-- A data producer task is one of these steps. -/
theorem enableDataProducer_dataStep (label : Label) (o : ProduceOutcome) :
    e.DataStep label o (e.enableDataProducer label o).engine := by
  unfold enableDataProducer
  split
  · exact .skipped
  · next hd =>
    have hd : e.mDataProducer label = none := Option.not_isSome_iff_eq_none.mp hd
    cases ht : e.mSendTransport with
    | none => exact .skipped
    | some t =>
      simp only [produceData]
      cases t.disposed with
      | true => exact .skipped
      | false =>
        cases o with
        | throws => exact .skipped
        | asks answer =>
          simp only [onProduceData_eq, Bool.false_eq_true, if_false]
          cases hid : e.producedId (.asks answer) with
          | none => exact .refused t.id
          | some id => exact .filed t id hd ht hid

end RtcEngineEx

end RtcClient.Engine
