import RtcClient.Engine.MediaSteps

/-!
# Every media task is a step of the sending side

The steps of `MediaStep`, task by task: an enable task adds a producer exactly when it opens,
a disable task releases its slot, and the tasks of the data producers add one object or
nothing.
-/

namespace RtcClient.Engine

open RtcClient.Native RtcClient.Store RtcClient.Lib

namespace RtcEngineEx

variable (e : RtcEngineEx)

/-- Requests that close no producer report nothing about producers. -/
theorem silent_request {r : Request} (h : ∀ id, r ≠ .closeUserProducer id) :
    (Call.request r).Silent := by
  simpa [Call.silent_iff] using h

private theorem silent_askDataCalls (transportId : String) (label : Label) :
    ∀ c ∈ e.askDataCalls transportId label, c.Silent := by
  intro c hc
  unfold askDataCalls at hc
  split at hc
  · cases hc
  · rw [List.mem_singleton.mp hc]
    exact silent_request (by simp)

private theorem silent_askCalls {transportId : String} {kind : Kind} {answer : Answer}
    (h : e.producedId (.asks answer) = none) :
    ∀ c ∈ e.askCalls transportId kind answer, c.Silent := by
  intro c hc
  unfold askCalls at hc
  split at hc
  · cases hc
  · next hn =>
    cases answer with
    | id s => simp_all [producedId]
    | malformed => simp_all [producedId]
    | failed =>
      rw [List.mem_singleton.mp hc]
      exact silent_request (by simp)

/-! ### The enable tasks -/

private theorem setLocalTrack_producedId (tr : Option LocalTrack) (kind : Kind)
    (o : ProduceOutcome) :
    (e.setLocalTrack tr kind).producedId o = e.producedId o := by
  cases kind <;> rfl

private theorem filterMap_askCalls {β : Type} (f : Call → Option β) (transportId : String)
    (kind : Kind) (answer : Answer)
    (hr : ∀ t k r u, f (.request (.createUserProduce t k r u)) = none)
    (ha : ∀ k s, f (.answered k s) = none) :
    (e.askCalls transportId kind answer).filterMap f = [] := by
  rw [List.filterMap_eq_nil_iff]
  intro c hc
  unfold askCalls at hc
  split at hc
  · cases hc
  · rcases List.mem_cons.mp hc with rfl | hc
    · exact hr _ _ _ _
    · cases answer with
      | id s => rw [List.mem_singleton.mp hc, ha]
      | malformed => cases hc
      | failed => cases hc

private theorem filterMap_askCalls_answeredId (transportId : String) (kind : Kind)
    {answer : Answer} {id : String} (hid : e.producedId (.asks answer) = some id) (k : Kind) :
    (e.askCalls transportId kind answer).filterMap (Call.answeredId k) =
      if e.told (.asks answer) ∧ k = kind then [id] else [] := by
  unfold askCalls
  by_cases hc : e.mClosed = true
  · cases answer <;> simp [hc, told]
  · cases hs : e.mStartupClient with
    | none => simp [producedId, hc, hs] at hid
    | some r =>
      cases answer with
      | id s =>
        have hs' : s = id := by simpa [producedId, hc, hs] using hid
        subst hs'
        by_cases hk : kind = k
        · subst hk
          simp [hc, told, Call.answeredId, List.filterMap_cons]
        · simp [hc, told, Call.answeredId, hk, Ne.symm hk]
      | malformed => simp [hc, told, Call.answeredId]
      | failed => simp [hc, told, Call.answeredId]

-- Filing and storing a producer is the one addition to the slots.
private theorem opened_fileProducer {t : SendTransport} (kind : Kind) {answer : Answer}
    {id : String} (ht : e.mSendTransport = some t) (hid : e.producedId (.asks answer) = some id) :
    Opened e (((e.emitAll (e.askCalls t.id kind answer)).fileProducer t
      ⟨e.nextRef, id, kind⟩).storeProducer ⟨e.nextRef, id, kind⟩) kind id
        (e.told (.asks answer)) := by
  have hp := e.filterMap_askCalls Call.producer t.id kind answer (by intros; rfl) (by intros; rfl)
  have hd := e.filterMap_askCalls Call.dataProducer t.id kind answer (by intros; rfl)
    (by intros; rfl)
  have hc := e.filterMap_askCalls Call.closedId t.id kind answer (by intros; rfl) (by intros; rfl)
  have ha := e.filterMap_askCalls_answeredId t.id kind hid
  generalize e.askCalls t.id kind answer = cs at hp hd hc ha ⊢
  have hcalls : (((e.emitAll cs).fileProducer t ⟨e.nextRef, id, kind⟩).storeProducer
      ⟨e.nextRef, id, kind⟩).calls = e.calls ++ cs ++ [.produced ⟨e.nextRef, id, kind⟩] := by
    cases kind <;> rfl
  refine ⟨?_, ?_, ?_, ?_, ?_, ?_⟩
  · have hheader : some (t.id, t.closed, t.disposed) = e.sendHeader := by rw [sendHeader, ht]; rfl
    cases kind <;> exact ⟨rfl, rfl, rfl, hheader, rfl, rfl, rfl, rfl, rfl, rfl⟩
  · simp only [producerSlots, Slots.add, Slots.mk.injEq, returnedProducers, hcalls]
    refine ⟨?_, ?_, ?_, ?_⟩
    · funext k
      cases kind <;> cases k <;> rfl
    · rw [ht]
      cases kind <;> rfl
    · cases kind <;> rfl
    · simp [hp, Call.producer]
  · simp only [dataSlots, Slots.mk.injEq, returnedDataProducers, hcalls]
    refine ⟨?_, ?_, ?_, ?_⟩
    · funext l
      cases kind <;> cases l <;> rfl
    · rw [ht]
      cases kind <;> rfl
    · cases kind <;> rfl
    · simp [hd, Call.dataProducer]
  · cases kind <;> rfl
  · intro k
    simp only [answeredIds, hcalls, List.filterMap_append, ha k]
    simp [Call.answeredId]
  · simp only [closeRequests, hcalls, List.filterMap_append, hc]
    simp [Call.closedId]

/-- An enable block that can open completes with a new producer on an enabled or reused
track. -/
theorem tryProduce_opened {kind : Kind} {env : Environment} (h : e.Opens kind env)
    (camera : CameraOutcome) (hcam : kind = .video → camera = env.camera) :
    ∃ e' id, e.tryProduce kind camera env.produce = .completed e' ∧
      e.producedId env.produce = some id ∧ Opened e e' kind id (e.told env.produce) ∧
      ∀ k, e'.mLocalTrack k =
        if k = kind then some ((e.mLocalTrack kind).getD { enabled := true })
        else e.mLocalTrack k := by
  obtain ⟨t, ht, htd, htc⟩ := h.sendOpen
  obtain ⟨id, hid⟩ := Option.isSome_iff_exists.mp h.answered
  have hattempts : e.Attempts kind camera t := by
    refine ⟨h.noProducer, h.canSend, ?_, ht⟩
    intro hk hn
    rw [hcam hk]
    exact h.camera hk hn
  have hstep := e.tryProduce_step kind camera env.produce
  generalize e.tryProduce kind camera env.produce = exit at hstep
  cases hstep with
  | returned hno => exact absurd hattempts (hno t)
  | threw hfail =>
    rcases hfail with hd | ⟨hk, htrack, hmissing⟩
    · rw [h.canSend.1] at hd
      cases hd
    · rw [hattempts.camera hk htrack] at hmissing
      cases hmissing
  | produced t' hattempts' =>
    have htt : t' = t := Option.some.inj (hattempts'.transport.symm.trans ht)
    subst htt
    unfold withTrack
    generalize hx : some ((e.mLocalTrack kind).getD { enabled := true }) = tr
    have hid : (e.setLocalTrack tr kind).producedId env.produce = some id :=
      (e.setLocalTrack_producedId tr kind _).trans hid
    have hprod := (e.setLocalTrack tr kind).produce_step t' kind env.produce
    generalize (e.setLocalTrack tr kind).produce t' kind env.produce = r at hprod
    cases hprod with
    | disposed hd =>
      rw [htd] at hd
      cases hd
    | failed _ hfail =>
      rcases hfail with hc | ho
      · rw [htc] at hc
        cases hc
      · rw [ho] at hid
        cases hid
    | refused _ _ _ _ hnone =>
      rw [hid] at hnone
      cases hnone
    | filed answer id' ho _ _ hid' =>
      have ht' : (e.setLocalTrack tr kind).mSendTransport = some t' := by
        cases kind <;> exact ht
      have htold : (e.setLocalTrack tr kind).told env.produce = e.told env.produce := by
        cases kind <;> rfl
      have hopened := (e.setLocalTrack tr kind).opened_fileProducer kind ht' (ho ▸ hid')
      rw [← ho, htold] at hopened
      refine ⟨_, id', rfl, (e.setLocalTrack_producedId tr kind _).symm.trans hid',
        (Still.of_track e tr kind).before_opened hopened, ?_⟩
      intro k
      rw [← hx]
      cases kind <;> cases k <;> rfl

/-- An enable block that cannot open makes no producer: it returns early or throws. -/
theorem tryProduce_still {kind : Kind} {env : Environment} (h : ¬ e.Opens kind env)
    (camera : CameraOutcome) (hcam : kind = .video → camera = env.camera) :
    (∃ x, e.tryProduce kind camera env.produce = .returned x ∧ Still e x) ∨
      ∃ x ex, e.tryProduce kind camera env.produce = .threw x ex ∧ Still e x := by
  have hstep := e.tryProduce_step kind camera env.produce
  generalize e.tryProduce kind camera env.produce = exit at hstep
  cases hstep with
  | returned _ => exact .inl ⟨e, rfl, .refl e⟩
  | threw _ => exact .inr ⟨e, _, rfl, .refl e⟩
  | produced t hattempts =>
    unfold withTrack
    generalize some ((e.mLocalTrack kind).getD { enabled := true }) = tr
    have htrack : Still e (e.setLocalTrack tr kind) := Still.of_track e tr kind
    have hprod := (e.setLocalTrack tr kind).produce_step t kind env.produce
    generalize (e.setLocalTrack tr kind).produce t kind env.produce = r at hprod
    cases hprod with
    | disposed _ => exact .inr ⟨_, _, rfl, htrack⟩
    | failed _ _ => exact .inr ⟨_, _, rfl, htrack⟩
    | refused answer ho _ _ hnone =>
      rw [ho] at hnone
      exact .inr ⟨_, _, rfl, htrack.trans (Still.of_calls _ (silent_askCalls _ hnone))⟩
    | filed answer id _ hd hcl hid =>
      -- all guards passed and the server answered, so that the task could open
      refine absurd ⟨hattempts.noProducer, hattempts.canSend, ⟨t, hattempts.transport, hd, hcl⟩, ?_,
        ?_⟩ h
      · intro hk htrack
        rw [← hcam hk]
        exact hattempts.camera hk htrack
      · rw [← e.setLocalTrack_producedId tr kind, hid]
        rfl

private theorem still_setTrackEnabled (kind : Kind) (b : Bool) :
    Still e (e.setTrackEnabled kind b) :=
  Still.of_track e _ kind

private theorem still_setCamInProgress (b : Bool) : Still e (e.setCamInProgress b) :=
  Still.of_store e _

private theorem still_afterCamera (available : Bool) :
    Still e (e.afterCamera available).engine := by
  obtain ⟨cs, hcs, hcalls⟩ := e.afterCamera_calls available
  rw [hcs]
  apply (e.still_setCamInProgress false).trans
  apply Still.of_calls
  intro c hc
  rcases hcalls c hc with ⟨roomId, userId, rfl⟩ | rfl
  · exact silent_request (by simp)
  · simp [Call.silent_iff]

private theorem still_audioFailed : Still e e.audioFailed.engine := by
  unfold audioFailed
  split
  · exact .refl e
  · exact e.still_setTrackEnabled .audio false

/-- The progress flag decides nothing. -/
theorem opens_setCamInProgress {kind : Kind} {env : Environment} (b : Bool) :
    (e.setCamInProgress b).Opens kind env ↔ e.Opens kind env := by
  constructor
  · intro h
    exact ⟨h.noProducer, h.canSend, h.sendOpen, h.camera, h.answered⟩
  · intro h
    exact ⟨h.noProducer, h.canSend, h.sendOpen, h.camera, h.answered⟩

/-- `enableCameraImpl` makes a producer exactly when it can open. -/
theorem enableCameraImpl_step (env : Environment) :
    MediaStep e (e.enableCameraImpl env.camera env.produce env.available).engine env
      (.enable .video) := by
  have hcam := e.still_setCamInProgress true
  by_cases h : e.Opens .video env
  · obtain ⟨x, id, hx, hid, hopened, -⟩ := (e.setCamInProgress true).tryProduce_opened
      ((e.opens_setCamInProgress true).mpr h) env.camera (fun _ ↦ rfl)
    refine .opened .video id rfl h hid ?_
    simp only [enableCameraImpl, hx]
    exact (x.still_afterCamera env.available).after_opened (hcam.before_opened hopened)
  · refine .still ?_ (fun k hk ↦ by cases hk; exact h) (fun k hk ↦ by cases hk)
    have hstill := (e.setCamInProgress true).tryProduce_still
      (fun ho ↦ h ((e.opens_setCamInProgress true).mp ho)) env.camera (fun _ ↦ rfl)
    rcases hstill with ⟨x, hx, hs⟩ | ⟨x, ex, hx, hs⟩
    · simp only [enableCameraImpl, hx]
      exact hcam.trans hs
    · have hs := hcam.trans hs
      simp only [enableCameraImpl, hx]
      cases ex with
      | mediasoup =>
        exact (hs.trans (x.still_setTrackEnabled .video false)).trans (still_afterCamera _ _)
      | _ => exact hs

/-- `enableAudioImpl` makes a producer exactly when it can open. -/
theorem enableAudioImpl_step (env : Environment) :
    MediaStep e (e.enableAudioImpl env.produce).engine env (.enable .audio) := by
  by_cases h : e.Opens .audio env
  · obtain ⟨x, id, hx, hid, hopened, -⟩ := e.tryProduce_opened h .opened (by simp)
    refine .opened .audio id rfl h hid ?_
    simpa only [enableAudioImpl, hx] using hopened
  · refine .still ?_ (fun k hk ↦ by cases hk; exact h) (fun k hk ↦ by cases hk)
    rcases e.tryProduce_still h .opened (by simp) with ⟨x, hx, hs⟩ | ⟨x, ex, hx, hs⟩
    · simpa only [enableAudioImpl, hx] using hs
    · simp only [enableAudioImpl, hx]
      cases ex with
      | abort => exact hs
      | _ => exact hs.trans x.still_audioFailed

/-! ### The other tasks -/

private theorem closeProducer_producerSlots (p : Producer) :
    (e.closeProducer p).producerSlots = e.producerSlots.close p := by
  unfold closeProducer Slots.close
  by_cases h : p.ref ∈ e.closedProducers
  · rw [if_pos h, if_pos (show Handle.ref p ∈ e.producerSlots.closed from h)]
  · rw [if_neg h, if_neg (show Handle.ref p ∉ e.producerSlots.closed from h)]
    cases ht : e.mSendTransport with
    | none =>
      simp only [producerSlots, ht, Option.map_none, Option.getD_none, Slots.mk.injEq]
      exact ⟨rfl, by simp, rfl, rfl⟩
    | some t =>
      simp only [producerSlots, ht, Option.map_some, Option.getD_some, Slots.mk.injEq]
      exact ⟨rfl, rfl, rfl, rfl⟩

private theorem closeProducer_frame (p : Producer) : MediaFrame e (e.closeProducer p) := by
  unfold closeProducer
  split
  · exact (Still.refl e).toMediaFrame
  · refine ⟨rfl, rfl, rfl, ?_, rfl, rfl, rfl, rfl, rfl, rfl⟩
    cases ht : e.mSendTransport <;> simp [sendHeader, ht, SendTransport.onClose]

private theorem closeProducer_dataSlots (p : Producer) :
    (e.closeProducer p).dataSlots = e.dataSlots := by
  unfold closeProducer
  split
  · rfl
  · have htable : ((e.mSendTransport.map (·.onClose p)).map (·.dataProducers)).getD ∅ =
        (e.mSendTransport.map (·.dataProducers)).getD ∅ := by
      cases e.mSendTransport <;> rfl
    exact congrArg (Slots.mk e.mDataProducer · _ _) htable

private theorem closeProducer_rest (p : Producer) :
    (e.closeProducer p).calls = e.calls ∧ (e.closeProducer p).nextRef = e.nextRef := by
  obtain ⟨_, _, hwrites⟩ := e.closeProducer_writes p
  rw [hwrites]
  exact ⟨rfl, rfl⟩

-- Emptying a producer field changes that slot and nothing else.
private theorem setProducer_none (kind : Kind) :
    MediaFrame e (e.setProducer none kind) ∧
      (e.setProducer none kind).producerSlots =
        { e.producerSlots with slot := Function.update e.mProducer kind none } ∧
      (e.setProducer none kind).dataSlots = e.dataSlots ∧
      (e.setProducer none kind).calls = e.calls ∧
      (e.setProducer none kind).nextRef = e.nextRef := by
  have hslot : (e.setProducer none kind).mProducer = Function.update e.mProducer kind none := by
    funext k
    cases kind <;> cases k <;> rfl
  cases kind <;>
    exact ⟨⟨rfl, rfl, rfl, rfl, rfl, rfl, rfl, rfl, rfl, rfl⟩,
      congrArg (Slots.mk · _ _ _) hslot, rfl, rfl, rfl⟩

private theorem emitAll_frame (cs : List Call) : MediaFrame e (e.emitAll cs) :=
  ⟨rfl, rfl, rfl, rfl, rfl, rfl, rfl, rfl, rfl, rfl⟩

private theorem emitAll_slots {cs : List Call} (hp : cs.filterMap Call.producer = [])
    (hd : cs.filterMap Call.dataProducer = []) :
    (e.emitAll cs).producerSlots = e.producerSlots ∧ (e.emitAll cs).dataSlots = e.dataSlots := by
  have hmade : (e.emitAll cs).returnedProducers = e.returnedProducers := by
    rw [returnedProducers, emitAll, List.filterMap_append, hp, List.append_nil, returnedProducers]
  have hdata : (e.emitAll cs).returnedDataProducers = e.returnedDataProducers := by
    rw [returnedDataProducers, emitAll, List.filterMap_append, hd, List.append_nil,
      returnedDataProducers]
  exact ⟨congrArg (Slots.mk e.mProducer _ _) hmade, congrArg (Slots.mk e.mDataProducer _ _) hdata⟩

/-- A disable task releases the slot of its kind. -/
theorem disableProducer_step (kind : Kind) (env : Environment) :
    MediaStep e (e.disableProducer kind) env (.disable kind) := by
  cases hp : e.mProducer kind with
  | none =>
    refine .still ?_ (fun k hk ↦ by cases hk) (fun k hk ↦ by cases hk; exact hp)
    simp only [disableProducer, hp]
    exact .refl e
  | some p =>
    refine .closed kind p rfl hp ?_
    simp only [disableProducer, hp, closeUserProducer_eq]
    have hframe := e.closeProducer_frame p
    obtain ⟨hcalls, hnext⟩ := e.closeProducer_rest p
    have hstore : Still (e.closeProducer p) ((e.closeProducer p).removeProducer p.id) :=
      Still.of_store _ _
    have hclient : ((e.closeProducer p).removeProducer p.id).mStartupClient = e.mStartupClient :=
      hframe.mStartupClient
    rw [hclient]
    generalize hcs : (if e.mStartupClient.isSome then
      [Call.request (.closeUserProducer p.id)] else []) = cs
    have hcsp : cs.filterMap Call.producer = [] ∧ cs.filterMap Call.dataProducer = [] := by
      rw [← hcs]
      split <;> exact ⟨rfl, rfl⟩
    obtain ⟨hemit, hemitData⟩ :=
      ((e.closeProducer p).removeProducer p.id).emitAll_slots hcsp.1 hcsp.2
    have hslots := hemit.trans (hstore.producers.trans (e.closeProducer_producerSlots p))
    have hslot : (((e.closeProducer p).removeProducer p.id).emitAll cs).mProducer = e.mProducer :=
      (congrArg Slots.slot hslots).trans (Slots.close_slot _ p)
    obtain ⟨hf, hs, hd, hc, hn⟩ :=
      (((e.closeProducer p).removeProducer p.id).emitAll cs).setProducer_none kind
    have hc : _ = e.calls ++ cs := hc.trans (congrArg (· ++ cs) hcalls)
    refine ⟨(hframe.trans hstore.toMediaFrame).trans ?_, ?_, ?_, hn.trans hnext, ?_, ?_⟩
    · exact (emitAll_frame _ cs).trans hf
    · rw [hs, hslots, hslot, Slots.release, show e.producerSlots.slot kind = some p from hp]
      rfl
    · exact hd.trans (hemitData.trans (hstore.data.trans (e.closeProducer_dataSlots p)))
    · intro k
      rw [answeredIds, hc, List.filterMap_append, ← hcs, answeredIds]
      split <;> simp [Call.answeredId]
    · rw [RtcEngineEx.closeRequests, hc, List.filterMap_append, ← hcs, RtcEngineEx.closeRequests]
      split <;> simp [Call.closedId]

private theorem openedData_fileDataProducer {t : SendTransport} (label : Label) (id : String)
    (ht : e.mSendTransport = some t) :
    OpenedData e ((e.fileDataProducer t ⟨e.nextRef, id, label⟩).setDataProducer
      (some ⟨e.nextRef, id, label⟩) label) label id := by
  have hcalls : ((e.fileDataProducer t ⟨e.nextRef, id, label⟩).setDataProducer
      (some ⟨e.nextRef, id, label⟩) label).calls =
        e.calls ++ [.producedData ⟨e.nextRef, id, label⟩] := by
    cases label <;> rfl
  refine ⟨?_, ?_, ?_, ?_, ?_, ?_⟩
  · have hheader : some (t.id, t.closed, t.disposed) = e.sendHeader := by rw [sendHeader, ht]; rfl
    cases label <;> exact ⟨rfl, rfl, rfl, hheader, rfl, rfl, rfl, rfl, rfl, rfl⟩
  · simp only [producerSlots, Slots.mk.injEq, returnedProducers, hcalls]
    refine ⟨?_, ?_, ?_, ?_⟩
    · funext k
      cases label <;> cases k <;> rfl
    · rw [ht]
      cases label <;> rfl
    · cases label <;> rfl
    · simp [Call.producer]
  · simp only [dataSlots, Slots.add, Slots.mk.injEq, returnedDataProducers, hcalls]
    refine ⟨?_, ?_, ?_, ?_⟩
    · funext l
      cases label <;> cases l <;> rfl
    · rw [ht]
      cases label <;> rfl
    · cases label <;> rfl
    · simp [Call.dataProducer]
  · cases label <;> rfl
  · intro k
    simp [answeredIds, hcalls, Call.answeredId]
  · simp [RtcEngineEx.closeRequests, hcalls, Call.closedId]

/-- A data producer task adds one object to an empty slot or leaves everything still. -/
theorem enableDataProducer_step (label : Label) (env : Environment) :
    MediaStep e (e.enableDataProducer label env.produce).engine env (.enableData label) := by
  have hno : ∀ {x}, Still e x → MediaStep e x env (.enableData label) :=
    fun h ↦ .still h (fun k hk ↦ by cases hk) (fun k hk ↦ by cases hk)
  have hstep := e.enableDataProducer_dataStep label env.produce
  generalize (e.enableDataProducer label env.produce).engine = x at hstep
  cases hstep with
  | skipped => exact hno (.refl e)
  | refused transportId => exact hno (Still.of_calls e (e.silent_askDataCalls transportId label))
  | filed t id hnone ht hid =>
    refine .openedData label id rfl hnone (by simp [ht]) hid ?_
    have hcalls := Still.of_calls e (e.silent_askDataCalls t.id label)
    exact hcalls.before_openedData (openedData_fileDataProducer _ label id ht)

/-- `setupLocalVideo` only touches the local track. -/
theorem setupLocalVideo_step (env : Environment) :
    MediaStep e (e.setupLocalVideo env.camera).engine env .setupLocalVideo := by
  refine .still ?_ (fun k hk ↦ by cases hk) (fun k hk ↦ by cases hk)
  unfold setupLocalVideo
  by_cases hc : Kind.video = .video → e.mLocalVideoTrack = none → env.camera = .opened
  · rw [e.ensureTrack_ok .video env.camera hc]
    exact Still.of_track e _ .video
  · rw [e.ensureTrack_error hc]
    exact .refl e

/-- Every media task is one step of the sending side. -/
theorem runMediaTask_step (env : Environment) (task : MediaTask) :
    MediaStep e (e.runMediaTask env task).engine env task := by
  cases task with
  | setupLocalVideo => exact e.setupLocalVideo_step env
  | enable kind =>
    cases kind with
    | audio => exact e.enableAudioImpl_step env
    | video => exact e.enableCameraImpl_step env
  | disable kind =>
    cases kind with
    | audio => exact e.disableProducer_step .audio env
    | video => exact e.disableProducer_step .video env
  | enableData label =>
    cases label with
    | chat => exact e.enableDataProducer_step .chat env
    | bot => exact e.enableDataProducer_step .bot env

end RtcEngineEx

end RtcClient.Engine
