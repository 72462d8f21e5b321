import RtcClient.Engine.DestroySteps
import RtcClient.Engine.MediaTasks
import RtcClient.Engine.StoreEvents

/-!
# The store's producers

While the send transport is open, the producer fields, its table and the store list the same
producers. The `onTransportClose` listener of the microphone removes its producer from the
store; the camera's does not (`RtcEngineEx.java:432–436,492–497`).
-/

namespace RtcClient.Engine

open RtcClient.Native RtcClient.Store RtcClient.Lib

namespace RtcEngineEx

/-- The send transport, if there is one, has been closed. -/
def SendOver (e : RtcEngineEx) : Prop := ∀ t, e.mSendTransport = some t → t.closed = true

/-- While the send transport is open its table and the store mirror the fields; once it is
closed the fields are empty. -/
inductive SendMirror (e : RtcEngineEx) : Prop where
  | opened (ho : e.SendOpen) (wf : e.producerSlots.WF e.nextRef) (filed : e.producerSlots.Filed)
      (listed : e.ProducersListed)
  | closed (hc : e.SendOver) (empty : ∀ k, e.mProducer k = none)

/-- The producer fields and the store's producers. -/
def sentView (e : RtcEngineEx) : (Kind → Option Producer) × Producers :=
  (e.mProducer, e.mStore.producers)

/-- Everything a media task can do to them. -/
inductive ProducersMove (e e' : RtcEngineEx) : Prop where
  | same (fields : e'.mProducer = e.mProducer)
      (stored : e'.mStore.producers = e.mStore.producers)
  | add (p : Producer) (free : e.mProducer p.kind = none)
      (fields : e'.mProducer = Function.update e.mProducer p.kind (some p))
      (stored : e'.mStore.producers = e.mStore.producers.addProducer p)
  | drop (k : Kind) (p : Producer) (held : e.mProducer k = some p)
      (fields : e'.mProducer = Function.update e.mProducer k none)
      (stored : e'.mStore.producers = e.mStore.producers.removeProducer p.id)

namespace ProducersMove

variable {e e' e'' : RtcEngineEx}

private theorem of_eq (h : e'.sentView = e.sentView) : ProducersMove e e' :=
  .same (Prod.mk.inj h).1 (Prod.mk.inj h).2

private theorem before (h : ProducersMove e e') (h' : e''.sentView = e'.sentView) :
    ProducersMove e e'' := by
  have hfields := (Prod.mk.inj h').1
  have hstored := (Prod.mk.inj h').2
  cases h with
  | same fields stored => exact .same (hfields.trans fields) (hstored.trans stored)
  | add p free fields stored => exact .add p free (hfields.trans fields) (hstored.trans stored)
  | drop k p held fields stored =>
    exact .drop k p held (hfields.trans fields) (hstored.trans stored)

private theorem after (h : ProducersMove e' e'') (h' : e'.sentView = e.sentView) :
    ProducersMove e e'' := by
  have hfields : e'.mProducer = e.mProducer := (Prod.mk.inj h').1
  have hstored : e'.mStore.producers = e.mStore.producers := (Prod.mk.inj h').2
  cases h with
  | same fields stored =>
    rw [hfields] at fields
    rw [hstored] at stored
    exact .same fields stored
  | add p free fields stored =>
    rw [hfields] at free fields
    rw [hstored] at stored
    exact .add p free fields stored
  | drop k p held fields stored =>
    rw [hfields] at held fields
    rw [hstored] at stored
    exact .drop k p held fields stored

/-- With different ids in different fields, the store's keys follow the fields. -/
theorem listed (h : ProducersMove e e') (hl : e.ProducersListed)
    (hinj : ∀ k k' p p', e.mProducer k = some p → e.mProducer k' = some p' →
      p.id = p'.id → k = k') :
    e'.ProducersListed := by
  intro id
  cases h with
  | same fields stored =>
    rw [stored, fields]
    exact hl id
  | add p free fields stored =>
    rw [stored, fields, Producers.addProducer, Std.ExtTreeMap.mem_insert, hl id]
    constructor
    · rintro (hid | ⟨k, q, hq, hid⟩)
      · exact ⟨p.kind, p, by simp, Std.compare_eq_iff_eq.mp hid⟩
      · have hk : k ≠ p.kind := by
          intro hk
          rw [hk, free] at hq
          cases hq
        exact ⟨k, q, by rw [Function.update_of_ne hk]; exact hq, hid⟩
    · rintro ⟨k, q, hq, hid⟩
      by_cases hk : k = p.kind
      · rw [hk, Function.update_self] at hq
        rw [← Option.some.inj hq] at hid
        exact .inl (Std.compare_eq_iff_eq.mpr hid)
      · rw [Function.update_of_ne hk] at hq
        exact .inr ⟨k, q, hq, hid⟩
  | drop k p held fields stored =>
    rw [stored, fields, Producers.removeProducer, Std.ExtTreeMap.mem_erase, hl id]
    constructor
    · rintro ⟨hne, k', q, hq, hid⟩
      have hk : k' ≠ k := by
        intro hk
        rw [hk, held] at hq
        rw [← Option.some.inj hq] at hid
        exact hne (Std.compare_eq_iff_eq.mpr hid)
      exact ⟨k', q, by rw [Function.update_of_ne hk]; exact hq, hid⟩
    · rintro ⟨k', q, hq, hid⟩
      by_cases hk : k' = k
      · rw [hk, Function.update_self] at hq
        cases hq
      · rw [Function.update_of_ne hk] at hq
        refine ⟨?_, k', q, hq, hid⟩
        intro he
        exact hk (hinj k' k q p hq held (hid.trans (Std.compare_eq_iff_eq.mp he).symm))

end ProducersMove

variable (e : RtcEngineEx)

private theorem sentView_setLocalTrack (tr : Option LocalTrack) (k : Kind) :
    (e.setLocalTrack tr k).sentView = e.sentView := by
  cases k <;> rfl

private theorem sentView_produce (t : SendTransport) (kind : Kind) (o : ProduceOutcome) :
    (e.produce t kind o).1.sentView = e.sentView ∧
      ∀ p, (e.produce t kind o).2 = .ok p → p.kind = kind := by
  have hprod := e.produce_step t kind o
  generalize e.produce t kind o = r at hprod
  cases hprod with
  | filed answer id _ _ _ _ =>
    refine ⟨rfl, ?_⟩
    intro p hp
    rw [← Except.ok.inj hp]
  | _ => exact ⟨rfl, by simp⟩

-- An enable block adds the producer it made to field and store, or touches neither.
private theorem tryProduce_move (kind : Kind) (camera : CameraOutcome) (o : ProduceOutcome) :
    ProducersMove e (e.tryProduce kind camera o).engine := by
  have hstep := e.tryProduce_step kind camera o
  generalize e.tryProduce kind camera o = exit at hstep
  cases hstep with
  | returned _ => exact .of_eq rfl
  | threw _ => exact .of_eq rfl
  | produced t hattempts =>
    obtain ⟨hview, hkind⟩ := (e.withTrack kind).sentView_produce t kind o
    have hview := hview.trans (e.sentView_setLocalTrack _ kind)
    generalize (e.withTrack kind).produce t kind o = r at hview hkind
    obtain ⟨y, ex | p⟩ := r
    · exact .of_eq hview
    · have hfree : y.mProducer p.kind = none := by
        have hfields : y.mProducer = e.mProducer := (Prod.mk.inj hview).1
        rw [hfields, hkind p rfl]
        exact hattempts.noProducer
      have hadd : ProducersMove y (y.storeProducer p) := by
        apply ProducersMove.add p hfree
        · unfold storeProducer
          funext k
          cases p.kind <;> cases k <;> rfl
        · rfl
      exact hadd.after hview

private theorem sentView_afterCamera (available : Bool) :
    (e.afterCamera available).engine.sentView = e.sentView := by
  obtain ⟨cs, hcs, -⟩ := e.afterCamera_calls available
  rw [hcs]
  rfl

private theorem enableCameraImpl_move (camera : CameraOutcome) (o : ProduceOutcome)
    (available : Bool) : ProducersMove e (e.enableCameraImpl camera o available).engine := by
  have htry := ((e.setCamInProgress true).tryProduce_move .video camera o).after (e := e) rfl
  have hend := e.enableCameraImpl_end camera o available
  generalize (e.enableCameraImpl camera o available).engine = e' at hend
  cases hend with
  | left => exact htry
  | ended => exact htry.before (sentView_afterCamera _ available)
  | handled =>
    exact htry.before ((sentView_afterCamera _ available).trans (sentView_setLocalTrack _ _ .video))

private theorem enableAudioImpl_move (o : ProduceOutcome) :
    ProducersMove e (e.enableAudioImpl o).engine := by
  have htry := e.tryProduce_move .audio .opened o
  rcases e.enableAudioImpl_end o with hend | hend
  · rw [hend]
    exact htry
  · rw [hend]
    exact htry.before (sentView_setLocalTrack _ _ .audio)

private theorem disableProducer_move (kind : Kind) : ProducersMove e (e.disableProducer kind) := by
  unfold disableProducer
  split
  · exact .of_eq rfl
  · next p hp =>
    obtain ⟨_, _, hwrites⟩ := e.closeProducer_writes p
    simp only [closeUserProducer_eq, hwrites]
    apply ProducersMove.drop kind p hp
    · funext k
      cases kind <;> cases k <;> rfl
    · cases kind <;> rfl

private theorem sentView_enableDataProducer (label : Label) (o : ProduceOutcome) :
    (e.enableDataProducer label o).engine.sentView = e.sentView := by
  have hstep := e.enableDataProducer_dataStep label o
  generalize (e.enableDataProducer label o).engine = x at hstep
  cases hstep with
  | skipped => rfl
  | refused transportId => rfl
  | filed t id _ _ _ => cases label <;> rfl

/-- Every media task is one of these moves. -/
theorem runMediaTask_move (env : Environment) (task : MediaTask) :
    ProducersMove e (e.runMediaTask env task).engine := by
  cases task with
  | setupLocalVideo =>
    simp only [runMediaTask, setupLocalVideo]
    split
    · exact .of_eq rfl
    · next hx =>
      rw [e.eq_withTrack_of_ensureTrack hx]
      exact .of_eq (e.sentView_setLocalTrack _ .video)
  | enable kind =>
    cases kind with
    | audio => exact e.enableAudioImpl_move env.produce
    | video => exact e.enableCameraImpl_move env.camera env.produce env.available
  | disable kind => cases kind <;> exact e.disableProducer_move _
  | enableData label => cases label <;> exact .of_eq (e.sentView_enableDataProducer _ env.produce)

variable {e} {e' : RtcEngineEx}

private theorem SendOver.of_header (h : e.SendOver) (hh : e'.sendHeader = e.sendHeader) :
    e'.SendOver := by
  intro t' ht'
  have hsome : e.sendHeader = some (t'.id, t'.closed, t'.disposed) := by
    rw [← hh, sendHeader, ht']
    rfl
  obtain ⟨t, ht, heq⟩ := Option.map_eq_some_iff.mp hsome
  have hclosed : t.closed = t'.closed := (Prod.mk.inj (Prod.mk.inj heq).2).1
  rw [← hclosed]
  exact h t ht

private theorem SendOver.not_sendOpen (h : e.SendOver) : ¬ e.SendOpen := by
  rintro ⟨t, ht, -, hc⟩
  rw [h t ht] at hc
  cases hc

/-- A step that leaves the sending side and the store's producers alone. -/
structure SendKept (e e' : RtcEngineEx) : Prop where
  header : e'.sendHeader = e.sendHeader
  slots : e'.producerSlots = e.producerSlots
  nextRef : e.nextRef ≤ e'.nextRef
  stored : e'.mStore.producers = e.mStore.producers

namespace SendKept

private theorem fields (h : SendKept e e') : e'.mProducer = e.mProducer :=
  congrArg Slots.slot h.slots

/-- Such a step keeps what the store lists. -/
theorem listed_iff (h : SendKept e e') : e'.ProducersListed ↔ e.ProducersListed := by
  unfold ProducersListed
  rw [h.stored, h.fields]

end SendKept

namespace SendMirror

/-- The mirror outlives steps that leave its side alone. -/
theorem kept (h : e.SendMirror) (hk : SendKept e e') : e'.SendMirror := by
  cases h with
  | opened ho wf filed listed =>
    apply SendMirror.opened
    · rw [sendOpen_iff_sendHeader, hk.header, ← sendOpen_iff_sendHeader]
      exact ho
    · rw [hk.slots]
      exact wf.mono hk.nextRef
    · rw [hk.slots]
      exact filed
    · exact hk.listed_iff.mpr listed
  | closed hc empty =>
    apply SendMirror.closed (hc.of_header hk.header)
    rw [hk.fields]
    exact empty

/-- After a media task the store still lists the fields. -/
theorem listed_task (h : e.SendMirror) (env : Environment) (task : MediaTask)
    (hl : e.ProducersListed) : (e.mediaStep (env, task)).ProducersListed := by
  have hmove := e.runMediaTask_move env task
  apply hmove.listed hl
  intro k k' p p' hp hp' hid
  cases h with
  | opened ho wf filed listed => exact filed.slot_inj wf hp hp' hid
  | closed hc empty =>
    rw [empty k] at hp
    cases hp

/-- A media task with a fresh id keeps the mirror. -/
theorem task (h : e.SendMirror) (env : Environment) (task : MediaTask)
    (hids : e.IdsFresh (.task env task)) : (e.mediaStep (env, task)).SendMirror := by
  have hstep := e.runMediaTask_step env task
  have hlisted := h.listed_task env task
  unfold mediaStep at hlisted ⊢
  generalize (e.runMediaTask env task).engine = x at hstep hlisted
  have hheader := hstep.frame.sendHeader
  cases h with
  | opened ho wf filed listed =>
    have hfiled : x.producerSlots.Filed := by
      cases hstep with
      | still hs _ _ =>
        rw [hs.producers]
        exact filed
      | opened k id htask _ hid hs =>
        rw [hs.producers]
        apply filed.add
        intro k' p hp
        rw [htask] at hids
        exact hids id k' p hid hp
      | closed k p _ _ hs =>
        rw [hs.producers]
        exact filed.release wf k
      | openedData l id _ _ _ _ hs =>
        rw [hs.producers]
        exact filed
    apply SendMirror.opened _ (hstep.producers_wf wf) hfiled (hlisted listed)
    rw [sendOpen_iff_sendHeader, hheader, ← sendOpen_iff_sendHeader]
    exact ho
  | closed hc empty =>
    apply SendMirror.closed (hc.of_header hheader)
    cases hstep with
    | still hs _ _ =>
      have hfields : x.mProducer = e.mProducer := congrArg Slots.slot hs.producers
      rw [hfields]
      exact empty
    | opened k id _ hopens _ _ => exact absurd hopens.sendOpen hc.not_sendOpen
    | closed k p _ hp _ =>
      rw [empty k] at hp
      cases hp
    | openedData l id _ _ _ _ hs =>
      have hfields : x.mProducer = e.mProducer := congrArg Slots.slot hs.producers
      rw [hfields]
      exact empty

end SendMirror

/-- Before the microphone's listener has run, or after it. -/
private def AudioTold (e x : RtcEngineEx) : Prop :=
  (x.mAudioProducer = e.mAudioProducer ∧ x.mStore.producers = e.mStore.producers) ∨
    (x.mAudioProducer = none ∧ ∃ p, e.mAudioProducer = some p ∧
      x.mStore.producers = e.mStore.producers.removeProducer p.id)

private theorem audioTold_closeSendTransport (t : SendTransport) :
    AudioTold e (e.closeSendTransport t) := by
  unfold closeSendTransport
  split
  · exact .inl ⟨rfl, rfl⟩
  · refine run_invariant (AudioTold e) (run_invariant (AudioTold e)
      (run_invariant (AudioTold e) ?_ ?_ _) ?_ _) ?_ _
    · exact .inl ⟨rfl, rfl⟩
    · intro x p hx
      unfold onDataProducerClose
      cases p.label <;> exact hx
    · intro x kv hx
      unfold producerTransportClosed
      split
      · exact hx
      · cases kv.2.kind with
        | video => exact hx
        | audio =>
          simp only [onProducerTransportClose]
          split
          · exact hx
          · next p hp =>
            rcases hx with ⟨haudio, hstored⟩ | ⟨hnone, -⟩
            · refine .inr ⟨rfl, p, haudio.symm.trans hp, ?_⟩
              rw [← hstored]
              rfl
            · rw [hnone] at hp
              cases hp
    · intro x kv hx
      unfold dataProducerTransportClosed
      split
      · exact hx
      · cases kv.2.label <;> exact hx

namespace SendMirror

-- Closing a transport that is already closed does nothing.
private theorem closeSend_of_over (hc : e.SendOver) : e.onStoreEvent .closeSend = e := by
  simp only [onStoreEvent]
  split
  · rfl
  · next t ht => rw [closeSendTransport, if_pos (hc t ht)]

-- Closing an open transport empties both fields; of the store it removes the microphone's
-- producer only.
private theorem closeSend_of_open (ho : e.SendOpen) (wf : e.producerSlots.WF e.nextRef)
    (filed : e.producerSlots.Filed) :
    (e.onStoreEvent .closeSend).SendOver ∧ (∀ k, (e.onStoreEvent .closeSend).mProducer k = none) ∧
      (e.onStoreEvent .closeSend).mStore.producers =
        match e.mAudioProducer with
        | none => e.mStore.producers
        | some p => e.mStore.producers.removeProducer p.id := by
  obtain ⟨t, ht, hd, hc⟩ := ho
  have htold := e.audioTold_closeSendTransport t
  have hover : (e.closeSendTransport t).mSendTransport = some t.shut := by
    obtain ⟨_, _, _, _, _, _, _, _, hwrites⟩ := e.closeSendTransport_writes t
    rw [hwrites, hc]
    rfl
  have hslots : (e.closeSendTransport t).producerSlots = e.producerSlots.closeAll :=
    (Prod.mk.inj (closeSendTransport_spec ht hc).1).1
  have hempty : ∀ k, (e.closeSendTransport t).mProducer k = none := by
    intro k
    have hslot := (wf.closeAll_complete_iff.mpr filed).2 k
    rw [← hslots] at hslot
    exact hslot
  simp only [onStoreEvent, ht]
  generalize e.closeSendTransport t = x at htold hover hempty
  refine ⟨?_, hempty, ?_⟩
  · intro t' ht'
    rw [hover] at ht'
    rw [← Option.some.inj ht']
    rfl
  · -- the microphone's field is empty now, so its listener has run if it held a producer
    have haudio : x.mAudioProducer = none := hempty .audio
    rcases htold with ⟨hsame, hstored⟩ | ⟨-, p, hp, hstored⟩
    · rw [haudio] at hsame
      rw [← hsame]
      exact hstored
    · rw [hp]
      exact hstored

/-- The store is current after the send transport has closed exactly when it did not close
over a camera producer. -/
theorem closeSend (h : e.SendMirror) :
    (e.onStoreEvent .closeSend).SendMirror ∧ (e.ProducersListed →
      ((e.onStoreEvent .closeSend).ProducersListed ↔ e.ClosesOverNothing .closeSend)) := by
  cases h with
  | closed hc empty =>
    rw [closeSend_of_over hc]
    refine ⟨.closed hc empty, ?_⟩
    intro hl
    exact iff_of_true hl fun ho ↦ absurd ho hc.not_sendOpen
  | opened ho wf filed listed =>
    obtain ⟨hover, hempty, hstored⟩ := closeSend_of_open ho wf filed
    refine ⟨.closed hover hempty, ?_⟩
    intro hl
    have hnone : (e.onStoreEvent .closeSend).ProducersListed ↔
        ∀ id : String, id ∉ (e.onStoreEvent .closeSend).mStore.producers.mProducers := by
      simp [ProducersListed, hempty]
    rw [hnone, hstored]
    constructor
    · intro hgone _
      by_contra hvideo
      obtain ⟨v, hv⟩ := Option.ne_none_iff_exists'.mp hvideo
      have hmem := (hl v.id).mpr ⟨.video, v, hv, rfl⟩
      apply hgone v.id
      split
      · exact hmem
      · next a ha =>
        rw [Producers.removeProducer, Std.ExtTreeMap.mem_erase]
        refine ⟨?_, hmem⟩
        intro he
        have haudio : e.producerSlots.slot .audio = some a := ha
        have hvideo : e.producerSlots.slot .video = some v := hv
        cases filed.slot_inj wf haudio hvideo (Std.compare_eq_iff_eq.mp he)
    · intro hguard id
      have hvideo : e.mProducer .video = none := hguard ho
      split
      · next ha =>
        intro hmem
        obtain ⟨k, p, hp, -⟩ := (hl id).mp hmem
        cases k with
        | audio =>
          rw [show e.mProducer .audio = none from ha] at hp
          cases hp
        | video =>
          rw [hvideo] at hp
          cases hp
      · next a ha =>
        rw [Producers.removeProducer, Std.ExtTreeMap.mem_erase]
        rintro ⟨hne, hmem⟩
        obtain ⟨k, p, hp, hid⟩ := (hl id).mp hmem
        cases k with
        | audio =>
          rw [show e.mProducer .audio = some a from ha] at hp
          rw [← Option.some.inj hp] at hid
          exact hne (Std.compare_eq_iff_eq.mpr hid)
        | video =>
          rw [hvideo] at hp
          cases hp

end SendMirror

end RtcEngineEx

end RtcClient.Engine
