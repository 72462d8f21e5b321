import RtcClient.Engine.ConsumersFiled
import RtcClient.System.Ledger

/-!
# The destroy task at the end of a run

In every run the producers, data producers and consumers of an engine are slots over the
tables of its transports. What the destroy task reaches is then read off the state in which
it starts: everything the send transport lists, and no remote track at all, because closing
the receive transport empties `mConsumers` first.
-/

namespace RtcClient.System

open RtcClient.Native RtcClient.Store RtcClient.Engine RtcClient.Lib

/-- Local and remote media are slots over the tables of the transports. -/
structure MediaInOrder (e : RtcEngineEx) : Prop where
  producers : e.producerSlots.WF e.nextRef
  data : e.dataSlots.WF e.nextRef
  consumers : ConsumersFiled e

/-- A step that leaves local and remote media alone. -/
structure SidesKept (e e' : RtcEngineEx) : Prop extends ConsumersKept e e' where
  producers : e'.producerSlots = e.producerSlots
  data : e'.dataSlots = e.dataSlots

variable {e e' : RtcEngineEx}

namespace SidesKept

/-- Doing nothing. -/
theorem refl (e : RtcEngineEx) : SidesKept e e := ⟨⟨rfl, rfl, rfl, Nat.le_refl _⟩, rfl, rfl⟩

/-- Silent calls. -/
theorem of_calls (e : RtcEngineEx) (cs : List Call) (hcs : ∀ c ∈ cs, c.Silent) :
    SidesKept e (e.emitAll cs) :=
  ⟨⟨rfl, rfl, rfl, Nat.le_refl _⟩, (Still.of_calls e hcs).producers, (Still.of_calls e hcs).data⟩

end SidesKept

namespace MediaInOrder

/-- Steps that leave the media alone keep them in order. -/
theorem kept (h : MediaInOrder e) (hk : SidesKept e e') : MediaInOrder e' where
  producers := by
    rw [hk.producers]
    exact h.producers.mono hk.nextRef
  data := by
    rw [hk.data]
    exact h.data.mono hk.nextRef
  consumers := h.consumers.kept hk.toConsumersKept

/-- A new engine has no media. -/
theorem initial (config : RtcEngineConfig) : MediaInOrder (Client.initial config).engine where
  producers := Slots.WF.of_empty (fun k ↦ by cases k <;> rfl) rfl rfl rfl
  data := Slots.WF.of_empty (fun l ↦ by cases l <;> rfl) rfl rfl rfl
  consumers := by
    constructor <;> simp [Client.initial, RtcEngineEx.openConsumers]

/-- Nothing outside the worker brings the media out of order. -/
theorem netStep (h : MediaInOrder e) (hs : NetStep e e') : MediaInOrder e' := by
  obtain ⟨hproducers, hdata, hnext⟩ := hs.sendSide
  refine ⟨?_, ?_, ?_⟩
  · rw [hproducers]
    exact h.producers.mono hnext
  · rw [hdata]
    exact h.data.mono hnext
  · cases hs with
    | same => exact h.consumers
    | calls cs hcs => exact h.consumers.kept ⟨rfl, rfl, rfl, Nat.le_refl _⟩
    | close => exact h.consumers.kept ⟨rfl, rfl, rfl, Nat.le_refl _⟩
    | setServerRoomId r => exact h.consumers.kept ⟨rfl, rfl, rfl, Nat.le_refl _⟩
    | notify n o => exact h.consumers.handleNotification n o
    | joinReply users =>
      rw [RtcEngineEx.onJoinReply_eq]
      exact h.consumers.kept ⟨rfl, rfl, rfl, Nat.le_refl _⟩

private theorem consumersKept_of_frame (hf : MediaFrame e e') (hn : e.nextRef ≤ e'.nextRef) :
    ConsumersKept e e' where
  mConsumers := hf.mConsumers
  openConsumers := by
    unfold RtcEngineEx.openConsumers
    rw [hf.mRecvTransport]
  closedConsumers := hf.closedConsumers
  nextRef := hn

/-- A media task adds or releases one slot at most. -/
theorem mediaStep (h : MediaInOrder e) (env : Environment) (task : MediaTask) :
    MediaInOrder (e.mediaStep (env, task)) := by
  have hstep := e.runMediaTask_step env task
  exact ⟨hstep.producers_wf h.producers, hstep.data_wf h.data,
    h.consumers.kept (consumersKept_of_frame hstep.frame hstep.nextRef_le)⟩

end MediaInOrder

-- `joinImpl` makes a transport only where there was none, with empty tables.
private theorem joinStep_sidesKept (env : JoinEnv) {pc : JoinPc} (hpc : PcOk e.link pc) :
    SidesKept e (e.joinStep env pc).1 := by
  have hchange := e.joinStep_joinChange env pc
  generalize (e.joinStep env pc).1 = e' at hchange
  cases hchange with
  | calls _ cs hcs => exact .of_calls e cs hcs
  | load caps d hd => exact ⟨⟨rfl, rfl, rfl, Nat.le_refl _⟩, rfl, rfl⟩
  | sendTransport id =>
    have hnone : e.mSendTransport = none := Option.map_eq_none_iff.mp hpc.2.1
    refine ⟨⟨rfl, rfl, rfl, Nat.le_refl _⟩, ?_, ?_⟩
    · simp only [RtcEngineEx.producerSlots, hnone]
      rfl
    · simp only [RtcEngineEx.dataSlots, hnone]
      rfl
  | recvTransport id =>
    have hnone : e.mRecvTransport = none := Option.map_eq_none_iff.mp hpc.2.2
    refine ⟨⟨rfl, ?_, rfl, Nat.le_refl _⟩, rfl, rfl⟩
    simp only [RtcEngineEx.openConsumers, hnone]
    rfl

namespace Client

variable {s s' : Client}

/-- Until the destroy task has run, the link and the media are in order. -/
def MediaInv (s : Client) : Prop := s.worker = .quit ∨ s.Phases ∧ MediaInOrder s.engine

/-- A step keeps the media in order. -/
theorem MediaInv.step (h : s.MediaInv) (hs : ClientStep s s') : s'.MediaInv := by
  rcases h with h | ⟨hp, hm⟩
  · exact .inl (hs.quit h)
  · rcases PhaseInv.step (.inr hp) hs with hq | hp'
    · exact .inl hq
    · cases hs with
      | net hn => exact .inr ⟨hp', hm.netStep hn.engine⟩
      | task ht _ _ _ _ =>
        refine .inr ⟨hp', ?_⟩
        generalize s'.engine = e' at ht
        cases ht with
        | net hn => exact hm.netStep hn
        | media env task => exact hm.mediaStep env task
      | start _ hengine _ _ _ _ _ =>
        refine .inr ⟨hp', ?_⟩
        rw [hengine]
        exact hm
      | join env pc hw heq =>
        refine .inr ⟨hp', ?_⟩
        rw [heq, s.joinStep_engine]
        exact hm.kept (joinStep_sidesKept env (hp.pc pc hw))
      | destroy _ _ _ _ hw _ _ => exact .inl hw

/-- The media are in order in every state of every run. -/
theorem run_mediaInv (config : RtcEngineConfig) (as : List Action) :
    (run step (initial config) as).MediaInv :=
  run_invariant MediaInv (.inr ⟨initial_phases config 0, .initial config⟩)
    (fun s a h ↦ h.step (s.step_clientStep a)) as

/-- The worker then runs it. -/
theorem DestroyNext.engine_work (h : s.DestroyNext) (env : WorkEnv) :
    (s.work env).engine = s.engine.destroyTask := by
  obtain ⟨hidle, hq⟩ := h
  cases hqueue : s.workQueue with
  | nil =>
    rw [hqueue] at hq
    cases hq
  | cons t q =>
    rw [hqueue] at hq
    cases hq
    simp only [work, hidle, hqueue, runTask]

private theorem MediaInv.of_destroyNext (h : s.MediaInv) (hd : s.DestroyNext) :
    s.engine.TransportsOpen ∧ MediaInOrder s.engine := by
  rcases h with hq | ⟨hp, hm⟩
  · have hidle := hd.1
    rw [hq] at hidle
    cases hidle
  · exact ⟨hp.link.transportsOpen, hm⟩

end Client

/-! ### What was produced -/

/-- Every producer and data producer ever returned is closed and all four fields are null. -/
structure AllClosed (e : RtcEngineEx) : Prop where
  producers : ∀ p ∈ e.returnedProducers, p.ref ∈ e.closedProducers
  dataProducers : ∀ p ∈ e.returnedDataProducers, p.ref ∈ e.closedDataProducers
  mVideoProducer : e.mVideoProducer = none
  mAudioProducer : e.mAudioProducer = none
  mChatDataProducer : e.mChatDataProducer = none
  mBotDataProducer : e.mBotDataProducer = none

/-- Each of the four fields that is set holds the object that the send transport lists under
its id. -/
structure FieldsListed (e : RtcEngineEx) : Prop where
  producers : ∀ k p, e.mProducer k = some p → e.producerSlots.table[p.id]? = some p
  dataProducers : ∀ l p, e.mDataProducer l = some p → e.dataSlots.table[p.id]? = some p

private theorem allClosed_iff :
    AllClosed e ↔
      ((∀ p ∈ e.producerSlots.made, p.ref ∈ e.producerSlots.closed) ∧
        ∀ k, e.producerSlots.slot k = none) ∧
      ((∀ p ∈ e.dataSlots.made, p.ref ∈ e.dataSlots.closed) ∧ ∀ l, e.dataSlots.slot l = none) := by
  constructor
  · intro h
    refine ⟨⟨h.producers, ?_⟩, ⟨h.dataProducers, ?_⟩⟩
    · intro k
      cases k with
      | audio => exact h.mAudioProducer
      | video => exact h.mVideoProducer
    · intro l
      cases l with
      | chat => exact h.mChatDataProducer
      | bot => exact h.mBotDataProducer
  · rintro ⟨⟨hp, hslot⟩, ⟨hd, hslot'⟩⟩
    exact ⟨hp, hd, hslot .video, hslot .audio, hslot' .chat, hslot' .bot⟩

private theorem destroyTask_allClosed_iff (ho : e.TransportsOpen) (hm : MediaInOrder e) :
    AllClosed e.destroyTask ↔ FieldsListed e := by
  have hview := RtcEngineEx.sendView_destroyTask ho
  simp only [RtcEngineEx.sendView, Prod.mk.injEq] at hview
  rw [allClosed_iff, hview.1, hview.2.1]
  simp only [Slots.closeAll_made]
  have hproducers := hm.producers.closeAll_complete_iff
  have hdata := hm.data.vacate_closeAll_complete_iff e.openLabels
  constructor
  · rintro ⟨hp, hd⟩
    exact ⟨hproducers.mp hp, hdata.mp hd⟩
  · intro h
    exact ⟨hproducers.mpr h.producers, hdata.mpr h.dataProducers⟩

/-- In every run, when the destroy task has finished everything ever produced is closed and
forgotten exactly when the send transport listed, as the task started, the objects that the
four fields held. -/
theorem destroy_allClosed_iff (config : RtcEngineConfig) (as : List Action) (env : WorkEnv)
    (h : (run Client.step (Client.initial config) as).DestroyNext) :
    AllClosed ((run Client.step (Client.initial config) as).work env).engine ↔
      FieldsListed (run Client.step (Client.initial config) as).engine := by
  obtain ⟨ho, hm⟩ := (Client.run_mediaInv config as).of_destroyNext h
  rw [h.engine_work]
  exact destroyTask_allClosed_iff ho hm

/-- A new object of this task gets an id that no held object of its sort has. -/
def FilesFresh (e : RtcEngineEx) (env : Environment) (task : MediaTask) : Prop :=
  ∀ id, e.producedId env.produce = some id →
    (∀ k, task = .enable k → ∀ k' p, e.mProducer k' = some p → p.id ≠ id) ∧
      ∀ l, task = .enableData l → ∀ l' p, e.mDataProducer l' = some p → p.id ≠ id

/-- The media task that the worker takes next, if it takes one, files its object under a
fresh id. -/
def Client.FreshId (s : Client) : Action → Prop
  | .work env => ∀ task q, s.worker = .idle → s.workQueue = .media task :: q →
    FilesFresh s.engine env.media task
  | _ => True

private theorem fieldsListed_iff :
    FieldsListed e ↔ e.producerSlots.Filed ∧ e.dataSlots.Filed :=
  ⟨fun h ↦ ⟨h.producers, h.dataProducers⟩, fun h ↦ ⟨h.1, h.2⟩⟩

private theorem FieldsListed.of_slots (h : FieldsListed e) (hp : e'.producerSlots = e.producerSlots)
    (hd : e'.dataSlots = e.dataSlots) : FieldsListed e' := by
  rw [fieldsListed_iff, hp, hd]
  exact fieldsListed_iff.mp h

private theorem FieldsListed.mediaStep (h : FieldsListed e) (hm : MediaInOrder e)
    {env : Environment} {task : MediaTask} (hfresh : FilesFresh e env task) :
    FieldsListed (e.mediaStep (env, task)) := by
  have hstep := e.runMediaTask_step env task
  unfold RtcEngineEx.mediaStep
  generalize (e.runMediaTask env task).engine = e' at hstep
  rw [fieldsListed_iff] at h
  obtain ⟨hproducers, hdata⟩ := h
  cases hstep with
  | still hs _ _ =>
    rw [fieldsListed_iff, hs.producers, hs.data]
    exact ⟨hproducers, hdata⟩
  | opened k id htask _ hid hs =>
    rw [fieldsListed_iff, hs.producers, hs.data]
    exact ⟨hproducers.add ((hfresh id hid).1 k htask), hdata⟩
  | closed k p _ _ hs =>
    rw [fieldsListed_iff, hs.producers, hs.data]
    exact ⟨hproducers.release hm.producers k, hdata⟩
  | openedData l id htask _ _ hid hs =>
    rw [fieldsListed_iff, hs.producers, hs.data]
    exact ⟨hproducers, hdata.add ((hfresh id hid).2 l htask)⟩

/-- Until the destroy task has run, the fields hold listed objects. -/
private def Client.ListedInv (s : Client) : Prop :=
  s.MediaInv ∧ (s.worker = .quit ∨ FieldsListed s.engine)

private theorem Client.ListedInv.work {s : Client} (hp : s.Phases) (hm : MediaInOrder s.engine)
    (hl : FieldsListed s.engine) {env : WorkEnv} (hfresh : s.FreshId (.work env)) :
    (s.work env).worker = .quit ∨ FieldsListed (s.work env).engine := by
  unfold Client.work
  cases hw : s.worker with
  | joining pc =>
    have hkept := joinStep_sidesKept env.join (hp.pc pc hw)
    right
    simp only [Client.joinStep_engine]
    exact hl.of_slots hkept.producers hkept.data
  | crashed => exact .inr hl
  | quit => exact .inr hl
  | idle =>
    cases hq : s.workQueue with
    | nil => exact .inr hl
    | cons t q =>
      cases t with
      | joinImpl => exact .inr hl
      | throwRuntimeException => exact .inr hl
      | createRoomMediasoup =>
        obtain ⟨cs, hcs, heq⟩ := s.engine.createRoomMediasoup_calls env.createRoom
        have hstill := Still.of_calls s.engine hcs
        rw [← heq] at hstill
        exact .inr (hl.of_slots hstill.producers hstill.data)
      | media task => exact .inr (hl.mediaStep hm (hfresh task q hw hq))
      | destroy => exact .inl rfl

private theorem Client.ListedInv.step {s : Client} (h : s.ListedInv) {a : Action}
    (hfresh : s.FreshId a) : (s.step a).ListedInv := by
  refine ⟨h.1.step (s.step_clientStep a), ?_⟩
  rcases h with ⟨hq | ⟨hp, hm⟩, hl⟩
  · exact .inl ((s.step_clientStep a).quit hq)
  · rcases hl with hq | hl
    · exact .inl ((s.step_clientStep a).quit hq)
    · by_cases ha : ∃ env, a = .work env
      · obtain ⟨env, rfl⟩ := ha
        exact Client.ListedInv.work hp hm hl hfresh
      · have hout := s.step_outsideStep fun env he ↦ ha ⟨env, he⟩
        obtain ⟨hproducers, hdata, -⟩ := hout.engine.sendSide
        exact .inr (hl.of_slots hproducers hdata)

/-- A run whose producers and data producers never share an id with a held one ends with
everything closed and forgotten. -/
theorem destroy_allClosed_of_freshIds (config : RtcEngineConfig) (as : List Action) (env : WorkEnv)
    (hfresh : Guarded Client.step Client.FreshId (Client.initial config) as)
    (h : (run Client.step (Client.initial config) as).DestroyNext) :
    AllClosed ((run Client.step (Client.initial config) as).work env).engine := by
  have hempty : FieldsListed (Client.initial config).engine := by
    constructor
    · intro k p hp
      cases k <;> cases hp
    · intro l p hp
      cases l <;> cases hp
  have hinv : (run Client.step (Client.initial config) as).ListedInv :=
    hfresh.run_invariant Client.ListedInv
      ⟨.inr ⟨Client.initial_phases config 0, .initial config⟩, .inr hempty⟩
      fun _ _ hi hg ↦ hi.step hg
  obtain ⟨hopen, hm⟩ := hinv.1.of_destroyNext h
  rw [h.engine_work]
  apply (destroyTask_allClosed_iff hopen hm).mpr
  rcases hinv.2 with hq | hl
  · have hidle := h.1
    rw [hq] at hidle
    cases hidle
  · exact hl

/-- A microphone producer answered before `destroy` is called. -/
def producedThenDestroyed : List Action :=
  joinOnce ++ [.enableAudio, .work (workGood "mic"), .destroy]

/-- It and both data producers are closed. -/
theorem destroy_allClosed_produced_before :
    AllClosed
      ((run Client.step (Client.initial {}) producedThenDestroyed).work (workGood "")).engine := by
  refine (destroy_allClosed_iff {} producedThenDestroyed _ ⟨by decide, by decide⟩).mpr ⟨?_, ?_⟩
  · intro k p hp
    cases k with
    | audio =>
      have hmic :
          (run Client.step (Client.initial {}) producedThenDestroyed).engine.mProducer .audio =
          some ⟨2, "mic", .audio⟩ := by decide
      rw [hmic] at hp
      cases hp
      decide
    | video =>
      have hcam :
          (run Client.step (Client.initial {}) producedThenDestroyed).engine.mProducer .video =
          none := by decide
      rw [hcam] at hp
      cases hp
  · intro l p hp
    cases l with
    | chat =>
      have hchat : (run Client.step (Client.initial {})
          producedThenDestroyed).engine.mDataProducer .chat = some ⟨0, "chat", .chat⟩ := by decide
      rw [hchat] at hp
      cases hp
      decide
    | bot =>
      have hbot : (run Client.step (Client.initial {})
          producedThenDestroyed).engine.mDataProducer .bot = some ⟨1, "bot", .bot⟩ := by decide
      rw [hbot] at hp
      cases hp
      decide

/-- Both media are enabled, `destroy` is called, and then the worker gets to its queue. -/
def destroyedThenProduced : List Action :=
  joinOnce ++ [.enableAudio, .enableVideo, .main, .destroy, .work (workGood "mic"),
    .work (workGood "cam")]

/-- `onProduce` has returned the empty id for both, so the transport lists the camera only:
the microphone is neither closed nor forgotten. -/
theorem destroy_leaves_displaced_producer :
    (run Client.step (Client.initial {}) destroyedThenProduced).DestroyNext ∧
    ((run Client.step (Client.initial {}) destroyedThenProduced).work
      (workGood "")).engine.mAudioProducer =
      some ⟨2, "", .audio⟩ ∧
    ¬ AllClosed
      ((run Client.step (Client.initial {}) destroyedThenProduced).work (workGood "")).engine := by
  have hmic : ((run Client.step (Client.initial {}) destroyedThenProduced).work
      (workGood "")).engine.mAudioProducer = some ⟨2, "", .audio⟩ := by decide
  refine ⟨⟨by decide, by decide⟩, hmic, ?_⟩
  intro hall
  rw [hall.mAudioProducer] at hmic
  cases hmic

/-! ### Remote video tracks -/

/-- Between the two states the track of this consumer was switched off once and disposed of
once. -/
def ReleasedOnce (e e' : RtcEngineEx) (r : Ref) : Prop :=
  e'.trackCalls r = ((e.trackCalls r).1 + 1, (e.trackCalls r).2 + 1)

/-- The worker's next step releases the track of every remote video consumer held now. -/
def Client.ReleasesVideo (s : Client) (env : WorkEnv) : Prop :=
  ∀ (c : String) (holder : ConsumerHolder), s.engine.mConsumers[c]? = some holder →
    holder.mConsumer.kind = .video → ReleasedOnce s.engine (s.work env).engine holder.mConsumer.ref

/-- No remote video consumer is held. -/
def HoldsNoVideo (e : RtcEngineEx) : Prop :=
  ∀ (c : String) (holder : ConsumerHolder), e.mConsumers[c]? = some holder →
    holder.mConsumer.kind ≠ .video

private theorem destroyTask_trackCalls (ho : e.TransportsOpen) (hm : MediaInOrder e)
    {c : String} {holder : ConsumerHolder} (hc : e.mConsumers[c]? = some holder) (r : Ref) :
    e.destroyTask.trackCalls r = e.trackCalls r := by
  have hrecv : e.mRecvTransport.isSome := by
    cases ht : e.mRecvTransport with
    | some t => rfl
    | none =>
      have hlisted := hm.consumers.listed c
      simp [hc, RtcEngineEx.openConsumers, ht] at hlisted
  exact RtcEngineEx.trackCalls_destroyTask ho hrecv hm.consumers.slots.1 hm.consumers.slots.2 r

/-- In every run, the destroy task releases the track of every remote video consumer held as
it starts exactly when there is none: closing the receive transport has emptied `mConsumers`
before the task walks it. -/
theorem destroy_releasesVideo_iff (config : RtcEngineConfig) (as : List Action) (env : WorkEnv)
    (h : (run Client.step (Client.initial config) as).DestroyNext) :
    (run Client.step (Client.initial config) as).ReleasesVideo env ↔
      HoldsNoVideo (run Client.step (Client.initial config) as).engine := by
  obtain ⟨ho, hm⟩ := (Client.run_mediaInv config as).of_destroyNext h
  unfold Client.ReleasesVideo
  rw [h.engine_work]
  constructor
  · intro hreleased c holder hc hvideo
    have hcalls := hreleased c holder hc hvideo
    rw [ReleasedOnce, destroyTask_trackCalls ho hm hc] at hcalls
    have hcount := congrArg Prod.fst hcalls
    simp at hcount
  · intro hnone c holder hc hvideo
    exact absurd hvideo (hnone c holder hc)

/-- A consumer arrives after the join, and `destroy` is called. -/
def consumedThenDestroyed (kind : Kind) : List Action :=
  joinOnce ++ [.serverJoin, .serverSend newConsumer, .deliver newConsumer (.returns kind),
    .acknowledge, .destroy]

/-- With an audio consumer only, there is nothing to release. -/
theorem destroy_releasesVideo_audio_only :
    (run Client.step (Client.initial {}) (consumedThenDestroyed .audio)).ReleasesVideo
      (workGood "") := by
  refine (destroy_releasesVideo_iff {} _ _ ⟨by decide, by decide⟩).mpr ?_
  have hlist : (run Client.step (Client.initial {})
      (consumedThenDestroyed .audio)).engine.mConsumers.toList =
        [("c", ⟨"u", ⟨2, "c", "p", .audio⟩⟩)] := by decide
  intro c holder hc
  rw [← Std.ExtTreeMap.mem_toList_iff_getElem?_eq_some, hlist] at hc
  cases List.mem_singleton.mp hc
  decide

/-- A video consumer held when the task starts is forgotten, and its track never released. -/
theorem destroy_keeps_video_track :
    (run Client.step (Client.initial {}) (consumedThenDestroyed .video)).DestroyNext ∧
    (run Client.step (Client.initial {}) (consumedThenDestroyed .video)).engine.mConsumers["c"]? =
      some ⟨"u", ⟨2, "c", "p", .video⟩⟩ ∧
    ¬ (run Client.step (Client.initial {}) (consumedThenDestroyed .video)).ReleasesVideo
      (workGood "") := by
  have hheld : (run Client.step (Client.initial {})
      (consumedThenDestroyed .video)).engine.mConsumers["c"]? =
        some ⟨"u", ⟨2, "c", "p", .video⟩⟩ := by decide
  refine ⟨⟨by decide, by decide⟩, hheld, ?_⟩
  intro hreleases
  have hcalls := hreleases "c" _ hheld rfl
  revert hcalls
  unfold ReleasedOnce
  decide

end RtcClient.System
