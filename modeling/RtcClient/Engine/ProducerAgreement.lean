import RtcClient.Engine.MediaTasks
import RtcClient.Lib.Run

/-!
# Server, send transport and engine on the local producers

Three parties hold the set of local producers: the server by its answers to
`CREATE_USER_PRODUCE` and the later `CLOSE_USER_PRODUCER` requests, the native transport by
its table, and the engine by `mAudioProducer` and `mVideoProducer`
(`RtcEngineEx.java:388–454,468–522,867–887`). While the engine is not closed and the server
never repeats an id, they agree after every media task.
-/

namespace RtcClient.Engine

open RtcClient.Native RtcClient.Store RtcClient.Lib

namespace RtcEngineEx

/-- Ids of one kind that the server holds: answered, and not asked to be closed. -/
def serverProducers (e : RtcEngineEx) (kind : Kind) : Set String :=
  { id | id ∈ e.answeredIds kind ∧ id ∉ e.closeRequests }

/-- Ids of the open native producers of one kind on `mSendTransport`. -/
def nativeProducers (e : RtcEngineEx) (kind : Kind) : Set String :=
  { id | ∃ (t : SendTransport) (i : String) (p : Producer), e.mSendTransport = some t ∧
    t.producers[i]? = some p ∧ p.kind = kind ∧ p.ref ∉ e.closedProducers ∧ p.id = id }

/-- Id of `mAudioProducer` or `mVideoProducer`, if the field is set. -/
def fieldProducers (e : RtcEngineEx) (kind : Kind) : Set String :=
  { id | ∃ p, e.mProducer kind = some p ∧ p.id = id }

/-- The three parties hold the same producers of each kind, and none was closed twice at the
server. -/
structure ProducersAgree (e : RtcEngineEx) : Prop where
  server_native : ∀ k, e.serverProducers k = e.nativeProducers k
  native_field : ∀ k, e.nativeProducers k = e.fieldProducers k
  closedOnce : e.closeRequests.Nodup

/-- The server has answered no id twice. -/
def AnswersDistinct (e : RtcEngineEx) : Prop :=
  (e.answeredIds .audio ++ e.answeredIds .video).Nodup

/-- Nothing has been produced yet, and the engine is in use. -/
structure SendingFresh (e : RtcEngineEx) : Prop where
  live : e.mClosed = false
  client : e.mStartupClient.isSome
  noProducer : ∀ k, e.mProducer k = none
  noTable : ∀ t, e.mSendTransport = some t → t.producers = ∅
  noneClosed : e.closedProducers = ∅
  noneMade : e.returnedProducers = []
  noneAnswered : ∀ k, e.answeredIds k = []
  noneRequested : e.closeRequests = []

/-- What the three parties keep among them. -/
structure Agreement (e : RtcEngineEx) : Prop where
  live : e.mClosed = false
  client : e.mStartupClient.isSome
  wf : e.producerSlots.WF e.nextRef
  filed : e.producerSlots.Filed
  held : ∀ k id, (∃ p, e.mProducer k = some p ∧ p.id = id) ↔
    id ∈ e.answeredIds k ∧ id ∉ e.closeRequests
  closedOnce : e.closeRequests.Nodup
  closedAnswered : ∀ id ∈ e.closeRequests, ∃ k, id ∈ e.answeredIds k

variable {e e' : RtcEngineEx}

/-- An engine that has produced nothing agrees with everyone. -/
theorem SendingFresh.agreement (h : e.SendingFresh) : e.Agreement where
  live := h.live
  client := h.client
  wf := by
    refine Slots.WF.of_empty h.noProducer ?_ h.noneMade h.noneClosed
    cases ht : e.mSendTransport with
    | none => simp [producerSlots, ht]
    | some t => simp [producerSlots, ht, h.noTable t ht]
  filed := by
    intro k p hp
    have hnone := h.noProducer k
    rw [show e.producerSlots.slot k = e.mProducer k from rfl, hnone] at hp
    cases hp
  held := by simp [h.noProducer, h.noneAnswered]
  closedOnce := by simp [h.noneRequested]
  closedAnswered := by simp [h.noneRequested]

/-- An id is answered for one kind only. -/
theorem AnswersDistinct.kind_eq (h : e.AnswersDistinct) {k k' : Kind} {id : String}
    (hk : id ∈ e.answeredIds k) (hk' : id ∈ e.answeredIds k') : k = k' := by
  have hdis := (List.nodup_append.mp h).2.2
  cases k <;> cases k'
  · rfl
  · exact absurd rfl (hdis id hk id hk')
  · exact absurd rfl (hdis id hk' id hk)
  · rfl

/-- Fewer answers are still distinct. -/
theorem AnswersDistinct.of_append (h : e'.AnswersDistinct)
    (hs : ∀ k, ∃ l, e'.answeredIds k = e.answeredIds k ++ l) : e.AnswersDistinct := by
  obtain ⟨la, ha⟩ := hs .audio
  obtain ⟨lv, hv⟩ := hs .video
  rw [AnswersDistinct, ha, hv] at h
  exact h.sublist ((List.sublist_append_left _ _).append (List.sublist_append_left _ _))

/-- A newly answered id was never answered before. -/
theorem AnswersDistinct.fresh (h : e'.AnswersDistinct) {k : Kind} {id : String}
    (hs : ∀ k', e'.answeredIds k' = e.answeredIds k' ++ if k' = k then [id] else []) (k' : Kind) :
    id ∉ e.answeredIds k' := by
  intro hid
  have hold : id ∈ e'.answeredIds k' := by
    rw [hs k']
    exact List.mem_append_left _ hid
  have hnew : id ∈ e'.answeredIds k := by
    rw [hs k, if_pos rfl]
    simp
  have hk := h.kind_eq hold hnew
  subst hk
  have hnodup : (e'.answeredIds k').Nodup := by
    cases k' with
    | audio => exact (List.nodup_append.mp h).1
    | video => exact (List.nodup_append.mp h).2.1
  rw [hs k', if_pos rfl, List.nodup_append] at hnodup
  exact hnodup.2.2 id hid id (by simp) rfl

/-- Every step only adds answers. -/
theorem MediaStep.answered_append {env : Environment} {task : MediaTask}
    (h : MediaStep e e' env task) (k : Kind) : ∃ l, e'.answeredIds k = e.answeredIds k ++ l := by
  cases h with
  | still hs _ _ => exact ⟨[], by rw [hs.answered, List.append_nil]⟩
  | opened _ _ _ _ _ hs => exact ⟨_, hs.answered k⟩
  | closed _ _ _ _ hs => exact ⟨[], by rw [hs.answered, List.append_nil]⟩
  | openedData _ _ _ _ _ _ hs => exact ⟨[], by rw [hs.answered, List.append_nil]⟩

-- Steps that touch no producer keep the agreement.
private theorem Agreement.of_same (h : e.Agreement) (frame : MediaFrame e e')
    (producers : e'.producerSlots = e.producerSlots) (hn : e.nextRef ≤ e'.nextRef)
    (answered : ∀ k, e'.answeredIds k = e.answeredIds k)
    (closeRequests : e'.closeRequests = e.closeRequests) : e'.Agreement where
  live := frame.mClosed.trans h.live
  client := by rw [frame.mStartupClient]; exact h.client
  wf := by rw [producers]; exact h.wf.mono hn
  filed := by rw [producers]; exact h.filed
  held := by
    intro k id
    have hslot : e'.mProducer = e.mProducer := congrArg Slots.slot producers
    rw [hslot, answered, closeRequests]
    exact h.held k id
  closedOnce := by rw [closeRequests]; exact h.closedOnce
  closedAnswered := by
    intro id hid
    rw [closeRequests] at hid
    obtain ⟨k, hk⟩ := h.closedAnswered id hid
    exact ⟨k, by rw [answered]; exact hk⟩

-- A producer under a fresh id keeps the agreement.
private theorem Agreement.of_opened (h : e.Agreement) {k : Kind} {id : String}
    (hnone : e.mProducer k = none) (hs : Opened e e' k id true) (hd : e'.AnswersDistinct) :
    e'.Agreement := by
  have hans : ∀ k', e'.answeredIds k' = e.answeredIds k' ++ if k' = k then [id] else [] := by
    simpa using hs.answered
  have hfresh := hd.fresh hans
  have hslot : e'.mProducer = Function.update e.mProducer k (some ⟨e.nextRef, id, k⟩) :=
    congrArg Slots.slot hs.producers
  have hnotClosed : id ∉ e.closeRequests := by
    intro hid
    obtain ⟨k', hk'⟩ := h.closedAnswered id hid
    exact hfresh k' hk'
  refine ⟨hs.mClosed.trans h.live, ?_, ?_, ?_, ?_, ?_, ?_⟩
  · rw [hs.mStartupClient]
    exact h.client
  · rw [hs.producers, hs.nextRef]
    exact h.wf.add hnone rfl
  · rw [hs.producers]
    apply h.filed.add
    intro k' m hm he
    -- an open producer under this id would have been answered before
    have hm' := ((h.held k' m.id).mp ⟨m, hm, rfl⟩).1
    rw [show m.id = id from he] at hm'
    exact hfresh k' hm'
  · intro k' id'
    rw [hslot, hans, hs.closeRequests]
    by_cases hk : k' = k
    · subst hk
      have hno : ¬ (id' ∈ e.answeredIds k' ∧ id' ∉ e.closeRequests) := by
        rw [← h.held k' id', hnone]
        simp
      rw [Function.update_self, if_pos rfl, List.mem_append, List.mem_singleton]
      constructor
      · rintro ⟨p, hp, hid⟩
        rw [← Option.some.inj hp] at hid
        rw [← hid]
        exact ⟨.inr rfl, hnotClosed⟩
      · rintro ⟨hid | rfl, hc⟩
        · exact absurd ⟨hid, hc⟩ hno
        · exact ⟨_, rfl, rfl⟩
    · rw [Function.update_of_ne hk, if_neg hk, List.append_nil]
      exact h.held k' id'
  · rw [hs.closeRequests]
    exact h.closedOnce
  · intro id' hid'
    rw [hs.closeRequests] at hid'
    obtain ⟨k', hk'⟩ := h.closedAnswered id' hid'
    refine ⟨k', ?_⟩
    rw [hans]
    exact List.mem_append_left _ hk'

-- Closing the producer of a field keeps the agreement.
private theorem Agreement.of_closed (h : e.Agreement) {k : Kind} {p : Producer}
    (hp : e.mProducer k = some p) (hs : Closed e e' k p) (hd : e.AnswersDistinct) :
    e'.Agreement := by
  have hslot : e'.mProducer = Function.update e.mProducer k none :=
    (congrArg Slots.slot hs.producers).trans (Slots.release_slot _ k)
  have hreq : e'.closeRequests = e.closeRequests ++ [p.id] := by
    rw [hs.closeRequests, if_pos h.client]
  obtain ⟨hpAns, hpOpen⟩ := (h.held k p.id).mp ⟨p, hp, rfl⟩
  refine ⟨hs.mClosed.trans h.live, ?_, ?_, ?_, ?_, ?_, ?_⟩
  · rw [hs.mStartupClient]
    exact h.client
  · rw [hs.producers, hs.nextRef]
    exact h.wf.release k
  · rw [hs.producers]
    exact h.filed.release h.wf k
  · intro k' id
    rw [hslot, hs.answered, hreq, List.mem_append, List.mem_singleton, not_or]
    by_cases hk : k' = k
    · subst hk
      rw [Function.update_self]
      constructor
      · rintro ⟨q, hq, -⟩
        cases hq
      · rintro ⟨hid, hc, hne⟩
        obtain ⟨q, hq, hqid⟩ := (h.held k' id).mpr ⟨hid, hc⟩
        rw [hp] at hq
        rw [← Option.some.inj hq] at hqid
        exact absurd hqid.symm hne
    · rw [Function.update_of_ne hk, h.held k' id]
      constructor
      · rintro ⟨hid, hc⟩
        refine ⟨hid, hc, ?_⟩
        rintro rfl
        exact hk (hd.kind_eq hid hpAns)
      · rintro ⟨hid, hc, -⟩
        exact ⟨hid, hc⟩
  · rw [hreq, List.nodup_append]
    refine ⟨h.closedOnce, by simp, ?_⟩
    intro a ha b hb hab
    rw [List.mem_singleton.mp hb] at hab
    rw [hab] at ha
    exact hpOpen ha
  · intro id hid
    rw [hreq, List.mem_append, List.mem_singleton] at hid
    rcases hid with hid | rfl
    · obtain ⟨k', hk'⟩ := h.closedAnswered id hid
      exact ⟨k', by rw [hs.answered]; exact hk'⟩
    · exact ⟨k, by rw [hs.answered]; exact hpAns⟩

/-- Every task whose produce throws or is answered keeps the agreement. -/
theorem Agreement.mediaStep {a : Environment × MediaTask} (h : e.Agreement)
    (ha : a.1.produce = .throws ∨ ∃ s, a.1.produce = .asks (.id s))
    (hd : (e.mediaStep a).AnswersDistinct) : (e.mediaStep a).Agreement := by
  obtain ⟨env, task⟩ := a
  have hstep := e.runMediaTask_step env task
  have hdOld : e.AnswersDistinct := hd.of_append (MediaStep.answered_append hstep)
  cases hstep with
  | still hs _ _ =>
    exact h.of_same hs.toMediaFrame hs.producers hs.nextRef.ge hs.answered hs.closeRequests
  | openedData l id _ _ _ _ hs =>
    exact h.of_same hs.toMediaFrame hs.producers (hs.nextRef ▸ Nat.le_succ _) hs.answered
      hs.closeRequests
  | closed k p _ hp hs => exact h.of_closed hp hs hdOld
  | opened k id _ hopens hid hs =>
    have htold : e.told env.produce = true := by
      rcases ha with ha | ⟨s, ha⟩
      · rw [show env.produce = .throws from ha] at hid
        cases hid
      · rw [show env.produce = .asks (.id s) from ha]
        simp [told, h.live]
    rw [htold] at hs
    exact h.of_opened hopens.noProducer hs hd

-- An open producer on the transport is the one in the field of its kind.
private theorem Agreement.native_field (h : e.Agreement) (k : Kind) :
    e.nativeProducers k = e.fieldProducers k := by
  ext id
  constructor
  · rintro ⟨t, i, p, ht, hp, rfl, -, rfl⟩
    have htable : e.producerSlots.table[i]? = some p := by
      rw [show e.producerSlots.table = t.producers by simp [producerSlots, ht]]
      exact hp
    exact ⟨p, (h.wf.table_held i p htable).2, rfl⟩
  · rintro ⟨p, hp, rfl⟩
    have hfiled : e.producerSlots.table[p.id]? = some p := h.filed k p hp
    cases ht : e.mSendTransport with
    | none => simp [producerSlots, ht] at hfiled
    | some t =>
      rw [show e.producerSlots.table = t.producers by simp [producerSlots, ht]] at hfiled
      exact ⟨t, p.id, p, ht, hfiled, h.wf.slot_home k p hp, h.wf.slot_open k p hp, rfl⟩

/-- The invariant says that the three sets are one. -/
theorem Agreement.producersAgree (h : e.Agreement) : e.ProducersAgree where
  server_native k := by
    rw [h.native_field k]
    ext id
    exact (h.held k id).symm
  native_field := h.native_field
  closedOnce := h.closedOnce

private theorem run_answered_append (as : List (Environment × MediaTask)) (k : Kind) :
    ∃ l, (run RtcEngineEx.mediaStep e as).answeredIds k = e.answeredIds k ++ l := by
  induction as generalizing e with
  | nil => exact ⟨[], by simp⟩
  | cons a as ih =>
    obtain ⟨l, hl⟩ := MediaStep.answered_append (e.runMediaTask_step a.1 a.2) k
    obtain ⟨l', hl'⟩ := @ih (e.mediaStep a)
    refine ⟨l ++ l', ?_⟩
    rw [run_cons, hl', RtcEngineEx.mediaStep, hl, List.append_assoc]

-- The invariant along a run whose answers are distinct.
private theorem run_agreement (hf : e.Agreement) (as : List (Environment × MediaTask))
    (hout : ∀ a ∈ as, a.1.produce = .throws ∨ ∃ s, a.1.produce = .asks (.id s))
    (hd : (run RtcEngineEx.mediaStep e as).AnswersDistinct) :
    (run RtcEngineEx.mediaStep e as).Agreement := by
  induction as generalizing e with
  | nil => exact hf
  | cons a as ih =>
    have hd' : (e.mediaStep a).AnswersDistinct := hd.of_append (run_answered_append as)
    have ha := hf.mediaStep (hout a (by simp)) hd'
    exact ih ha (fun b hb ↦ hout b (by simp [hb])) hd

/-- Along every run of media tasks the server, the native transport and the engine hold the
same producers of each kind in every state between tasks. -/
theorem producersAgree_always (hf : e.SendingFresh) (as : List (Environment × MediaTask))
    (hout : ∀ a ∈ as, a.1.produce = .throws ∨ ∃ s, a.1.produce = .asks (.id s))
    (hd : (run RtcEngineEx.mediaStep e as).AnswersDistinct) :
    Always RtcEngineEx.mediaStep ProducersAgree e as := by
  rintro pre ⟨post, rfl⟩
  rw [run_append] at hd
  have hd' : (run RtcEngineEx.mediaStep e pre).AnswersDistinct :=
    hd.of_append (run_answered_append post)
  have hout' := fun a ha ↦ hout a (List.mem_append_left post ha)
  exact (run_agreement hf.agreement pre hout' hd').producersAgree

end RtcEngineEx

/-- An engine that has just joined has produced nothing. -/
theorem joinedEngine_sendingFresh : joinedEngine.SendingFresh where
  live := rfl
  client := rfl
  noProducer k := by cases k <;> rfl
  noTable := by
    intro t ht
    rw [← Option.some.inj ht]
  noneClosed := rfl
  noneMade := rfl
  noneAnswered _ := rfl
  noneRequested := rfl

/-- Audio and camera enabled, the camera after a failed attempt, then switched off and on. -/
def cameraTwice : List (Environment × MediaTask) :=
  [answering "a" (.enable .audio), throwing (.enable .video), answering "b" (.enable .video),
    throwing (.disable .video), answering "c" (.enable .video)]

/-- The three parties agree along that run, which ends with the second camera. -/
theorem producersAgree_always_cameraTwice :
    Always RtcEngineEx.mediaStep RtcEngineEx.ProducersAgree joinedEngine cameraTwice ∧
      (run RtcEngineEx.mediaStep joinedEngine cameraTwice).mProducer .video =
        some ⟨2, "c", .video⟩ := by
  refine ⟨RtcEngineEx.producersAgree_always joinedEngine_sendingFresh cameraTwice ?_ ?_, by decide⟩
  · simp [cameraTwice, answering, throwing]
  · unfold RtcEngineEx.AnswersDistinct
    decide

end RtcClient.Engine
