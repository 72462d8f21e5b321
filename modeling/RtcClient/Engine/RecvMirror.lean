import RtcClient.Engine.ConsumersFiled
import RtcClient.Engine.StoreEvents

/-!
# The store's consumers

While the receive transport is open, its table, `mConsumers` and the store hold the same
consumers, and a user lists its own only. The `onTransportClose` listener of a consumer takes
it out of `mConsumers` and leaves it in the store (`RtcEngineEx.java:1033–1037`).
-/

namespace RtcClient.Engine

open RtcClient.Native RtcClient.Store RtcClient.Lib

namespace RtcEngineEx

variable {e e' : RtcEngineEx}

/-- The receive transport, if there is one, has been closed. -/
def RecvOver (e : RtcEngineEx) : Prop := ∀ t, e.mRecvTransport = some t → t.closed = true

/-- While the receive transport is open its table, `mConsumers` and the store hold the same
consumers; once it is closed none is held. -/
inductive RecvMirror (e : RtcEngineEx) : Prop where
  | opened (ho : e.RecvOpen) (filed : ConsumersFiled e)
      (stored : ∀ c : String, (e.mStore.consumers.consumers[c]?).map (·.mConsumer) =
        (e.mConsumers[c]?).map (·.mConsumer))
      (listed : ∀ p c, e.Lists p c → e.userOf c = some p)
  | closed (hc : e.RecvOver) (empty : e.mConsumers = ∅)

/-- A step that leaves the receiving side and the rest of the store alone. -/
structure RecvKept (e e' : RtcEngineEx) : Prop where
  mRecvTransport : e'.mRecvTransport = e.mRecvTransport
  mConsumers : e'.mConsumers = e.mConsumers
  closedConsumers : e'.closedConsumers = e.closedConsumers
  nextRef : e.nextRef ≤ e'.nextRef
  consumers : e'.mStore.consumers = e.mStore.consumers
  peers : e'.mStore.peers = e.mStore.peers

/-- Such a step keeps what the store lists. -/
theorem RecvKept.current_iff (h : RecvKept e e') : e'.ConsumersCurrent ↔ e.ConsumersCurrent := by
  have hlists : ∀ p c, e'.Lists p c ↔ e.Lists p c := by
    intro p c
    rw [Lists, h.peers, ← Lists]
  constructor
  · rintro ⟨hopen, hlisted⟩
    rw [h.consumers, h.closedConsumers] at hopen
    rw [h.mConsumers] at hlisted
    exact ⟨hopen, fun p c hc ↦ hlisted p c ((hlists p c).mpr hc)⟩
  · rintro ⟨hopen, hlisted⟩
    constructor
    · rw [h.consumers, h.closedConsumers]
      exact hopen
    · rw [h.mConsumers]
      intro p c hc
      exact hlisted p c ((hlists p c).mp hc)

namespace RecvMirror

/-- The mirror outlives steps that leave its side alone. -/
theorem kept (h : e.RecvMirror) (hk : RecvKept e e') : e'.RecvMirror := by
  cases h with
  | opened ho filed stored listed =>
    apply RecvMirror.opened
    · unfold RecvOpen
      rw [hk.mRecvTransport]
      exact ho
    · apply filed.kept ⟨hk.mConsumers, ?_, hk.closedConsumers, hk.nextRef⟩
      unfold openConsumers
      rw [hk.mRecvTransport]
    · rw [hk.consumers, hk.mConsumers]
      exact stored
    · unfold Lists userOf
      rw [hk.peers, hk.mConsumers]
      exact listed
  | closed hc empty =>
    apply RecvMirror.closed
    · unfold RecvOver
      rw [hk.mRecvTransport]
      exact hc
    · rw [hk.mConsumers]
      exact empty

-- While the transport is open the mirror is current.
private theorem current (filed : ConsumersFiled e)
    (stored : ∀ c : String, (e.mStore.consumers.consumers[c]?).map (·.mConsumer) =
      (e.mConsumers[c]?).map (·.mConsumer))
    (listed : ∀ p c, e.Lists p c → e.userOf c = some p) : e.ConsumersCurrent := by
  constructor
  · intro c w hw
    have hheld := stored c
    rw [hw] at hheld
    obtain ⟨holder, hh, hw'⟩ := Option.map_eq_some_iff.mp hheld.symm
    have hsame : holder.mConsumer = w.mConsumer := hw'
    rw [← hsame]
    exact filed.opened c holder hh
  · intro p c hc
    obtain ⟨holder, hh, -⟩ := Option.map_eq_some_iff.mp (listed p c hc)
    exact Std.ExtTreeMap.mem_iff_isSome_getElem?.mpr (by rw [hh]; rfl)

-- A room event keeps `mConsumers` and the stored consumers equal.
private theorem stored_onRoomEvent {ev : RoomEvent} (hstep : TableStep e e' ev)
    (filed : ConsumersFiled e)
    (stored : ∀ c : String, (e.mStore.consumers.consumers[c]?).map (·.mConsumer) =
      (e.mConsumers[c]?).map (·.mConsumer)) (c : String) :
    (e'.mStore.consumers.consumers[c]?).map (·.mConsumer) =
      (e'.mConsumers[c]?).map (·.mConsumer) := by
  cases hstep with
  | create p type d paused _ _ _ _ held hstored _ =>
    rw [held, hstored, Consumers.addConsumer, Std.ExtTreeMap.getElem?_insert,
      Std.ExtTreeMap.getElem?_insert]
    split
    · rfl
    · exact stored c
  | close d holder isHeld _ _ _ _ held hstored _ =>
    rw [held, hstored, Consumers.removeConsumer, filed.own d holder isHeld,
      Std.ExtTreeMap.getElem?_erase, Std.ExtTreeMap.getElem?_erase]
    split
    · rfl
    · exact stored c
  | closeAbsent _ _ _ _ _ _ same =>
    rw [same]
    exact stored c
  | add _ _ _ _ _ held hstored _ =>
    rw [held, hstored]
    exact stored c
  | remove _ _ _ _ _ held hstored _ =>
    rw [held, hstored]
    exact stored c
  | quiet _ _ _ _ held hstored _ _ =>
    rw [held, hstored]
    exact stored c

-- A user lists its own consumers only, as long as no id is created twice.
private theorem listed_onRoomEvent {ev : RoomEvent} (hstep : TableStep e e' ev)
    (hagree : e.TablesAgree) (hids : ∀ c q, ev.Creates c q → c ∉ e.mConsumers)
    (listed : ∀ p c, e.Lists p c → e.userOf c = some p) (p c : String) (hc : e'.Lists p c) :
    e'.userOf c = some p := by
  rw [hstep.userOf c p]
  obtain ⟨-, -, ⟨hcreates, -⟩ | ⟨hlists, hopen⟩⟩ := (hstep.lists hagree p c).mp hc
  · exact .inl hcreates
  · have huser := listed p c hlists
    refine .inr ⟨?_, huser⟩
    rintro (hclosed | ⟨q, hcreates⟩)
    · exact hopen ⟨hclosed, huser⟩
    · obtain ⟨holder, hh, -⟩ := Option.map_eq_some_iff.mp huser
      apply hids c q hcreates
      exact Std.ExtTreeMap.mem_iff_isSome_getElem?.mpr (by rw [hh]; rfl)

end RecvMirror

-- An event with fresh ids creates no consumer under a held id.
private theorem IdsFresh.creates {ev : RoomEvent} (h : e.IdsFresh (.room ev)) (c q : String)
    (hc : ev.Creates c q) : c ∉ e.mConsumers := by
  cases ev with
  | joinReply users => simp [RoomEvent.Creates, RoomEvent.created] at hc
  | notify n o =>
    cases n with
    | createUserConsumer msg =>
      cases o with
      | throws => simp [RoomEvent.Creates, RoomEvent.created] at hc
      | returns kind =>
        have hid : msg.id = c := by
          simp only [RoomEvent.Creates, RoomEvent.created, Option.some.injEq, Prod.mk.injEq] at hc
          exact hc.1
        rw [← hid]
        exact h
    | _ => simp [RoomEvent.Creates, RoomEvent.created] at hc

/-- A step that at most drops consumers from the lists of users. -/
structure ListsShrink (e e' : RtcEngineEx) : Prop where
  mRecvTransport : e'.mRecvTransport = e.mRecvTransport
  mConsumers : e'.mConsumers = e.mConsumers
  closedConsumers : e'.closedConsumers = e.closedConsumers
  consumers : e'.mStore.consumers = e.mStore.consumers
  lists : ∀ p c, e'.Lists p c → e.Lists p c

private theorem ListsShrink.of_eq (h : e' = e) : ListsShrink e e' := by
  rw [h]
  exact ⟨rfl, rfl, rfl, rfl, fun _ _ hc ↦ hc⟩

private theorem ListsShrink.current (h : ListsShrink e e') (hcur : e.ConsumersCurrent) :
    e'.ConsumersCurrent := by
  constructor
  · rw [h.consumers, h.closedConsumers]
    exact hcur.opened
  · rw [h.mConsumers]
    intro p c hc
    exact hcur.listed p c (h.lists p c hc)

private theorem requireOpen_of_over {t : RecvTransport} (hc : t.closed = true) :
    ∃ ex, t.requireOpen = .error ex := by
  unfold RecvTransport.requireOpen
  rw [if_pos hc]
  split
  · exact ⟨_, rfl⟩
  · exact ⟨_, rfl⟩

-- On a closed transport no room event makes, closes or lists a consumer.
private theorem onRoomEvent_of_over (hc : e.RecvOver) (hm : e.mConsumers = ∅) (ev : RoomEvent) :
    ListsShrink e (e.onRoomEvent ev) := by
  cases ev with
  | joinReply users =>
    simp only [onRoomEvent, onJoinReply_eq]
    refine ⟨rfl, rfl, rfl, rfl, ?_⟩
    intro p c hl
    exact ((consumersOf_addPeers users e.mStore.peers p c).mp hl).2
  | notify n o =>
    cases n with
    | userJoined info =>
      refine ⟨rfl, rfl, rfl, rfl, ?_⟩
      intro p c hl
      exact ((consumersOf_addPeers [info] e.mStore.peers p c).mp hl).2
    | userLeft userId id =>
      refine ⟨rfl, rfl, rfl, rfl, ?_⟩
      intro p c hl
      have hmem : c ∈ (e.mStore.peers.removePeer id).consumersOf p := hl
      rw [Peers.consumersOf_removePeer] at hmem
      split at hmem
      · simp at hmem
      · exact hmem
    | userConsumerClosed c kind =>
      apply ListsShrink.of_eq
      apply onConsumerClosed_absent
      rw [hm]
      exact Std.ExtTreeMap.getElem?_empty
    | createUserConsumer msg =>
      apply ListsShrink.of_eq
      apply onNewConsumer_of_none
      cases ht : e.mRecvTransport with
      | none => rw [consumed, ht, Option.bind_none]
      | some t =>
        obtain ⟨ex, hex⟩ := requireOpen_of_over (hc t ht)
        simp only [consumed, ht, Option.bind_some, RecvTransport.consume, hex]
    | createUserTextConsumer msg =>
      apply ListsShrink.of_eq
      apply onNewDataConsumer_of_none
      cases ht : e.mRecvTransport with
      | none => rw [consumedData, ht, Option.bind_none]
      | some t =>
        obtain ⟨ex, hex⟩ := requireOpen_of_over (hc t ht)
        simp only [consumedData, ht, Option.bind_some, RecvTransport.consumeData, hex]
    | roomJoined => exact ⟨rfl, rfl, rfl, rfl, fun _ _ h ↦ h⟩
    | usersOnline users => exact ⟨rfl, rfl, rfl, rfl, fun _ _ h ↦ h⟩
    | roomClosed => exact ⟨rfl, rfl, rfl, rfl, fun _ _ h ↦ h⟩
    | consumerLayersChanged => exact .of_eq rfl
    | consumerScore => exact .of_eq rfl
    | producerScore => exact .of_eq rfl

namespace RecvMirror

/-- A room event with a fresh id keeps the mirror, and the store current. -/
theorem room (h : e.RecvMirror) (ev : RoomEvent) (hids : e.IdsFresh (.room ev)) :
    (e.onRoomEvent ev).RecvMirror ∧ (e.ConsumersCurrent → (e.onRoomEvent ev).ConsumersCurrent) := by
  cases h with
  | opened ho filed stored listed =>
    obtain ⟨hstep, ho'⟩ := onRoomEvent_step ho ev
    have hagree : e.TablesAgree := by
      refine ⟨filed.own, ?_⟩
      intro c
      have hmap := congrArg Option.isSome (stored c)
      rw [Option.isSome_map, Option.isSome_map] at hmap
      rw [Std.ExtTreeMap.mem_iff_isSome_getElem?, Std.ExtTreeMap.mem_iff_isSome_getElem?, hmap]
    have filed' : ConsumersFiled (e.onRoomEvent ev) := by
      cases ev with
      | notify n o => exact filed.handleNotification n o
      | joinReply users =>
        simp only [onRoomEvent, onJoinReply_eq]
        exact filed.kept ⟨rfl, rfl, rfl, Nat.le_refl _⟩
    have stored' := stored_onRoomEvent hstep filed stored
    have listed' := listed_onRoomEvent hstep hagree hids.creates listed
    exact ⟨.opened ho' filed' stored' listed', fun _ ↦ current filed' stored' listed'⟩
  | closed hc empty =>
    have hshrink := onRoomEvent_of_over hc empty ev
    refine ⟨.closed ?_ (hshrink.mConsumers.trans empty), hshrink.current⟩
    unfold RecvOver
    rw [hshrink.mRecvTransport]
    exact hc

private theorem closed_of_held {c : String} {holder : ConsumerHolder} (filed : ConsumersFiled e)
    (hh : e.mConsumers[c]? = some holder) :
    holder.mConsumer.ref ∈
      (e.consumerSlots (e.mConsumers.toList.map (·.2.mConsumer))).closeAll.closed := by
  rw [Slots.mem_closed_closeAll]
  refine .inr ⟨c, holder.mConsumer, ?_, rfl⟩
  change e.openConsumers[c]? = _
  rw [← filed.listed c, hh]
  rfl

/-- The store is current after the receive transport has closed exactly when it did not
close over a consumer. -/
theorem closeRecv (h : e.RecvMirror) :
    (e.onStoreEvent .closeRecv).RecvMirror ∧ (e.ConsumersCurrent →
      ((e.onStoreEvent .closeRecv).ConsumersCurrent ↔ e.ClosesOverNothing .closeRecv)) := by
  cases h with
  | closed hc empty =>
    have hsame : e.onStoreEvent .closeRecv = e := by
      simp only [onStoreEvent]
      split
      · rfl
      · next t ht => rw [closeRecvTransport, if_pos (hc t ht)]
    rw [hsame]
    exact ⟨.closed hc empty, fun hcur ↦ iff_of_true hcur fun _ ↦ empty⟩
  | opened ho filed stored listed =>
    obtain ⟨t, ht, hc, hd⟩ := ho
    obtain ⟨hwf, hfiled⟩ := filed.slots
    have hempty := closeRecvTransport_mConsumers ht hc hwf hfiled
    have hslots := (closeRecvTransport_spec ht hc (e.mConsumers.toList.map (·.2.mConsumer))).1
    obtain ⟨_, _, _, _, hwrites⟩ := e.closeRecvTransport_writes t
    have hstore : (e.closeRecvTransport t).mStore = e.mStore := by rw [hwrites]
    have hrecv : (e.closeRecvTransport t).mRecvTransport = some t.shut := by
      rw [hwrites, hc]
      rfl
    have hguard : e.ClosesOverNothing .closeRecv ↔ e.mConsumers = ∅ := by
      constructor
      · intro h
        exact h ⟨t, ht, hc, hd⟩
      · intro h _
        exact h
    simp only [onStoreEvent, ht, hguard]
    clear hwrites
    generalize e.closeRecvTransport t = x at hempty hslots hstore hrecv
    constructor
    · apply RecvMirror.closed _ hempty
      intro t' ht'
      rw [hrecv] at ht'
      rw [← Option.some.inj ht']
      rfl
    · intro hcur
      constructor
      · -- a consumer that was held is now closed, and the store still lists it
        intro hcur'
        apply Std.ExtTreeMap.ext_getElem?
        intro c
        rw [Std.ExtTreeMap.getElem?_empty]
        by_contra hheld
        obtain ⟨holder, hh⟩ := Option.ne_none_iff_exists'.mp hheld
        have hw := stored c
        rw [hh, Option.map_some] at hw
        obtain ⟨w, hw, hsame⟩ := Option.map_eq_some_iff.mp hw
        have hsame : w.mConsumer = holder.mConsumer := hsame
        rw [← hstore] at hw
        apply hcur'.opened c w hw
        have hclosed := closed_of_held filed hh
        rw [← hslots] at hclosed
        rw [hsame]
        exact hclosed
      · intro hnone
        constructor
        · intro c w hw
          have hheld := stored c
          rw [← hstore, hw, hnone] at hheld
          simp at hheld
        · intro p c hl
          rw [Lists, hstore, ← Lists] at hl
          have huser := listed p c hl
          rw [userOf, hnone] at huser
          simp at huser

end RecvMirror

end RtcEngineEx

end RtcClient.Engine
