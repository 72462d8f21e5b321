import RtcClient.Engine.Destroy
import RtcClient.Engine.Notifications
import RtcClient.Lib.Run

/-!
# Remote data channels

A data consumer is entered in `mDataConsumers`, in the store and in its user's index when it
is made (`RtcEngineEx.java:1111–1115`). Of its listener's methods only `OnClose`, which the
native object calls when its channel has closed (`DataConsumer.cpp:28–52`), undoes any of
this, and it undoes the first entry only (`RtcEngineEx.java:1083–1108`). A channel closes by
itself, or with the peer connection when the receive transport is closed.
-/

namespace RtcClient.Engine

open RtcClient.Native RtcClient.Store RtcClient.Lib

/-- What reaches the data consumer tables. -/
inductive DataEvent where
  | room (ev : RoomEvent)
  /-- The channel of a data consumer has closed, on this transport or on an earlier one. -/
  | onClose (d : DataConsumer)
  | closeRecvTransport
  deriving DecidableEq, Repr

end RtcClient.Engine

namespace RtcClient.Store.Peers

/-- Every user lists no data consumer, or those the same user listed before. -/
def DataListsKept (ps ps' : Peers) : Prop :=
  ∀ (p : String) (peer' : Peer), ps'.getPeer p = some peer' → peer'.mDataConsumers = ∅ ∨
    ∃ peer, ps.getPeer p = some peer ∧ peer'.mDataConsumers = peer.mDataConsumers

namespace DataListsKept

private theorem refl (ps : Peers) : ps.DataListsKept ps :=
  fun _ peer hpeer ↦ .inr ⟨peer, hpeer, rfl⟩

/-- Updates of anything else keep the lists. -/
theorem updatePeer (ps : Peers) (q : String) (f : Peer → Peer)
    (hf : ∀ peer, (f peer).mDataConsumers = peer.mDataConsumers) :
    ps.DataListsKept (ps.updatePeer q f) := by
  intro p peer' h
  rw [getPeer_updatePeer] at h
  split at h
  · obtain ⟨peer, hpeer, rfl⟩ := Option.map_eq_some_iff.mp h
    exact .inr ⟨peer, hpeer, hf peer⟩
  · exact .inr ⟨peer', h, rfl⟩

/-- Added users begin with an empty list. -/
theorem addPeers (users : List PeerInfo) (ps : Peers) :
    ps.DataListsKept (users.foldl (fun ps u ↦ ps.addPeer u.id u) ps) := by
  induction users generalizing ps with
  | nil => exact refl ps
  | cons u users ih =>
    intro p peer' h
    rcases ih _ p peer' h with hempty | ⟨peer, hpeer, hsame⟩
    · exact .inl hempty
    · rw [getPeer_addPeer] at hpeer
      split at hpeer
      · rw [hsame, ← Option.some.inj hpeer]
        exact .inl rfl
      · exact .inr ⟨peer, hpeer, hsame⟩

/-- A removed user takes only its own list along. -/
theorem removePeer (q : String) (ps : Peers) : ps.DataListsKept (ps.removePeer q) := by
  intro p peer' h
  rw [getPeer_removePeer] at h
  split at h
  · cases h
  · exact .inr ⟨peer', h, rfl⟩

end DataListsKept

end RtcClient.Store.Peers

namespace RtcClient.Engine

open RtcClient.Native RtcClient.Store RtcClient.Lib

namespace RtcEngineEx

/-- One event. -/
def onDataEvent (e : RtcEngineEx) : DataEvent → RtcEngineEx
  | .room ev => e.onRoomEvent ev
  | .onClose d =>
    let e := { e with mRecvTransport := e.mRecvTransport.map (RecvTransport.channelClosed · d) }
    e.onDataConsumerClose d
  | .closeRecvTransport =>
    match e.mRecvTransport with
    | none => e
    | some t => e.closeRecvTransport t

/-- The store has the same data consumer ids as the engine, and no user lists another. -/
structure DataTablesAgree (e : RtcEngineEx) : Prop where
  stored : ∀ d : String, d ∈ e.mStore.dataConsumers.dataConsumers ↔ d ∈ e.mDataConsumers
  listed : ∀ (p : String) (peer : Peer), e.mStore.peers.getPeer p = some peer →
    ∀ d ∈ peer.mDataConsumers, d ∈ e.mDataConsumers

/-- The event closes no channel whose id the engine holds: neither by itself, nor with the open
receive transport that it belongs to. -/
def ClosesNoHeldChannel (e : RtcEngineEx) : DataEvent → Prop
  | .room _ => True
  | .onClose d => d.id ∉ e.mDataConsumers
  | .closeRecvTransport => ∀ t, e.mRecvTransport = some t → t.closed = false →
    ∀ d ∈ t.channels, d.id ∉ e.mDataConsumers

variable {e e' : RtcEngineEx}

/-- A step that keeps both tables and every user's list. -/
theorem DataTablesAgree.of_frame (h : e.DataTablesAgree)
    (hm : e'.mDataConsumers = e.mDataConsumers)
    (hs : e'.mStore.dataConsumers = e.mStore.dataConsumers)
    (hp : e.mStore.peers.DataListsKept e'.mStore.peers) : e'.DataTablesAgree where
  stored := by
    rw [hm, hs]
    exact h.stored
  listed p peer' hpeer' d hd := by
    rw [hm]
    rcases hp p peer' hpeer' with hempty | ⟨peer, hpeer, hsame⟩
    · rw [hempty] at hd
      cases hd
    · rw [hsame] at hd
      exact h.listed p peer hpeer d hd

private theorem DataTablesAgree.onNewDataConsumer (h : e.DataTablesAgree) (msg : DataConsumerMsg)
    (o : RecvTransport.ConsumeOutcome) : (e.onNewDataConsumer msg o).DataTablesAgree := by
  cases hd : e.consumedData msg o with
  | none =>
    rw [e.onNewDataConsumer_of_none hd]
    exact h
  | some d =>
    obtain ⟨-, t, -, hr⟩ := e.onNewDataConsumer_of_some hd
    rw [hr]
    constructor
    · intro c
      simp only [RoomStore.addDataConsumer, DataConsumers.addDataConsumer,
        Std.ExtTreeMap.mem_insert]
      rw [h.stored]
    · intro p peer' hpeer' c hc
      simp only [RoomStore.addDataConsumer, Peers.addDataConsumer, Peers.getPeer_updatePeer]
        at hpeer'
      rw [Std.ExtTreeMap.mem_insert]
      split at hpeer'
      · -- the user of the new data consumer lists it as well
        obtain ⟨peer, hpeer, rfl⟩ := Option.map_eq_some_iff.mp hpeer'
        rcases Finset.mem_insert.mp hc with rfl | hc
        · exact .inl Std.compare_self
        · exact .inr (h.listed p peer hpeer c hc)
      · exact .inr (h.listed p peer' hpeer' c hc)

private theorem DataTablesAgree.onNewConsumer (h : e.DataTablesAgree) (msg : ConsumerMsg)
    (o : RecvTransport.ConsumeOutcome) : (e.onNewConsumer msg o).engine.DataTablesAgree := by
  cases hc : e.consumed msg o with
  | none =>
    rw [e.onNewConsumer_of_none hc]
    exact h
  | some c =>
    obtain ⟨-, t, -, hr⟩ := e.onNewConsumer_of_some hc
    have hp : e.mStore.peers.DataListsKept (e.mStore.peers.addConsumer msg.userId c.id) :=
      .updatePeer _ _ _ fun _ ↦ rfl
    rw [hr]
    unfold addConsumer
    simp only
    split
    · exact h.of_frame rfl rfl hp
    · exact h.of_frame rfl rfl hp

private theorem DataTablesAgree.onConsumerClosed (h : e.DataTablesAgree) (c kind : String) :
    (e.onConsumerClosed c kind).DataTablesAgree := by
  unfold RtcEngineEx.onConsumerClosed
  split
  · exact h
  · next holder _ =>
    have hp : e.mStore.peers.DataListsKept
        (e.mStore.peers.removeConsumer holder.peerId holder.mConsumer.id) :=
      .updatePeer _ _ _ fun _ ↦ rfl
    have hclose : ∀ e₁ : RtcEngineEx,
        (e₁.closeConsumer holder.mConsumer).mDataConsumers = e₁.mDataConsumers := by
      intro e₁
      unfold closeConsumer
      split <;> rfl
    simp only [closeConsumer_mStore]
    split
    · exact h.of_frame (hclose _) rfl hp
    · exact h.of_frame (hclose _) rfl hp

/-- Room events keep the tables in agreement, whatever they are. -/
theorem DataTablesAgree.onRoomEvent (h : e.DataTablesAgree) (ev : RoomEvent) :
    (e.onRoomEvent ev).DataTablesAgree := by
  cases ev with
  | joinReply users =>
    simp only [RtcEngineEx.onRoomEvent, onJoinReply_eq]
    exact h.of_frame rfl rfl (.addPeers users _)
  | notify n o =>
    cases n with
    | userJoined info => exact h.of_frame rfl rfl (.addPeers [info] _)
    | userLeft userId id => exact h.of_frame rfl rfl (.removePeer id _)
    | createUserConsumer msg => exact h.onNewConsumer msg o
    | createUserTextConsumer msg => exact h.onNewDataConsumer msg o
    | userConsumerClosed c kind => exact h.onConsumerClosed c kind
    | _ => exact h.of_frame rfl rfl (.refl _)

/-- The tables still agree when the engine has forgotten some ids and the store has not, exactly
when the engine held none of them. -/
theorem DataTablesAgree.forget_iff (h : e.DataTablesAgree) {ds : List DataConsumer}
    (hstore : e'.mStore = e.mStore)
    (hforget : ∀ c, c ∈ e'.mDataConsumers ↔ c ∈ e.mDataConsumers ∧ ∀ d ∈ ds, d.id ≠ c) :
    e'.DataTablesAgree ↔ ∀ d ∈ ds, d.id ∉ e.mDataConsumers := by
  constructor
  · -- the store keeps an id that the engine has dropped
    intro h' d hd hheld
    have hstored : d.id ∈ e'.mStore.dataConsumers.dataConsumers := by
      rw [hstore]
      exact (h.stored d.id).mpr hheld
    exact ((hforget d.id).mp ((h'.stored d.id).mp hstored)).2 d hd rfl
  · intro hfree
    have hsame : ∀ c, c ∈ e'.mDataConsumers ↔ c ∈ e.mDataConsumers := by
      intro c
      rw [hforget c]
      constructor
      · exact And.left
      · rintro hc
        refine ⟨hc, ?_⟩
        rintro d hd rfl
        exact hfree d hd hc
    constructor
    · intro c
      rw [hstore, hsame c]
      exact h.stored c
    · intro p peer hpeer c hc
      rw [hstore] at hpeer
      exact (hsame c).mpr (h.listed p peer hpeer c hc)

private theorem mem_foldl_onDataConsumerClose (ds : List DataConsumer) (c : String) :
    c ∈ (ds.foldl onDataConsumerClose e).mDataConsumers ↔
      c ∈ e.mDataConsumers ∧ ∀ d ∈ ds, d.id ≠ c := by
  induction ds generalizing e with
  | nil => simp
  | cons d ds ih =>
    rw [List.foldl_cons, ih, onDataConsumerClose, Std.ExtTreeMap.mem_erase]
    simp [and_assoc, and_left_comm]

/-- Closing an open receive transport makes the engine forget the ids of its open channels, and
leaves the store alone. -/
theorem closeRecvTransport_forgets {t : RecvTransport} (hopen : t.closed = false) :
    (e.closeRecvTransport t).mStore = e.mStore ∧
      ∀ c, c ∈ (e.closeRecvTransport t).mDataConsumers ↔
        c ∈ e.mDataConsumers ∧ ∀ d ∈ t.channels, d.id ≠ c := by
  constructor
  · obtain ⟨_, _, _, _, hwrites⟩ := e.closeRecvTransport_writes t
    rw [hwrites]
  · intro c
    unfold closeRecvTransport
    simp only [hopen, Bool.false_eq_true, if_false]
    -- only the first fold reaches `mDataConsumers`
    have hconsumers : ∀ (x : RtcEngineEx) (kv : String × Consumer),
        (x.consumerTransportClosed kv.2).mDataConsumers = x.mDataConsumers := by
      intro x kv
      unfold consumerTransportClosed
      split <;> rfl
    have hdata : ∀ (x : RtcEngineEx) (kv : String × DataConsumer),
        (x.dataConsumerTransportClosed kv.2).mDataConsumers = x.mDataConsumers := fun _ _ ↦ rfl
    rw [foldl_keeps mDataConsumers _ _ hdata, foldl_keeps mDataConsumers _ _ hconsumers,
      mem_foldl_onDataConsumerClose]

/-- One event keeps the tables in agreement exactly when it closes no held channel. -/
theorem DataTablesAgree.onDataEvent_iff (h : e.DataTablesAgree) (ev : DataEvent) :
    (e.onDataEvent ev).DataTablesAgree ↔ e.ClosesNoHeldChannel ev := by
  cases ev with
  | room ev => exact iff_of_true (h.onRoomEvent ev) trivial
  | onClose d =>
    have hforget : ∀ c, c ∈ (e.onDataEvent (.onClose d)).mDataConsumers ↔
        c ∈ e.mDataConsumers ∧ ∀ d' ∈ [d], d'.id ≠ c := by
      intro c
      simp [onDataEvent, onDataConsumerClose, and_comm]
    have hstore : (e.onDataEvent (.onClose d)).mStore = e.mStore := rfl
    rw [h.forget_iff hstore hforget]
    simp [ClosesNoHeldChannel]
  | closeRecvTransport =>
    simp only [onDataEvent, ClosesNoHeldChannel]
    cases ht : e.mRecvTransport with
    | none => exact iff_of_true h (by simp)
    | some t =>
      cases hc : t.closed with
      | true =>
        simp only [closeRecvTransport, hc, if_true]
        exact iff_of_true h (by simp [hc])
      | false =>
        obtain ⟨hstore, hforget⟩ := closeRecvTransport_forgets (e := e) hc
        rw [h.forget_iff hstore hforget]
        simp [hc]

/-- Along every run the tables agree in every state exactly when no channel closes whose id
the engine holds. -/
theorem dataTablesAgree_always_iff (h : e.DataTablesAgree) (evs : List DataEvent) :
    Always onDataEvent DataTablesAgree e evs ↔ Guarded onDataEvent ClosesNoHeldChannel e evs :=
  always_iff_guarded (fun _ ↦ True) trivial h (fun _ _ _ _ ↦ trivial)
    fun _ ev _ _ hagree ↦ hagree.onDataEvent_iff ev

end RtcEngineEx

/-- `CREATE_USER_TEXT_CONSUMER` for data consumer `d` of user `p`, with a consume that returns. -/
def createText (d p : String) : DataEvent :=
  .room (.notify (.createUserTextConsumer
    { peerId := p, dataProducerId := "s-" ++ d, id := d, label := "chat" }) (.returns .audio))

private theorem joinedEngine_dataTablesAgree : joinedEngine.DataTablesAgree where
  stored := by simp [joinedEngine]
  listed p peer hpeer := by
    change Peers.getPeer {} p = some peer at hpeer
    simp at hpeer

/-- A data consumer of user `u` is held while `u` comes and goes and another consume throws. -/
def heldWhileUsersLeave : List DataEvent :=
  [.room (.joinReply [{ id := "u" }]), createText "d" "u",
    .room (.notify (.userLeft (some "u") "u") .throws),
    .room (.notify (.createUserTextConsumer
      { peerId := "v", dataProducerId := "s", id := "f", label := "bot" }) .throws)]

/-- All tables keep the data consumer. When the receive transport is closed over it, its channel
closes as well, and they no longer agree. -/
theorem dataTablesAgree_always_until_closed :
    Always RtcEngineEx.onDataEvent RtcEngineEx.DataTablesAgree joinedEngine heldWhileUsersLeave ∧
      ¬ Always RtcEngineEx.onDataEvent RtcEngineEx.DataTablesAgree joinedEngine
        (heldWhileUsersLeave ++ [.closeRecvTransport]) := by
  constructor
  · rw [RtcEngineEx.dataTablesAgree_always_iff joinedEngine_dataTablesAgree]
    simp [heldWhileUsersLeave, guarded_cons, RtcEngineEx.ClosesNoHeldChannel, createText]
  · rw [RtcEngineEx.dataTablesAgree_always_iff joinedEngine_dataTablesAgree, guarded_concat]
    rintro ⟨-, hfree⟩
    exact hfree _ rfl (by decide) ⟨0, "d", "s-d", "chat"⟩ (by decide) (by decide)

/-- The channel of a data consumer closes, by itself or with the receive transport: the engine
forgets it and the store does not. -/
theorem dataTablesAgree_fails_channel_closed :
    ¬ (run RtcEngineEx.onDataEvent joinedEngine
        [createText "d" "u", .onClose ⟨0, "d", "s-d", "chat"⟩]).DataTablesAgree ∧
      ¬ (run RtcEngineEx.onDataEvent joinedEngine
        [createText "d" "u", .closeRecvTransport]).DataTablesAgree := by
  constructor
  · intro h
    have hheld := (h.stored "d").mp (by decide)
    exact absurd hheld (by decide)
  · intro h
    have hheld := (h.stored "d").mp (by decide)
    exact absurd hheld (by decide)

end RtcClient.Engine
