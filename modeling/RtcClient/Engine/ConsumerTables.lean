import RtcClient.Engine.Notifications
import RtcClient.Lib.Past
import RtcClient.Lib.Run

/-!
# Consumer tables and the history that determines them

`mConsumers`, the store's consumer map and the per-user index are written by different
handlers. Here each is tied to the messages handled so far: which user a consumer id
belongs to, who is in the room, and which ids a user lists. The index of a user is
rebuilt empty whenever the user is added again, and that is exactly where it can lose a
live consumer.
-/

namespace RtcClient.Engine

open RtcClient.Native RtcClient.Store RtcClient.Lib

namespace RoomEvent

/-- Consumer and user of a `CREATE_USER_CONSUMER` whose consume returned. -/
def created : RoomEvent → Option (String × String)
  | .notify (.createUserConsumer msg) (.returns _) => some (msg.id, msg.userId)
  | _ => none

/-- Consumer of a `USER_CONSUMER_CLOSED`. -/
def closed : RoomEvent → Option String
  | .notify (.userConsumerClosed consumerId _) _ => some consumerId
  | _ => none

/-- Users added by `USER_JOINED` or by the join reply. -/
def added : RoomEvent → List String
  | .notify (.userJoined info) _ => [info.id]
  | .joinReply users => users.map PeerInfo.id
  | _ => []

/-- User removed by `USER_LEFT`. -/
def removed : RoomEvent → Option String
  | .notify (.userLeft _ id) _ => some id
  | _ => none

/-- Successful creation of `c` for user `p`. -/
def Creates (c p : String) (ev : RoomEvent) : Prop := ev.created = some (c, p)

/-- Effective event about `c`: a successful creation, or a close. -/
def Concerns (c : String) (ev : RoomEvent) : Prop :=
  ev.closed = some c ∨ ∃ p, ev.Creates c p

/-- `p` is added by this event. -/
def Adds (p : String) (ev : RoomEvent) : Prop := p ∈ ev.added

/-- `p` is removed by this event. -/
def Removes (p : String) (ev : RoomEvent) : Prop := ev.removed = some p

end RoomEvent

/-- No consumer id is created for two different users. -/
def OneUserPerConsumer (es : List RoomEvent) : Prop :=
  ∀ c p q, ∀ ev ∈ es, ∀ ev' ∈ es, ev.Creates c p → ev'.Creates c q → p = q

namespace RtcEngineEx

/-- The receive transport is set, open and not disposed. -/
def RecvOpen (e : RtcEngineEx) : Prop :=
  ∃ t, e.mRecvTransport = some t ∧ t.closed = false ∧ t.disposed = false

/-- User of a consumer id held in `mConsumers`. -/
def userOf (e : RtcEngineEx) (c : String) : Option String :=
  e.mConsumers[c]?.map ConsumerHolder.peerId

/-- `p` is a key of the store's peers. -/
def InRoom (e : RtcEngineEx) (p : String) : Prop := (e.mStore.peers.getPeer p).isSome = true

/-- `c` is listed under `p` in the store's index. -/
def Lists (e : RtcEngineEx) (p c : String) : Prop := c ∈ e.mStore.peers.consumersOf p

/-- Holders are filed under the id of their consumer, and the store has the same ids. -/
structure TablesAgree (e : RtcEngineEx) : Prop where
  ids : ∀ (c : String) (h : ConsumerHolder), e.mConsumers[c]? = some h → h.mConsumer.id = c
  stored : ∀ c : String, c ∈ e.mStore.consumers.consumers ↔ c ∈ e.mConsumers

/-! ### One handler at a time -/

variable {e : RtcEngineEx}

private theorem requireOpen_of (t : RecvTransport) (hc : t.closed = false)
    (hd : t.disposed = false) : t.requireOpen = .ok () := by
  simp [RecvTransport.requireOpen, hc, hd]

/-- On an open transport a returned consumer enters all three tables under its id. -/
theorem onNewConsumer_returns (ho : e.RecvOpen) (msg : ConsumerMsg) (kind : Kind) :
    ∃ c : Consumer, c.id = msg.id ∧ (e.onNewConsumer msg (.returns kind)).engine.RecvOpen ∧
      (e.onNewConsumer msg (.returns kind)).engine.mConsumers =
        e.mConsumers.insert msg.id ⟨msg.userId, c⟩ ∧
      (e.onNewConsumer msg (.returns kind)).engine.mStore =
        e.mStore.addConsumer msg.userId msg.type c msg.producerPaused := by
  obtain ⟨t, ht, hc, hd⟩ := ho
  refine ⟨⟨e.nextRef, msg.id, msg.producerId, kind⟩, rfl, ?_⟩
  simp only [onNewConsumer, ht, RecvTransport.consume, requireOpen_of t hc hd, addConsumer]
  split
  · exact ⟨⟨_, rfl, hc, hd⟩, rfl, rfl⟩
  · exact ⟨⟨_, rfl, hc, hd⟩, rfl, rfl⟩

/-- A consume that throws leaves the engine as it was. -/
theorem onNewConsumer_throws (msg : ConsumerMsg) :
    (e.onNewConsumer msg .throws).engine = e := by
  unfold onNewConsumer
  cases e.mRecvTransport with
  | none => rfl
  | some t =>
    cases h : t.requireOpen with
    | error ex =>
      simp only [RecvTransport.consume, h]
      cases ex <;> rfl
    | ok _ => simp only [RecvTransport.consume, h]

/-- Closing an id that is not held changes nothing. -/
theorem onConsumerClosed_absent (c kind : String) (h : e.mConsumers[c]? = none) :
    e.onConsumerClosed c kind = e := by
  simp only [onConsumerClosed, h]

/-- Closing a held id drops it from `mConsumers` and from the store under its user. -/
theorem onConsumerClosed_held (c kind : String) (holder : ConsumerHolder)
    (h : e.mConsumers[c]? = some holder) :
    (e.onConsumerClosed c kind).mConsumers = e.mConsumers.erase c ∧
      (e.onConsumerClosed c kind).mStore =
        e.mStore.removeConsumer holder.peerId holder.mConsumer.id := by
  simp only [onConsumerClosed, h]
  split
  · simp
  · simp

/-- Closing a consumer leaves an open transport open. -/
theorem recvOpen_onConsumerClosed (ho : e.RecvOpen) (c kind : String) :
    (e.onConsumerClosed c kind).RecvOpen := by
  obtain ⟨t, ht, hc, hd⟩ := ho
  cases hm : e.mConsumers[c]? with
  | none =>
    rw [onConsumerClosed_absent c kind hm]
    exact ⟨t, ht, hc, hd⟩
  | some holder =>
    have hr : (({ e with mConsumers := e.mConsumers.erase c } : RtcEngineEx).closeConsumer
        holder.mConsumer).RecvOpen := by
      unfold closeConsumer
      split
      · exact ⟨t, ht, hc, hd⟩
      · exact ⟨t.onClose holder.mConsumer, by simp [ht], hc, hd⟩
    simp only [onConsumerClosed, hm]
    split
    · exact hr
    · exact hr

/-- A data consumer leaves an open transport open. -/
theorem recvOpen_onNewDataConsumer (ho : e.RecvOpen) (msg : DataConsumerMsg)
    (o : RecvTransport.ConsumeOutcome) : (e.onNewDataConsumer msg o).RecvOpen := by
  obtain ⟨t, ht, hc, hd⟩ := ho
  simp only [onNewDataConsumer, ht, RecvTransport.consumeData, requireOpen_of t hc hd]
  cases o with
  | throws => exact ⟨t, ht, hc, hd⟩
  | returns kind => exact ⟨_, rfl, hc, hd⟩

/-- Data consumers leave the media tables alone. -/
theorem onNewDataConsumer_tables (msg : DataConsumerMsg) (o : RecvTransport.ConsumeOutcome) :
    (e.onNewDataConsumer msg o).mConsumers = e.mConsumers ∧
      (e.onNewDataConsumer msg o).mStore.consumers = e.mStore.consumers ∧
      (∀ p, (e.onNewDataConsumer msg o).InRoom p ↔ e.InRoom p) ∧
      ∀ p c, (e.onNewDataConsumer msg o).Lists p c ↔ e.Lists p c := by
  unfold onNewDataConsumer
  split
  · exact ⟨rfl, rfl, fun _ ↦ Iff.rfl, fun _ _ ↦ Iff.rfl⟩
  · split
    · exact ⟨rfl, rfl, fun _ ↦ Iff.rfl, fun _ _ ↦ Iff.rfl⟩
    · refine ⟨rfl, rfl, fun p ↦ ?_, fun p c ↦ ?_⟩
      · simp [InRoom, RoomStore.addDataConsumer, Peers.addDataConsumer]
      · simp [Lists, RoomStore.addDataConsumer]

private theorem getPeer_addPeers (users : List PeerInfo) (ps : Peers) (p : String) :
    ((users.foldl (fun ps u ↦ ps.addPeer u.id u) ps).getPeer p).isSome = true ↔
      p ∈ users.map PeerInfo.id ∨ (ps.getPeer p).isSome = true := by
  induction users generalizing ps with
  | nil => simp
  | cons u users ih =>
    rw [List.foldl_cons, ih, Peers.getPeer_addPeer]
    by_cases hu : u.id = p
    · simp [hu]
    · simp [hu, Ne.symm hu]

/-- Adding users empties their lists and leaves the others. -/
theorem consumersOf_addPeers (users : List PeerInfo) (ps : Peers) (p c : String) :
    c ∈ (users.foldl (fun ps u ↦ ps.addPeer u.id u) ps).consumersOf p ↔
      p ∉ users.map PeerInfo.id ∧ c ∈ ps.consumersOf p := by
  induction users generalizing ps with
  | nil => simp
  | cons u users ih =>
    rw [List.foldl_cons, ih, Peers.consumersOf_addPeer]
    by_cases hu : u.id = p
    · simp [hu]
    · simp [hu, Ne.symm hu]

/-- Room events touch neither the local producers nor the local user in the store. -/
theorem onRoomEvent_store (e : RtcEngineEx) (ev : RoomEvent) :
    (e.onRoomEvent ev).mStore.producers = e.mStore.producers ∧
      (e.onRoomEvent ev).mStore.me = e.mStore.me := by
  cases ev with
  | joinReply users =>
    simp only [onRoomEvent, onJoinReply_eq, and_self]
  | notify n o =>
    cases n with
    | userConsumerClosed c kind =>
      simp only [onRoomEvent, handleNotification]
      cases hc : e.mConsumers[c]? with
      | none =>
        rw [onConsumerClosed_absent c kind hc]
        exact ⟨rfl, rfl⟩
      | some holder =>
        rw [(onConsumerClosed_held c kind holder hc).2]
        exact ⟨rfl, rfl⟩
    | createUserConsumer msg =>
      simp only [onRoomEvent, handleNotification]
      cases hc : e.consumed msg o with
      | none =>
        rw [e.onNewConsumer_of_none hc]
        exact ⟨rfl, rfl⟩
      | some c =>
        obtain ⟨-, t, -, heq⟩ := e.onNewConsumer_of_some hc
        rw [heq]
        simp only [addConsumer]
        split <;> exact ⟨rfl, rfl⟩
    | createUserTextConsumer msg =>
      simp only [onRoomEvent, handleNotification]
      cases hd : e.consumedData msg o with
      | none =>
        rw [e.onNewDataConsumer_of_none hd]
        exact ⟨rfl, rfl⟩
      | some d =>
        obtain ⟨-, t, -, heq⟩ := e.onNewDataConsumer_of_some hd
        rw [heq]
        exact ⟨rfl, rfl⟩
    | _ => exact ⟨rfl, rfl⟩

/-! ### What one event does to the tables -/

/-- All that a room event can do to `mConsumers`, the store's consumers and the index. -/
inductive TableStep (e e' : RtcEngineEx) (ev : RoomEvent) : Prop where
  | create (p type : String) (c : Consumer) (paused : Bool)
      (created : ev.created = some (c.id, p)) (closed : ev.closed = none)
      (added : ev.added = []) (removed : ev.removed = none)
      (held : e'.mConsumers = e.mConsumers.insert c.id ⟨p, c⟩)
      (stored : e'.mStore.consumers = e.mStore.consumers.addConsumer type c paused)
      (peers : e'.mStore.peers = e.mStore.peers.addConsumer p c.id)
  | close (c : String) (h : ConsumerHolder) (isHeld : e.mConsumers[c]? = some h)
      (created : ev.created = none) (closed : ev.closed = some c)
      (added : ev.added = []) (removed : ev.removed = none)
      (held : e'.mConsumers = e.mConsumers.erase c)
      (stored : e'.mStore.consumers = e.mStore.consumers.removeConsumer h.mConsumer.id)
      (peers : e'.mStore.peers = e.mStore.peers.removeConsumer h.peerId h.mConsumer.id)
  | closeAbsent (c : String) (isAbsent : e.mConsumers[c]? = none)
      (created : ev.created = none) (closed : ev.closed = some c)
      (added : ev.added = []) (removed : ev.removed = none) (same : e' = e)
  | add (users : List PeerInfo) (created : ev.created = none) (closed : ev.closed = none)
      (added : ev.added = users.map PeerInfo.id) (removed : ev.removed = none)
      (held : e'.mConsumers = e.mConsumers) (stored : e'.mStore.consumers = e.mStore.consumers)
      (peers : e'.mStore.peers = users.foldl (fun ps u ↦ ps.addPeer u.id u) e.mStore.peers)
  | remove (p : String) (created : ev.created = none) (closed : ev.closed = none)
      (added : ev.added = []) (removed : ev.removed = some p)
      (held : e'.mConsumers = e.mConsumers) (stored : e'.mStore.consumers = e.mStore.consumers)
      (peers : e'.mStore.peers = e.mStore.peers.removePeer p)
  | quiet (created : ev.created = none) (closed : ev.closed = none)
      (added : ev.added = []) (removed : ev.removed = none)
      (held : e'.mConsumers = e.mConsumers) (stored : e'.mStore.consumers = e.mStore.consumers)
      (inRoom : ∀ p, e'.InRoom p ↔ e.InRoom p) (lists : ∀ p c, e'.Lists p c ↔ e.Lists p c)

private theorem quiet_of_eq {e' : RtcEngineEx} {ev : RoomEvent} (created : ev.created = none)
    (closed : ev.closed = none) (added : ev.added = []) (removed : ev.removed = none)
    (held : e'.mConsumers = e.mConsumers) (store : e'.mStore = e.mStore) : TableStep e e' ev := by
  apply TableStep.quiet created closed added removed held
  · rw [store]
  · intro p
    rw [InRoom, store, ← InRoom]
  · intro p c
    rw [Lists, store, ← Lists]

/-- With an open receive transport every room event is one of these steps and leaves the
transport open. -/
theorem onRoomEvent_step (ho : e.RecvOpen) (ev : RoomEvent) :
    TableStep e (e.onRoomEvent ev) ev ∧ (e.onRoomEvent ev).RecvOpen := by
  cases ev with
  | joinReply users =>
    simp only [onRoomEvent, onJoinReply_eq]
    exact ⟨.add users rfl rfl rfl rfl rfl rfl rfl, ho⟩
  | notify n o =>
    cases n with
    | userJoined info => exact ⟨.add [info] rfl rfl rfl rfl rfl rfl rfl, ho⟩
    | userLeft userId id => exact ⟨.remove id rfl rfl rfl rfl rfl rfl rfl, ho⟩
    | userConsumerClosed c kind =>
      simp only [onRoomEvent, handleNotification]
      refine ⟨?_, recvOpen_onConsumerClosed ho c kind⟩
      cases hc : e.mConsumers[c]? with
      | none => exact .closeAbsent c hc rfl rfl rfl rfl (onConsumerClosed_absent c kind hc)
      | some h =>
        obtain ⟨held, store⟩ := onConsumerClosed_held c kind h hc
        refine .close c h hc rfl rfl rfl rfl held ?_ ?_
        · rw [store]; rfl
        · rw [store]; rfl
    | createUserConsumer msg =>
      simp only [onRoomEvent, handleNotification]
      cases o with
      | throws =>
        rw [onNewConsumer_throws]
        exact ⟨quiet_of_eq rfl rfl rfl rfl rfl rfl, ho⟩
      | returns kind =>
        obtain ⟨c, hid, ho', held, store⟩ := onNewConsumer_returns ho msg kind
        refine ⟨.create msg.userId msg.type c msg.producerPaused ?_ rfl rfl rfl ?_ ?_ ?_, ho'⟩
        · rw [hid]; rfl
        · rw [hid]; exact held
        · rw [store]; rfl
        · rw [store]; rfl
    | createUserTextConsumer msg =>
      simp only [onRoomEvent, handleNotification]
      obtain ⟨held, stored, inRoom, lists⟩ := onNewDataConsumer_tables (e := e) msg o
      exact ⟨.quiet rfl rfl rfl rfl held stored inRoom lists, recvOpen_onNewDataConsumer ho msg o⟩
    | roomJoined => exact ⟨quiet_of_eq rfl rfl rfl rfl rfl rfl, ho⟩
    | usersOnline users => exact ⟨quiet_of_eq rfl rfl rfl rfl rfl rfl, ho⟩
    | roomClosed => exact ⟨quiet_of_eq rfl rfl rfl rfl rfl rfl, ho⟩
    | consumerLayersChanged => exact ⟨quiet_of_eq rfl rfl rfl rfl rfl rfl, ho⟩
    | consumerScore => exact ⟨quiet_of_eq rfl rfl rfl rfl rfl rfl, ho⟩
    | producerScore => exact ⟨quiet_of_eq rfl rfl rfl rfl rfl rfl, ho⟩

namespace TableStep

variable {e' : RtcEngineEx} {ev : RoomEvent}

/-- Holders stay filed under the id of their consumer, in both tables. -/
theorem tablesAgree (h : TableStep e e' ev) (ha : e.TablesAgree) : e'.TablesAgree := by
  cases h with
  | create p type c paused _ _ _ _ held stored _ =>
    constructor
    · intro d hd
      rw [held, Std.ExtTreeMap.getElem?_insert]
      by_cases hc : c.id = d
      · simp only [hc, Std.compare_self, ↓reduceIte, Option.some.injEq]
        intro he
        rw [← he]
        exact hc
      · simpa [hc] using ha.ids d hd
    · intro d
      rw [held, stored, Consumers.addConsumer, Std.ExtTreeMap.mem_insert,
        Std.ExtTreeMap.mem_insert, ha.stored]
  | close c holder isHeld _ _ _ _ held stored _ =>
    have hid := ha.ids c holder isHeld
    constructor
    · intro d hd
      rw [held, Std.ExtTreeMap.getElem?_erase]
      by_cases hc : c = d
      · simp [hc]
      · simpa [hc] using ha.ids d hd
    · intro d
      rw [held, stored, hid, Consumers.removeConsumer, Std.ExtTreeMap.mem_erase,
        Std.ExtTreeMap.mem_erase, ha.stored]
  | closeAbsent _ _ _ _ _ _ same =>
    rw [same]
    exact ha
  | add _ _ _ _ _ held stored _ =>
    constructor
    · rw [held]; exact ha.ids
    · rw [held, stored]; exact ha.stored
  | remove _ _ _ _ _ held stored _ =>
    constructor
    · rw [held]; exact ha.ids
    · rw [held, stored]; exact ha.stored
  | quiet _ _ _ _ held stored _ _ =>
    constructor
    · rw [held]; exact ha.ids
    · rw [held, stored]; exact ha.stored

/-- A successful creation sets the user of its id and a close clears it. -/
theorem userOf (h : TableStep e e' ev) (c p : String) :
    e'.userOf c = some p ↔ ev.Creates c p ∨ (¬ ev.Concerns c ∧ e.userOf c = some p) := by
  cases h with
  | create q _ d _ created closed _ _ held _ _ =>
    simp only [RtcEngineEx.userOf, held, RoomEvent.Creates, RoomEvent.Concerns, created, closed,
      Std.ExtTreeMap.getElem?_insert]
    by_cases hc : d.id = c
    · simp [hc]
    · simp [hc]
  | close d holder isHeld created closed _ _ held _ _ =>
    simp only [RtcEngineEx.userOf, held, RoomEvent.Creates, RoomEvent.Concerns, created, closed,
      Std.ExtTreeMap.getElem?_erase]
    by_cases hc : d = c
    · simp [hc]
    · simp [hc]
  | closeAbsent d isAbsent created closed _ _ same =>
    simp only [RtcEngineEx.userOf, same, RoomEvent.Creates, RoomEvent.Concerns, created, closed]
    by_cases hc : d = c
    · subst d
      simp [isAbsent]
    · simp [hc]
  | add _ created closed _ _ held _ _ =>
    simp [RtcEngineEx.userOf, held, RoomEvent.Creates, RoomEvent.Concerns, created, closed]
  | remove _ created closed _ _ held _ _ =>
    simp [RtcEngineEx.userOf, held, RoomEvent.Creates, RoomEvent.Concerns, created, closed]
  | quiet created closed _ _ held _ _ _ =>
    simp [RtcEngineEx.userOf, held, RoomEvent.Creates, RoomEvent.Concerns, created, closed]

/-- Presence is decided by the event that last added or removed the user. -/
theorem inRoom (h : TableStep e e' ev) (p : String) :
    e'.InRoom p ↔ ev.Adds p ∨ (¬ ev.Removes p ∧ e.InRoom p) := by
  cases h with
  | create _ _ _ _ _ _ added removed _ _ peers =>
    simp [InRoom, peers, Peers.addConsumer, RoomEvent.Adds, RoomEvent.Removes, added, removed]
  | close _ _ _ _ _ added removed _ _ peers =>
    simp [InRoom, peers, Peers.removeConsumer, RoomEvent.Adds, RoomEvent.Removes, added, removed]
  | closeAbsent _ _ _ _ added removed same =>
    simp [same, RoomEvent.Adds, RoomEvent.Removes, added, removed]
  | add users _ _ added removed _ _ peers =>
    rw [InRoom, peers, getPeer_addPeers]
    simp [InRoom, RoomEvent.Adds, RoomEvent.Removes, added, removed]
  | remove q _ _ added removed _ _ peers =>
    simp only [InRoom, peers, Peers.getPeer_removePeer, RoomEvent.Adds, RoomEvent.Removes, added,
      removed]
    by_cases hq : q = p
    · simp [hq]
    · simp [hq]
  | quiet _ _ added removed _ _ inRoom _ =>
    simp [inRoom, RoomEvent.Adds, RoomEvent.Removes, added, removed]

/-- A user's list loses its entries when the user is added or removed, gains a consumer
created while the user is present, and loses the user's own consumer when it closes. -/
theorem lists (h : TableStep e e' ev) (ha : e.TablesAgree) (p c : String) :
    e'.Lists p c ↔ ¬ ev.Adds p ∧ ¬ ev.Removes p ∧ ((ev.Creates c p ∧ e.InRoom p) ∨
      (e.Lists p c ∧ ¬ (ev.closed = some c ∧ e.userOf c = some p))) := by
  cases h with
  | create q _ d _ created closed added removed _ _ peers =>
    rw [Lists, peers, Peers.mem_consumersOf_addConsumer]
    simp only [RoomEvent.Adds, RoomEvent.Removes, RoomEvent.Creates, added, removed, created,
      closed, InRoom, Lists]
    constructor
    · rintro (⟨rfl, rfl, hp⟩ | hl)
      · simp [hp]
      · simp [hl]
    · rintro ⟨-, -, ⟨hc, hp⟩ | ⟨hl, -⟩⟩
      · cases hc
        exact .inl ⟨rfl, rfl, hp⟩
      · exact .inr hl
  | close d holder isHeld created closed added removed _ _ peers =>
    have hid := ha.ids d holder isHeld
    rw [Lists, peers, Peers.mem_consumersOf_removeConsumer, hid]
    simp only [RoomEvent.Adds, RoomEvent.Removes, RoomEvent.Creates, added, removed, created,
      closed, Lists, RtcEngineEx.userOf]
    by_cases hc : c = d
    · subst hc
      simp [isHeld, and_comm]
    · simp [hc, Ne.symm hc]
  | closeAbsent d isAbsent created closed added removed same =>
    simp only [same, RoomEvent.Adds, RoomEvent.Removes, RoomEvent.Creates, added, removed, created,
      closed, RtcEngineEx.userOf]
    by_cases hc : d = c
    · subst d
      simp [isAbsent]
    · simp [hc]
  | add users created closed added removed _ _ peers =>
    rw [Lists, peers, consumersOf_addPeers]
    simp [RoomEvent.Adds, RoomEvent.Removes, RoomEvent.Creates, added, removed, created, closed,
      Lists]
  | remove q created closed added removed _ _ peers =>
    rw [Lists, peers, Peers.consumersOf_removePeer]
    simp only [RoomEvent.Adds, RoomEvent.Removes, RoomEvent.Creates, added, removed, created,
      closed, Lists]
    by_cases hq : q = p
    · simp [hq]
    · simp [hq]
  | quiet created closed added removed _ _ _ lists =>
    simp [lists, RoomEvent.Adds, RoomEvent.Removes, RoomEvent.Creates, added, removed, created,
      closed]

end TableStep

end RtcEngineEx

end RtcClient.Engine
