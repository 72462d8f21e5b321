import RtcClient.Engine.ConsumerTables

/-!
# What the consumer tables say about the messages handled so far

Results over every finite sequence of room events from an engine whose receive transport
is open and whose tables are empty: the tables as functions of the history, and the exact
condition under which a user's index lists all of that user's live consumers.
`RtcEngineEx.java:977–1054`, `Peers.java:27–84`.
-/

namespace RtcClient.Engine

open RtcClient.Native RtcClient.Store RtcClient.Lib

namespace RtcEngineEx

/-- Nothing has been handled yet and the receive transport is open. -/
structure TablesFresh (e : RtcEngineEx) : Prop where
  mConsumers : e.mConsumers = ∅
  consumers : e.mStore.consumers = {}
  peers : e.mStore.peers = {}
  recvOpen : e.RecvOpen

variable {e : RtcEngineEx}

private theorem TablesFresh.tablesAgree (hf : e.TablesFresh) : e.TablesAgree := by
  constructor
  · simp [hf.mConsumers]
  · simp [hf.mConsumers, hf.consumers]

/-- Invariants of every run of room events. -/
theorem run_onRoomEvent_inv (hf : e.TablesFresh) (es : List RoomEvent) :
    (run onRoomEvent e es).RecvOpen ∧ (run onRoomEvent e es).TablesAgree := by
  refine run_invariant (fun e : RtcEngineEx ↦ e.RecvOpen ∧ e.TablesAgree)
    ⟨hf.recvOpen, hf.tablesAgree⟩ ?_ es
  intro e ev h
  obtain ⟨hs, ho⟩ := onRoomEvent_step h.1 ev
  exact ⟨ho, hs.tablesAgree h.2⟩

-- The last event of a run is one table step.
private theorem lastStep (hf : e.TablesFresh) (es : List RoomEvent) (ev : RoomEvent) :
    TableStep (run onRoomEvent e es) (run onRoomEvent e (es ++ [ev])) ev := by
  rw [run_concat]
  exact (onRoomEvent_step (run_onRoomEvent_inv hf es).1 ev).1

/-- A held consumer belongs to the user of the last effective event about its id. -/
theorem userOf_run (hf : e.TablesFresh) (es : List RoomEvent) (c p : String) :
    (run onRoomEvent e es).userOf c = some p ↔
      Since (fun ev ↦ ¬ ev.Concerns c) (RoomEvent.Creates c p) es := by
  induction es using List.reverseRecOn with
  | nil => simp [userOf, hf.mConsumers]
  | append_singleton es ev ih => rw [(lastStep hf es ev).userOf, since_concat, ih]

/-- A user is present when the last event that added or removed the user was an add. -/
theorem inRoom_run (hf : e.TablesFresh) (es : List RoomEvent) (p : String) :
    (run onRoomEvent e es).InRoom p ↔
      Since (fun ev ↦ ¬ ev.Adds p ∧ ¬ ev.Removes p) (RoomEvent.Adds p) es := by
  induction es using List.reverseRecOn with
  | nil => simp [InRoom, hf.peers]
  | append_singleton es ev ih =>
    rw [(lastStep hf es ev).inRoom, since_concat, ih]
    -- an event that adds `p` is already the first disjunct
    by_cases ha : ev.Adds p
    · simp [ha]
    · simp [ha]

private theorem not_adds_of_creates {ev : RoomEvent} {c p q : String} (h : ev.Creates c p) :
    ¬ ev.Adds q ∧ ¬ ev.Removes q := by
  cases ev with
  | joinReply users => simp [RoomEvent.Creates, RoomEvent.created] at h
  | notify n o =>
    cases n with
    | createUserConsumer msg =>
      simp [RoomEvent.Adds, RoomEvent.Removes, RoomEvent.added, RoomEvent.removed]
    | _ => simp [RoomEvent.Creates, RoomEvent.created] at h

/-- A user lists a consumer exactly when the user is present and the last effective event
about the id created it for that user, after the user's latest add. -/
theorem lists_run (hf : e.TablesFresh) (es : List RoomEvent) (hone : OneUserPerConsumer es)
    (p c : String) :
    (run onRoomEvent e es).Lists p c ↔ (run onRoomEvent e es).InRoom p ∧
      Since (fun ev ↦ ¬ ev.Concerns c ∧ ¬ ev.Adds p) (RoomEvent.Creates c p) es := by
  induction es using List.reverseRecOn with
  | nil => simp [Lists, InRoom, hf.peers, Peers.consumersOf]
  | append_singleton es ev ih =>
    have hone' : OneUserPerConsumer es := fun c p q a ha b hb ↦
      hone c p q a (by simp [ha]) b (by simp [hb])
    have ih := ih hone'
    have hstep := lastStep hf es ev
    have hagree := (run_onRoomEvent_inv hf es).2
    -- a listed consumer is held for the user that lists it
    have hlive : (run onRoomEvent e es).Lists p c → (run onRoomEvent e es).userOf c = some p := by
      intro hl
      rw [userOf_run hf]
      exact (ih.mp hl).2.imp (fun _ h ↦ h.1) (fun _ h ↦ h)
    -- so an event about a listed consumer is a close, or a creation for the same user
    have hsame : (run onRoomEvent e es).Lists p c → ∀ q, ev.Creates c q → q = p := by
      intro hl q hq
      obtain ⟨b, hb, hcb⟩ := (ih.mp hl).2.exists_mem
      exact hone c q p ev (by simp) b (by simp [hb]) hq hcb
    rw [hstep.lists hagree, hstep.inRoom, since_concat, ih]
    by_cases hc : ev.Creates c p
    · have hn : ¬ ev.Adds p ∧ ¬ ev.Removes p := not_adds_of_creates hc
      simp only [hc, hn, not_false_eq_true, true_and, false_or, true_or, and_true]
      exact ⟨fun h ↦ h.elim id fun h ↦ h.1.1, .inl⟩
    · by_cases ha : ev.Adds p
      · simp [ha, hc]
      · rw [← ih]
        constructor
        · rintro ⟨-, hr, ⟨hc', -⟩ | ⟨hl, hcl⟩⟩
          · exact absurd hc' hc
          · have hn : ¬ ev.Concerns c := by
              rintro (hcl' | ⟨q, hq⟩)
              · exact hcl ⟨hcl', hlive hl⟩
              · rw [hsame hl q hq] at hq
                exact hc hq
            exact ⟨.inr ⟨hr, (ih.mp hl).1⟩, .inr ⟨⟨hn, ha⟩, (ih.mp hl).2⟩⟩
        · rintro ⟨hroom, hs⟩
          have hroom : ¬ ev.Removes p ∧ (run onRoomEvent e es).InRoom p :=
            hroom.resolve_left ha
          obtain ⟨⟨hn, -⟩, hs⟩ := hs.resolve_left hc
          refine ⟨ha, hroom.1, .inr ⟨ih.mpr ⟨hroom.2, hs⟩, ?_⟩⟩
          intro hcl
          exact hn (.inl hcl.1)

/-- Exact history of the tables: held consumers and their users, the users present, and
the consumers each of them lists. -/
theorem consumerTables_history (hf : e.TablesFresh) (es : List RoomEvent)
    (hone : OneUserPerConsumer es) :
    let e' := run onRoomEvent e es
    (∀ c p : String, (∃ h, e'.mConsumers[c]? = some h ∧ h.peerId = p) ↔
        Since (fun ev ↦ ¬ ev.Concerns c) (RoomEvent.Creates c p) es) ∧
      (∀ c : String, c ∈ e'.mStore.consumers.consumers ↔ c ∈ e'.mConsumers) ∧
      (∀ p, (∃ peer, e'.mStore.peers.getPeer p = some peer) ↔
        Since (fun ev ↦ ¬ ev.Adds p ∧ ¬ ev.Removes p) (RoomEvent.Adds p) es) ∧
      (∀ p peer, e'.mStore.peers.getPeer p = some peer → ∀ c, c ∈ peer.mConsumers ↔
        Since (fun ev ↦ ¬ ev.Concerns c ∧ ¬ ev.Adds p) (RoomEvent.Creates c p) es) ∧
      (∀ p peer, e'.mStore.peers.getPeer p = some peer → ∀ c ∈ peer.mConsumers,
        c ∈ e'.mConsumers) := by
  intro e'
  have hlist (p : String) (peer : Peer) (hp : e'.mStore.peers.getPeer p = some peer) (c : String) :
      c ∈ peer.mConsumers ↔
        Since (fun ev ↦ ¬ ev.Concerns c ∧ ¬ ev.Adds p) (RoomEvent.Creates c p) es := by
    have h := lists_run hf es hone p c
    change e'.Lists p c ↔ e'.InRoom p ∧ _ at h
    simpa [Lists, InRoom, Peers.consumersOf, hp] using h
  refine ⟨?_, (run_onRoomEvent_inv hf es).2.stored, ?_, hlist, ?_⟩
  · intro c p
    rw [← userOf_run hf]
    simp [userOf, e']
  · intro p
    rw [← inRoom_run hf, InRoom, Option.isSome_iff_exists]
  · intro p peer hp c hc
    have hs := ((hlist p peer hp c).mp hc).imp (fun _ h ↦ h.1) (fun _ h ↦ h)
    rw [← userOf_run hf] at hs
    obtain ⟨h, hh, -⟩ := Option.map_eq_some_iff.mp hs
    rw [Std.ExtTreeMap.mem_iff_isSome_getElem?]
    exact Option.isSome_iff_exists.mpr ⟨h, hh⟩

end RtcEngineEx

/-- `CREATE_USER_CONSUMER` for video consumer `c` of user `p`, with a consume that returns. -/
def createVideo (c p : String) : RoomEvent :=
  .notify (.createUserConsumer
    { type := "simple", userId := p, producerPaused := false, id := c, producerId := "s-" ++ c,
      kind := "video" }) (.returns .video)

/-- `USER_JOINED` for user `p`. -/
def joinUser (p : String) : RoomEvent := .notify (.userJoined { id := p }) .throws

private theorem joinedEngine_tablesFresh : joinedEngine.TablesFresh where
  mConsumers := rfl
  consumers := rfl
  peers := rfl
  recvOpen := ⟨_, rfl, rfl, rfl⟩

/-- A user who joins and then publishes a video is listed with it. -/
theorem consumerTables_history_joined_then_created :
    OneUserPerConsumer [joinUser "u", createVideo "c" "u"] ∧
      ∃ h, (run RtcEngineEx.onRoomEvent joinedEngine
        [joinUser "u", createVideo "c" "u"]).mConsumers["c"]? = some h ∧ h.peerId = "u" := by
  have hone : OneUserPerConsumer [joinUser "u", createVideo "c" "u"] := by
    intro c p q a ha b hb hca hcb
    simp only [List.mem_cons, List.not_mem_nil, or_false] at ha hb
    rcases ha with rfl | rfl <;> rcases hb with rfl | rfl <;>
      simp_all [RoomEvent.Creates, RoomEvent.created, joinUser, createVideo]
  refine ⟨hone, ((RtcEngineEx.consumerTables_history joinedEngine_tablesFresh _ hone).1 _ _).mpr ?_⟩
  exact ⟨[joinUser "u"], createVideo "c" "u", [], rfl, rfl, by simp⟩

namespace RtcEngineEx

/-! ### When the index of a user is complete -/

/-- Every held consumer whose user is in the room is listed under that user. -/
def IndexComplete (e : RtcEngineEx) : Prop :=
  ∀ (c : String) (h : ConsumerHolder) (peer : Peer), e.mConsumers[c]? = some h →
    e.mStore.peers.getPeer h.peerId = some peer → c ∈ peer.mConsumers

/-- The event adds no user for whom a consumer is held. -/
def AddsNoLiveUser (e : RtcEngineEx) (ev : RoomEvent) : Prop :=
  ∀ p, ev.Adds p → ∀ (c : String) (h : ConsumerHolder), e.mConsumers[c]? = some h → h.peerId ≠ p

variable {e : RtcEngineEx}

private theorem indexComplete_iff :
    e.IndexComplete ↔ ∀ c p, e.userOf c = some p → e.InRoom p → e.Lists p c := by
  constructor
  · intro h c p hu hp
    obtain ⟨holder, hh, rfl⟩ := Option.map_eq_some_iff.mp hu
    obtain ⟨peer, hpeer⟩ := Option.isSome_iff_exists.mp hp
    simpa [Lists, Peers.consumersOf, hpeer] using h c holder peer hh hpeer
  · intro h c holder peer hh hpeer
    have hl := h c holder.peerId (by simp [userOf, hh]) (by simp [InRoom, hpeer])
    simpa [Lists, Peers.consumersOf, hpeer] using hl

private theorem addsNoLiveUser_iff (ev : RoomEvent) :
    e.AddsNoLiveUser ev ↔ ∀ c p, ev.Adds p → e.userOf c ≠ some p := by
  constructor
  · intro h c p ha hu
    obtain ⟨holder, hh, hp⟩ := Option.map_eq_some_iff.mp hu
    exact h p ha c holder hh hp
  · intro h p ha c holder hh hp
    exact h c p ha (by simp [userOf, hh, hp])

private theorem not_concerns_of_adds {ev : RoomEvent} {c p : String} (h : ev.Adds p) :
    ¬ ev.Concerns c := by
  cases ev with
  | joinReply users =>
    simp [RoomEvent.Concerns, RoomEvent.Creates, RoomEvent.closed, RoomEvent.created]
  | notify n o =>
    cases n with
    | userJoined info =>
      simp [RoomEvent.Concerns, RoomEvent.Creates, RoomEvent.closed, RoomEvent.created]
    | _ => simp [RoomEvent.Adds, RoomEvent.added] at h

/-- One event keeps a complete index complete exactly when it re-adds no user with a live
consumer. -/
theorem TableStep.indexComplete_iff {e' : RtcEngineEx} {ev : RoomEvent} (h : TableStep e e' ev)
    (ha : e.TablesAgree) (hc : e.IndexComplete) : e'.IndexComplete ↔ e.AddsNoLiveUser ev := by
  rw [RtcEngineEx.indexComplete_iff] at hc ⊢
  rw [addsNoLiveUser_iff]
  constructor
  · intro hc' c p hadd hu
    -- the re-added user keeps its consumer in `mConsumers` but starts with an empty list
    have hu' : e'.userOf c = some p := (h.userOf c p).mpr (.inr ⟨not_concerns_of_adds hadd, hu⟩)
    have hroom : e'.InRoom p := (h.inRoom p).mpr (.inl hadd)
    exact ((h.lists ha p c).mp (hc' c p hu' hroom)).1 hadd
  · intro hg c p hu' hroom
    rw [h.lists ha]
    rcases (h.userOf c p).mp hu' with hcr | ⟨hn, hu⟩
    · have hnot : ¬ ev.Adds p ∧ ¬ ev.Removes p := not_adds_of_creates hcr
      have hroom := ((h.inRoom p).mp hroom).resolve_left hnot.1
      exact ⟨hnot.1, hnot.2, .inl ⟨hcr, hroom.2⟩⟩
    · have hadd : ¬ ev.Adds p := fun hadd ↦ hg c p hadd hu
      have hroom := ((h.inRoom p).mp hroom).resolve_left hadd
      exact ⟨hadd, hroom.1, .inr ⟨hc c p hu hroom.2, fun hcl ↦ hn (.inl hcl.1)⟩⟩

/-- Along every run of room events the index stays complete exactly when no event adds a
user for whom a consumer is held at that moment. -/
theorem indexComplete_always_iff (hf : e.TablesFresh) (es : List RoomEvent) :
    Always onRoomEvent IndexComplete e es ↔ Guarded onRoomEvent AddsNoLiveUser e es := by
  refine always_iff_guarded (fun e : RtcEngineEx ↦ e.RecvOpen ∧ e.TablesAgree)
    ⟨hf.recvOpen, hf.tablesAgree⟩ ?_ ?_ ?_
  · simp [IndexComplete, hf.mConsumers]
  · intro e ev _ h
    obtain ⟨hs, ho⟩ := onRoomEvent_step h.1 ev
    exact ⟨ho, hs.tablesAgree h.2⟩
  · intro e ev _ h hc
    exact (onRoomEvent_step h.1 ev).1.indexComplete_iff h.2 hc

end RtcEngineEx

/-- A user who joins before publishing is listed in every state. -/
theorem indexComplete_always_joined_then_created :
    Guarded RtcEngineEx.onRoomEvent RtcEngineEx.AddsNoLiveUser joinedEngine
        [joinUser "u", createVideo "c" "u"] ∧
      Always RtcEngineEx.onRoomEvent RtcEngineEx.IndexComplete joinedEngine
        [joinUser "u", createVideo "c" "u"] := by
  have hg : Guarded RtcEngineEx.onRoomEvent RtcEngineEx.AddsNoLiveUser joinedEngine
      [joinUser "u", createVideo "c" "u"] := by
    rw [guarded_cons, guarded_cons]
    refine ⟨?_, ?_, guarded_nil⟩
    · simp [RtcEngineEx.AddsNoLiveUser, joinedEngine]
    · simp [RtcEngineEx.AddsNoLiveUser, RoomEvent.Adds, RoomEvent.added, createVideo]
  exact ⟨hg, (RtcEngineEx.indexComplete_always_iff joinedEngine_tablesFresh _).mpr hg⟩

/-- `USER_JOINED` for a user whose video was announced first: the consumer is held, its user
is in the room, and the user's list is empty. -/
theorem indexComplete_fails_created_then_joined :
    ¬ (run RtcEngineEx.onRoomEvent joinedEngine
      [createVideo "c" "u", joinUser "u"]).IndexComplete := by
  intro h
  have hc :=
    h "c" ⟨"u", ⟨0, "c", "s-c", .video⟩⟩ (Peer.ofInfo { id := "u" }) (by decide) (by decide)
  exact absurd hc (by decide)

end RtcClient.Engine
