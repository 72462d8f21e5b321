import RtcClient.Engine.Notifications

/-!
# What the processors answer

A registered processor hands its message to `onNotification` and then returns `null`, or for
the two consumer messages a success response (`RtcEngineEx.java:690–865`). The response is
built after the handler has returned, whatever the handler did; a handler that throws leaves
the message without an answer.
-/

namespace RtcClient.Engine

open RtcClient.Native RtcClient.Store

/-- The answer of a processor; `NettyResponse.success` makes one with `success` set. -/
structure NettyResponse where
  success : Bool
  data : JSONObject
  deriving DecidableEq, Repr

/-- Messages whose processor answers. -/
def Notification.Answered : Notification → Prop
  | .createUserConsumer _ | .createUserTextConsumer _ => True
  | _ => False

namespace RtcEngineEx

/-- Body of both answers; `RtcEngineEx.java:776–779,796–799`. -/
def responseData (e : RtcEngineEx) : JSONObject :=
  [("roomId", .ofOption e.serverRoomId), ("userId", .ofOption e.rtcEngineConfig.userId),
    ("messageType", .str "response")]

/-- What a processor returns after `onNotification`; `RtcEngineEx.java:780,800`. -/
def response (e : RtcEngineEx) : Notification → Option NettyResponse
  | .createUserConsumer _ | .createUserTextConsumer _ => some ⟨true, e.responseData⟩
  | _ => none

/-- One `process` call, with the exception that left it or the response it returned. -/
def process (e : RtcEngineEx) (n : Notification) (o : RecvTransport.ConsumeOutcome) :
    RtcEngineEx × Except Throwable (Option NettyResponse) :=
  let r := e.handleNotification n o
  match r.thrown with
  | some ex => (r.engine, .error ex)
  | none => (r.engine, .ok (r.engine.response n))

/-- The id that a consumer message announces is a key of its table. -/
def Holds (e : RtcEngineEx) : Notification → Prop
  | .createUserConsumer msg => msg.id ∈ e.mConsumers
  | .createUserTextConsumer msg => msg.id ∈ e.mDataConsumers
  | _ => False

/-- The processor answers with success exactly when the announced id is then held, and
otherwise leaves the tables and the store as they were. -/
def AckTruthful (e : RtcEngineEx) (n : Notification) (o : RecvTransport.ConsumeOutcome) : Prop :=
  let e' := (e.process n o).1
  ((∃ r, (e.process n o).2 = .ok (some r) ∧ r.success = true) ↔ e'.Holds n) ∧
    (¬ e'.Holds n → e'.mConsumers = e.mConsumers ∧ e'.mDataConsumers = e.mDataConsumers ∧
      e'.mStore = e.mStore)

variable {e : RtcEngineEx}

-- A processor whose handler returned answers a consumer message with success.
private theorem process_success {n : Notification} {o : RecvTransport.ConsumeOutcome}
    (hn : n.Answered) (ht : (e.handleNotification n o).thrown = none) :
    (e.process n o).1 = (e.handleNotification n o).engine ∧
      ∃ r, (e.process n o).2 = .ok (some r) ∧ r.success = true := by
  simp only [process, ht]
  cases n with
  | createUserConsumer msg => exact ⟨trivial, _, rfl, rfl⟩
  | createUserTextConsumer msg => exact ⟨trivial, _, rfl, rfl⟩
  | _ => exact absurd hn id

-- With an answer sent, the truth of it is whether the id is held.
private theorem ackTruthful_iff_holds {n : Notification} {o : RecvTransport.ConsumeOutcome}
    (hn : n.Answered) (ht : (e.handleNotification n o).thrown = none) :
    e.AckTruthful n o ↔ (e.handleNotification n o).engine.Holds n := by
  obtain ⟨hengine, hsuccess⟩ := process_success hn ht
  unfold AckTruthful
  simp only [hengine]
  constructor
  · intro h
    exact h.1.mp hsuccess
  · intro h
    exact ⟨⟨fun _ ↦ h, fun _ ↦ hsuccess⟩, fun hn ↦ absurd h hn⟩

private theorem consumed_isSome_iff {t : RecvTransport} (ht : e.mRecvTransport = some t)
    (hd : t.disposed = false) (msg : ConsumerMsg) (o : RecvTransport.ConsumeOutcome) :
    (e.consumed msg o).isSome ↔ t.closed = false ∧ o ≠ .throws := by
  cases hc : t.closed <;> cases o <;>
    simp [consumed, ht, RecvTransport.consume, RecvTransport.requireOpen, hd, hc]

private theorem consumedData_isSome_iff {t : RecvTransport} (ht : e.mRecvTransport = some t)
    (hd : t.disposed = false) (msg : DataConsumerMsg) (o : RecvTransport.ConsumeOutcome) :
    (e.consumedData msg o).isSome ↔ t.closed = false ∧ o ≠ .throws := by
  cases hc : t.closed <;> cases o <;>
    simp [consumedData, ht, RecvTransport.consumeData, RecvTransport.requireOpen, hd, hc]

-- On a transport that is not disposed, nothing but a `MediasoupException` is thrown inside
-- `onNewConsumer`, and that is caught.
private theorem onNewConsumer_returns_normally {t : RecvTransport} (ht : e.mRecvTransport = some t)
    (hd : t.disposed = false) (msg : ConsumerMsg) (o : RecvTransport.ConsumeOutcome) :
    (e.onNewConsumer msg o).thrown = none := by
  cases hc : t.closed <;> cases o <;>
    simp [onNewConsumer, ht, RecvTransport.consume, RecvTransport.requireOpen, hd, hc]

private theorem mem_onNewConsumer (msg : ConsumerMsg) (o : RecvTransport.ConsumeOutcome)
    (hnew : msg.id ∉ e.mConsumers) :
    msg.id ∈ (e.onNewConsumer msg o).engine.mConsumers ↔ (e.consumed msg o).isSome := by
  cases hx : e.consumed msg o with
  | none =>
    rw [e.onNewConsumer_of_none hx]
    simp [hnew]
  | some c =>
    obtain ⟨hc, t, -, hr⟩ := e.onNewConsumer_of_some hx
    have hid : c.id = msg.id := by rw [hc]
    rw [hr]
    unfold addConsumer
    simp only
    split <;> simp [← hid]

private theorem mem_onNewDataConsumer (msg : DataConsumerMsg) (o : RecvTransport.ConsumeOutcome)
    (hnew : msg.id ∉ e.mDataConsumers) :
    msg.id ∈ (e.onNewDataConsumer msg o).mDataConsumers ↔ (e.consumedData msg o).isSome := by
  cases hx : e.consumedData msg o with
  | none =>
    rw [e.onNewDataConsumer_of_none hx]
    simp [hnew]
  | some d =>
    obtain ⟨hd, t, -, hr⟩ := e.onNewDataConsumer_of_some hx
    have hid : d.id = msg.id := by rw [hd]
    rw [hr]
    simp [← hid]

/-- For a new id and a consume that returns or throws a `MediasoupException`, the answer is
truthful exactly when the consume returns. -/
theorem ackTruthful_iff {n : Notification} (hn : n.Answered) (hnew : ¬ e.Holds n)
    {t : RecvTransport} (ht : e.mRecvTransport = some t) (hd : t.disposed = false)
    (o : RecvTransport.ConsumeOutcome) :
    e.AckTruthful n o ↔ t.closed = false ∧ o ≠ .throws := by
  cases n with
  | createUserConsumer msg =>
    rw [ackTruthful_iff_holds hn (onNewConsumer_returns_normally ht hd msg o),
      ← consumed_isSome_iff ht hd msg o, ← mem_onNewConsumer msg o hnew]
    rfl
  | createUserTextConsumer msg =>
    rw [ackTruthful_iff_holds hn rfl, ← consumedData_isSome_iff ht hd msg o,
      ← mem_onNewDataConsumer msg o hnew]
    rfl
  | _ => exact absurd hn id

end RtcEngineEx

/-- `CREATE_USER_CONSUMER` for audio consumer `c` of user `u`. -/
def createAudio (c u : String) : Notification :=
  .createUserConsumer
    { type := "simple", userId := u, producerPaused := false, id := c, producerId := "s-" ++ c,
      kind := "audio" }

/-- A consumer that the transport returns is acknowledged truthfully. -/
theorem ackTruthful_returned :
    ¬ joinedEngine.Holds (createAudio "c" "u") ∧
      joinedEngine.AckTruthful (createAudio "c" "u") (.returns .audio) := by
  have hnew : ¬ joinedEngine.Holds (createAudio "c" "u") := by
    simp [RtcEngineEx.Holds, createAudio, joinedEngine]
  exact ⟨hnew, (RtcEngineEx.ackTruthful_iff (n := createAudio "c" "u") trivial hnew rfl rfl _).mpr
    ⟨rfl, by decide⟩⟩

/-- A consume that throws is acknowledged with success all the same: the processor answers the
server and the id is not held. -/
theorem ackTruthful_fails_thrown : ¬ joinedEngine.AckTruthful (createAudio "c" "u") .throws := by
  intro h
  have hheld := h.1.mp ⟨⟨true, joinedEngine.responseData⟩, by decide, rfl⟩
  exact absurd hheld (by simp [RtcEngineEx.Holds, createAudio, RtcEngineEx.process, joinedEngine,
    RtcEngineEx.handleNotification, RtcEngineEx.onNewConsumer, RecvTransport.consume,
    RecvTransport.requireOpen])

end RtcClient.Engine
