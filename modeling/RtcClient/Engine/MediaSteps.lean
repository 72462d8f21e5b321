import RtcClient.Engine.Produce
import RtcClient.Lib.Slots

/-!
# The sending side under media tasks

The producer fields, the tables of the send transport and the closed flags form slots over
a table of handles, once for the two producers and once for the two data producers. A media
task leaves them alone, adds one object, or releases one slot; `MediaStep` says which and
when, and everything later about local media follows from it.
-/

namespace RtcClient.Engine

open RtcClient.Native RtcClient.Store RtcClient.Lib

instance : Handle Producer Kind String := ⟨Producer.ref, Producer.id, Producer.kind⟩

instance : Handle DataProducer Label String :=
  ⟨DataProducer.ref, DataProducer.id, DataProducer.label⟩

namespace Call

/-- Id of an answered `CREATE_USER_PRODUCE` of this kind. -/
def answeredId (kind : Kind) : Call → Option String
  | .answered k id => if k = kind then some id else none
  | _ => none

/-- Id of a requested `CLOSE_USER_PRODUCER`. -/
def closedId : Call → Option String
  | .request (.closeUserProducer id) => some id
  | _ => none

/-- Producer that `SendTransport.produce` returned. -/
def producer : Call → Option Producer
  | .produced p => some p
  | _ => none

/-- Data producer that `SendTransport.produceData` returned. -/
def dataProducer : Call → Option DataProducer
  | .producedData p => some p
  | _ => none

/-- The call reports nothing about producers. -/
def Silent (c : Call) : Prop :=
  (∀ k, c.answeredId k = none) ∧ c.closedId = none ∧ c.producer = none ∧ c.dataProducer = none

/-- Only answers, close requests and returned objects are not silent. -/
theorem silent_iff (c : Call) :
    c.Silent ↔ (∀ k id, c ≠ .answered k id) ∧ (∀ id, c ≠ .request (.closeUserProducer id)) ∧
      (∀ p, c ≠ .produced p) ∧ ∀ p, c ≠ .producedData p := by
  unfold Silent
  cases c with
  | request r => cases r <;> simp [answeredId, closedId, producer, dataProducer]
  | _ => simp [answeredId, closedId, producer, dataProducer]

end Call

namespace RtcEngineEx

/-- Ids of one kind the server has answered. -/
def answeredIds (e : RtcEngineEx) (kind : Kind) : List String :=
  e.calls.filterMap (Call.answeredId kind)

/-- Ids whose closing the server was asked for. -/
def closeRequests (e : RtcEngineEx) : List String := e.calls.filterMap Call.closedId

/-- Every producer the transport returned to this engine. -/
def returnedProducers (e : RtcEngineEx) : List Producer := e.calls.filterMap Call.producer

/-- Every data producer the transport returned to this engine. -/
def returnedDataProducers (e : RtcEngineEx) : List DataProducer :=
  e.calls.filterMap Call.dataProducer

/-- The two producer fields over the producer table of the send transport. -/
def producerSlots (e : RtcEngineEx) : Slots Producer Kind String where
  slot := e.mProducer
  table := (e.mSendTransport.map (·.producers)).getD ∅
  closed := e.closedProducers
  made := e.returnedProducers

/-- The two data producer fields over the data producer table of the send transport. -/
def dataSlots (e : RtcEngineEx) : Slots DataProducer Label String where
  slot := e.mDataProducer
  table := (e.mSendTransport.map (·.dataProducers)).getD ∅
  closed := e.closedDataProducers
  made := e.returnedDataProducers

/-- The send transport without its tables. -/
def sendHeader (e : RtcEngineEx) : Option (String × Bool × Bool) :=
  e.mSendTransport.map fun t ↦ (t.id, t.closed, t.disposed)

/-- The send transport is set and open. -/
def SendOpen (e : RtcEngineEx) : Prop :=
  ∃ t, e.mSendTransport = some t ∧ t.disposed = false ∧ t.closed = false

/-- An enable task for this kind, run now, makes a producer. -/
structure Opens (e : RtcEngineEx) (kind : Kind) (env : Environment) : Prop where
  noProducer : e.mProducer kind = none
  canSend : e.CanSend kind
  sendOpen : e.SendOpen
  camera : kind = .video → e.mLocalVideoTrack = none → env.camera = .opened
  answered : (e.producedId env.produce).isSome

/-- Whether the send transport is open is read off its header. -/
theorem sendOpen_iff_sendHeader {e : RtcEngineEx} :
    e.SendOpen ↔ ∃ id, e.sendHeader = some (id, false, false) := by
  constructor
  · rintro ⟨t, ht, hd, hc⟩
    exact ⟨t.id, by simp [sendHeader, ht, hd, hc]⟩
  · rintro ⟨id, h⟩
    obtain ⟨t, ht, heq⟩ := Option.map_eq_some_iff.mp h
    simp only [Prod.mk.injEq] at heq
    exact ⟨t, ht, heq.2.2, heq.2.1⟩

end RtcEngineEx

/-- Fields that no media task writes. -/
structure MediaFrame (e e' : RtcEngineEx) : Prop where
  rtcEngineConfig : e'.rtcEngineConfig = e.rtcEngineConfig
  mDevice : e'.mDevice = e.mDevice
  mStartupClient : e'.mStartupClient = e.mStartupClient
  sendHeader : e'.sendHeader = e.sendHeader
  mRecvTransport : e'.mRecvTransport = e.mRecvTransport
  mClosed : e'.mClosed = e.mClosed
  serverRoomId : e'.serverRoomId = e.serverRoomId
  mConsumers : e'.mConsumers = e.mConsumers
  mDataConsumers : e'.mDataConsumers = e.mDataConsumers
  closedConsumers : e'.closedConsumers = e.closedConsumers

/-- No producer or data producer was made, closed or told to the server. -/
structure Still (e e' : RtcEngineEx) : Prop extends MediaFrame e e' where
  producers : e'.producerSlots = e.producerSlots
  data : e'.dataSlots = e.dataSlots
  nextRef : e'.nextRef = e.nextRef
  answered : ∀ k, e'.answeredIds k = e.answeredIds k
  closeRequests : e'.closeRequests = e.closeRequests

/-- One producer was made and filed under `id`; `told` when the server answered that id. -/
structure Opened (e e' : RtcEngineEx) (k : Kind) (id : String) (told : Bool) : Prop
    extends MediaFrame e e' where
  producers : e'.producerSlots = e.producerSlots.add ⟨e.nextRef, id, k⟩
  data : e'.dataSlots = e.dataSlots
  nextRef : e'.nextRef = e.nextRef + 1
  answered : ∀ k', e'.answeredIds k' = e.answeredIds k' ++ if told ∧ k' = k then [id] else []
  closeRequests : e'.closeRequests = e.closeRequests

/-- One producer was closed, here and at the server while there is a client. -/
structure Closed (e e' : RtcEngineEx) (k : Kind) (p : Producer) : Prop
    extends MediaFrame e e' where
  producers : e'.producerSlots = e.producerSlots.release k
  data : e'.dataSlots = e.dataSlots
  nextRef : e'.nextRef = e.nextRef
  answered : ∀ k', e'.answeredIds k' = e.answeredIds k'
  closeRequests : e'.closeRequests =
    e.closeRequests ++ if e.mStartupClient.isSome then [p.id] else []

/-- One data producer was made and filed under `id`. -/
structure OpenedData (e e' : RtcEngineEx) (l : Label) (id : String) : Prop
    extends MediaFrame e e' where
  producers : e'.producerSlots = e.producerSlots
  data : e'.dataSlots = e.dataSlots.add ⟨e.nextRef, id, l⟩
  nextRef : e'.nextRef = e.nextRef + 1
  answered : ∀ k', e'.answeredIds k' = e.answeredIds k'
  closeRequests : e'.closeRequests = e.closeRequests

/-- The server answered this produce with an id. -/
def RtcEngineEx.told (e : RtcEngineEx) : ProduceOutcome → Bool
  | .asks (.id _) => !e.mClosed
  | _ => false

/-- Every way a media task can end, and when. -/
inductive MediaStep (e e' : RtcEngineEx) (env : Environment) (task : MediaTask) : Prop
  | still (h : Still e e') (henable : ∀ k, task = .enable k → ¬ e.Opens k env)
      (hdisable : ∀ k, task = .disable k → e.mProducer k = none)
  | opened (k : Kind) (id : String) (htask : task = .enable k) (hopens : e.Opens k env)
      (hid : e.producedId env.produce = some id) (h : Opened e e' k id (e.told env.produce))
  | closed (k : Kind) (p : Producer) (htask : task = .disable k) (hp : e.mProducer k = some p)
      (h : Closed e e' k p)
  | openedData (l : Label) (id : String) (htask : task = .enableData l)
      (hnone : e.mDataProducer l = none) (hsome : e.mSendTransport.isSome)
      (hid : e.producedId env.produce = some id) (h : OpenedData e e' l id)

/-- Every media step is framed. -/
theorem MediaStep.frame {e e' : RtcEngineEx} {env : Environment} {task : MediaTask}
    (h : MediaStep e e' env task) : MediaFrame e e' := by
  cases h with
  | still hs _ _ => exact hs.toMediaFrame
  | opened _ _ _ _ _ hs => exact hs.toMediaFrame
  | closed _ _ _ _ hs => exact hs.toMediaFrame
  | openedData _ _ _ _ _ _ hs => exact hs.toMediaFrame

namespace MediaStep

variable {e e' : RtcEngineEx} {env : Environment} {task : MediaTask}

/-- Identities are only added. -/
theorem nextRef_le (h : MediaStep e e' env task) : e.nextRef ≤ e'.nextRef := by
  cases h with
  | still hs _ _ => exact hs.nextRef.ge
  | opened _ _ _ _ _ hs =>
    rw [hs.nextRef]
    exact Nat.le_succ _
  | closed _ _ _ _ hs => exact hs.nextRef.ge
  | openedData _ _ _ _ _ _ hs =>
    rw [hs.nextRef]
    exact Nat.le_succ _

/-- The producer slots stay in order, whatever ids the server answers. -/
theorem producers_wf (h : MediaStep e e' env task) (hwf : e.producerSlots.WF e.nextRef) :
    e'.producerSlots.WF e'.nextRef := by
  cases h with
  | still hs _ _ =>
    rw [hs.producers, hs.nextRef]
    exact hwf
  | opened k id _ hopens _ hs =>
    rw [hs.producers, hs.nextRef]
    exact hwf.add hopens.noProducer rfl
  | closed k p _ _ hs =>
    rw [hs.producers, hs.nextRef]
    exact hwf.release k
  | openedData l id _ _ _ _ hs =>
    rw [hs.producers, hs.nextRef]
    exact hwf.mono (Nat.le_succ _)

/-- So do the data producer slots. -/
theorem data_wf (h : MediaStep e e' env task) (hwf : e.dataSlots.WF e.nextRef) :
    e'.dataSlots.WF e'.nextRef := by
  cases h with
  | still hs _ _ =>
    rw [hs.data, hs.nextRef]
    exact hwf
  | opened k id _ _ _ hs =>
    rw [hs.data, hs.nextRef]
    exact hwf.mono (Nat.le_succ _)
  | closed k p _ _ hs =>
    rw [hs.data, hs.nextRef]
    exact hwf
  | openedData l id _ hnone _ _ hs =>
    rw [hs.data, hs.nextRef]
    exact hwf.add hnone rfl

end MediaStep

namespace MediaFrame

variable {e e' e'' : RtcEngineEx}

/-- Frames compose. -/
theorem trans (h : MediaFrame e e') (h' : MediaFrame e' e'') : MediaFrame e e'' where
  rtcEngineConfig := h'.rtcEngineConfig.trans h.rtcEngineConfig
  mDevice := h'.mDevice.trans h.mDevice
  mStartupClient := h'.mStartupClient.trans h.mStartupClient
  sendHeader := h'.sendHeader.trans h.sendHeader
  mRecvTransport := h'.mRecvTransport.trans h.mRecvTransport
  mClosed := h'.mClosed.trans h.mClosed
  serverRoomId := h'.serverRoomId.trans h.serverRoomId
  mConsumers := h'.mConsumers.trans h.mConsumers
  mDataConsumers := h'.mDataConsumers.trans h.mDataConsumers
  closedConsumers := h'.closedConsumers.trans h.closedConsumers

end MediaFrame

namespace Still

variable {e e' e'' : RtcEngineEx}

/-- Doing nothing is still. -/
theorem refl (e : RtcEngineEx) : Still e e :=
  ⟨⟨rfl, rfl, rfl, rfl, rfl, rfl, rfl, rfl, rfl, rfl⟩, rfl, rfl, rfl, fun _ ↦ rfl, rfl⟩

/-- Still steps compose. -/
theorem trans (h : Still e e') (h' : Still e' e'') : Still e e'' where
  toMediaFrame := h.toMediaFrame.trans h'.toMediaFrame
  producers := h'.producers.trans h.producers
  data := h'.data.trans h.data
  nextRef := h'.nextRef.trans h.nextRef
  answered k := (h'.answered k).trans (h.answered k)
  closeRequests := h'.closeRequests.trans h.closeRequests

/-- A still step after one that made a producer. -/
theorem after_opened {k : Kind} {id : String} {told : Bool} (h' : Still e' e'')
    (h : Opened e e' k id told) : Opened e e'' k id told where
  toMediaFrame := h.toMediaFrame.trans h'.toMediaFrame
  producers := h'.producers.trans h.producers
  data := h'.data.trans h.data
  nextRef := h'.nextRef.trans h.nextRef
  answered k := (h'.answered k).trans (h.answered k)
  closeRequests := h'.closeRequests.trans h.closeRequests

/-- A still step before one that makes a producer. -/
theorem before_opened {k : Kind} {id : String} {told : Bool} (h : Still e e')
    (h' : Opened e' e'' k id told) : Opened e e'' k id told where
  toMediaFrame := h.toMediaFrame.trans h'.toMediaFrame
  producers := by rw [h'.producers, h.producers, h.nextRef]
  data := h'.data.trans h.data
  nextRef := by rw [h'.nextRef, h.nextRef]
  answered k := by rw [h'.answered k, h.answered k]
  closeRequests := h'.closeRequests.trans h.closeRequests

/-- A still step before one that makes a data producer. -/
theorem before_openedData {l : Label} {id : String} (h : Still e e')
    (h' : OpenedData e' e'' l id) : OpenedData e e'' l id where
  toMediaFrame := h.toMediaFrame.trans h'.toMediaFrame
  producers := h'.producers.trans h.producers
  data := by rw [h'.data, h.data, h.nextRef]
  nextRef := by rw [h'.nextRef, h.nextRef]
  answered k := (h'.answered k).trans (h.answered k)
  closeRequests := h'.closeRequests.trans h.closeRequests

/-- The store is not part of the sending side. -/
theorem of_store (e : RtcEngineEx) (st : RoomStore) : Still e { e with mStore := st } :=
  ⟨⟨rfl, rfl, rfl, rfl, rfl, rfl, rfl, rfl, rfl, rfl⟩, rfl, rfl, rfl, fun _ ↦ rfl, rfl⟩

/-- Nor are the local tracks. -/
theorem of_track (e : RtcEngineEx) (t : Option LocalTrack) (k : Kind) :
    Still e (e.setLocalTrack t k) := by
  cases k <;>
    exact ⟨⟨rfl, rfl, rfl, rfl, rfl, rfl, rfl, rfl, rfl, rfl⟩, rfl, rfl, rfl, fun _ ↦ rfl, rfl⟩

/-- Silent calls change no list read off the calls. -/
theorem of_calls (e : RtcEngineEx) {cs : List Call} (hcs : ∀ c ∈ cs, c.Silent) :
    Still e (e.emitAll cs) := by
  have hnil : ∀ {β : Type} (f : Call → Option β), (∀ c ∈ cs, f c = none) →
      (e.calls ++ cs).filterMap f = e.calls.filterMap f := by
    intro β f hf
    rw [List.filterMap_append, List.filterMap_eq_nil_iff.mpr hf, List.append_nil]
  refine ⟨⟨rfl, rfl, rfl, rfl, rfl, rfl, rfl, rfl, rfl, rfl⟩, ?_, ?_, rfl, fun k ↦ ?_, ?_⟩
  · exact congrArg (Slots.mk e.mProducer _ _) (hnil _ fun c hc ↦ (hcs c hc).2.2.1)
  · exact congrArg (Slots.mk e.mDataProducer _ _) (hnil _ fun c hc ↦ (hcs c hc).2.2.2)
  · exact hnil _ fun c hc ↦ (hcs c hc).1 k
  · exact hnil _ fun c hc ↦ (hcs c hc).2.1

end Still

end RtcClient.Engine
