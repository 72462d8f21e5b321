import RtcClient.Store.RoomStore
import RtcClient.Lib.LastWrite
import RtcClient.Lib.Past

/-!
# The state of a stored consumer and its history

All operations of `com/zeewain/rtc/model/Consumers.java` on the shared map of mutable
wrappers, and the operations of `RoomStore.java:159–184` that forward to them. A
wrapper is created by `addConsumer` and belongs to one id, so the map is read here as
one small machine an id: an operation on another id does not touch it. The history law
then reads the state of a consumer off the operations since it was last added.
-/

namespace RtcClient.Store

open RtcClient.Native RtcClient.Lib

namespace ConsumerWrapper

/-- The flag a pause or resume sets: `"local".equals(originator)` or not, the latter also
for `null`; `Consumers.java:92–96,105–109`. -/
def setPaused (w : ConsumerWrapper) (originator : Option String) (paused : Bool) :
    ConsumerWrapper :=
  if originator = some "local" then { w with mLocallyPaused := paused }
  else { w with mRemotelyPaused := paused }

/-- `Consumers.java:117–118`. -/
def setCurrentLayers (w : ConsumerWrapper) (spatialLayer temporalLayer : Int) : ConsumerWrapper :=
  { w with mSpatialLayer := spatialLayer, mTemporalLayer := temporalLayer }

/-- `Consumers.java:127`. -/
def setScore (w : ConsumerWrapper) (score : Option Ref) : ConsumerWrapper :=
  { w with mScore := score }

end ConsumerWrapper

namespace Consumers

/-- Change the wrapper stored under an id, if there is one: `consumers.get(consumerId)`, a
return on `null`, and an assignment to a field of the wrapper. -/
def update (cs : Consumers) (consumerId : String) (f : ConsumerWrapper → ConsumerWrapper) :
    Consumers :=
  match cs.consumers[consumerId]? with
  | none => cs
  | some wrapper => ⟨cs.consumers.insert consumerId (f wrapper)⟩

/-- `Consumers.java:86–97`. -/
def setConsumerPaused (cs : Consumers) (consumerId : String) (originator : Option String) :
    Consumers :=
  cs.update consumerId (·.setPaused originator true)

/-- `Consumers.java:99–110`. -/
def setConsumerResumed (cs : Consumers) (consumerId : String) (originator : Option String) :
    Consumers :=
  cs.update consumerId (·.setPaused originator false)

/-- `Consumers.java:112–119`. -/
def setConsumerCurrentLayers (cs : Consumers) (consumerId : String)
    (spatialLayer temporalLayer : Int) : Consumers :=
  cs.update consumerId (·.setCurrentLayers spatialLayer temporalLayer)

/-- `Consumers.java:121–128`. -/
def setConsumerScore (cs : Consumers) (consumerId : String) (score : Option Ref) : Consumers :=
  cs.update consumerId (·.setScore score)

/-- `Consumers.java:134–136`. -/
def clear (_ : Consumers) : Consumers := {}

end Consumers

/-- A call of one of the seven operations, with its arguments. -/
inductive ConsumersCall where
  | addConsumer (type : String) (consumer : Consumer) (remotelyPaused : Bool)
  | removeConsumer (consumerId : String)
  | setConsumerPaused (consumerId : String) (originator : Option String)
  | setConsumerResumed (consumerId : String) (originator : Option String)
  | setConsumerCurrentLayers (consumerId : String) (spatialLayer temporalLayer : Int)
  | setConsumerScore (consumerId : String) (score : Option Ref)
  | clear
  deriving DecidableEq, Repr

/-- The map after a call. -/
def Consumers.call (cs : Consumers) : ConsumersCall → Consumers
  | .addConsumer type consumer remotelyPaused => cs.addConsumer type consumer remotelyPaused
  | .removeConsumer consumerId => cs.removeConsumer consumerId
  | .setConsumerPaused consumerId originator => cs.setConsumerPaused consumerId originator
  | .setConsumerResumed consumerId originator => cs.setConsumerResumed consumerId originator
  | .setConsumerCurrentLayers consumerId spatialLayer temporalLayer =>
    cs.setConsumerCurrentLayers consumerId spatialLayer temporalLayer
  | .setConsumerScore consumerId score => cs.setConsumerScore consumerId score
  | .clear => cs.clear

namespace ConsumersCall

/-- The call adds a consumer with id `c`. -/
def Adds (c : String) : ConsumersCall → Prop
  | .addConsumer _ consumer _ => consumer.id = c
  | _ => False

/-- The call drops what is stored under `c`. -/
def Drops (c : String) : ConsumersCall → Prop
  | .removeConsumer consumerId => consumerId = c
  | .clear => True
  | _ => False

/-- What a pause or resume of `c` with originator `"local"` says. -/
def localPause (c : String) : ConsumersCall → Option Bool
  | .setConsumerPaused consumerId originator =>
    if consumerId = c ∧ originator = some "local" then some true else none
  | .setConsumerResumed consumerId originator =>
    if consumerId = c ∧ originator = some "local" then some false else none
  | _ => none

/-- What a pause or resume of `c` with any other originator, or none, says. -/
def remotePause (c : String) : ConsumersCall → Option Bool
  | .setConsumerPaused consumerId originator =>
    if consumerId = c ∧ originator ≠ some "local" then some true else none
  | .setConsumerResumed consumerId originator =>
    if consumerId = c ∧ originator ≠ some "local" then some false else none
  | _ => none

/-- The spatial and temporal layer the call gives `c`. -/
def layers (c : String) : ConsumersCall → Option (Int × Int)
  | .setConsumerCurrentLayers consumerId spatialLayer temporalLayer =>
    if consumerId = c then some (spatialLayer, temporalLayer) else none
  | _ => none

/-- The score the call gives `c`, which may be `null`. -/
def score (c : String) : ConsumersCall → Option (Option Ref)
  | .setConsumerScore consumerId score => if consumerId = c then some score else none
  | _ => none

/-- The call is about `c`. -/
def concerns (c : String) : ConsumersCall → Bool
  | .addConsumer _ consumer _ => consumer.id = c
  | .removeConsumer consumerId => consumerId = c
  | .setConsumerPaused consumerId _ => consumerId = c
  | .setConsumerResumed consumerId _ => consumerId = c
  | .setConsumerCurrentLayers consumerId _ _ => consumerId = c
  | .setConsumerScore consumerId _ => consumerId = c
  | .clear => true

end ConsumersCall

/-- The wrapper of a consumer added by `addConsumer(type, consumer, remotelyPaused)`, after
the calls `post` that have been made since. -/
def wrapperSince (type : String) (consumer : Consumer) (remotelyPaused : Bool)
    (post : List ConsumersCall) : ConsumerWrapper :=
  { ConsumerWrapper.new type remotelyPaused consumer with
    mLocallyPaused := lastWrite (ConsumersCall.localPause consumer.id) false post
    mRemotelyPaused := lastWrite (ConsumersCall.remotePause consumer.id) remotelyPaused post
    mSpatialLayer := (lastWrite (ConsumersCall.layers consumer.id) (-1, -1) post).1
    mTemporalLayer := (lastWrite (ConsumersCall.layers consumer.id) (-1, -1) post).2
    mScore := lastWrite (ConsumersCall.score consumer.id) none post }

/-- What a call does to the wrapper stored under `c`. -/
def ConsumersCall.stepAt (c : String) (w : Option ConsumerWrapper) :
    ConsumersCall → Option ConsumerWrapper
  | .addConsumer type consumer remotelyPaused =>
    if consumer.id = c then some (.new type remotelyPaused consumer) else w
  | .removeConsumer consumerId => if consumerId = c then none else w
  | .setConsumerPaused consumerId originator =>
    if consumerId = c then w.map (·.setPaused originator true) else w
  | .setConsumerResumed consumerId originator =>
    if consumerId = c then w.map (·.setPaused originator false) else w
  | .setConsumerCurrentLayers consumerId spatialLayer temporalLayer =>
    if consumerId = c then w.map (·.setCurrentLayers spatialLayer temporalLayer) else w
  | .setConsumerScore consumerId score => if consumerId = c then w.map (·.setScore score) else w
  | .clear => none

namespace Consumers

/-- An update is seen under its own id only. -/
theorem getConsumer_update (cs : Consumers) (consumerId c : String)
    (f : ConsumerWrapper → ConsumerWrapper) :
    (cs.update consumerId f).getConsumer c =
      if consumerId = c then (cs.getConsumer c).map f else cs.getConsumer c := by
  rw [update]
  split
  · next hnone =>
    split
    · next heq =>
      subst heq
      rw [getConsumer, hnone, Option.map_none]
    · rfl
  · next w hsome =>
    rw [getConsumer, Std.ExtTreeMap.getElem?_insert, getConsumer]
    simp only [Std.compare_eq_iff_eq]
    split
    · next heq =>
      subst heq
      rw [hsome, Option.map_some]
    · rfl

/-- One call, seen from one id. -/
theorem getConsumer_call (cs : Consumers) (op : ConsumersCall) (c : String) :
    (cs.call op).getConsumer c = op.stepAt c (cs.getConsumer c) := by
  cases op with
  | addConsumer type consumer remotelyPaused =>
    show (cs.consumers.insert consumer.id (.new type remotelyPaused consumer))[c]? = _
    rw [Std.ExtTreeMap.getElem?_insert]
    simp only [Std.compare_eq_iff_eq]
    rfl
  | removeConsumer consumerId =>
    show (cs.consumers.erase consumerId)[c]? = _
    rw [Std.ExtTreeMap.getElem?_erase]
    simp only [Std.compare_eq_iff_eq]
    rfl
  | setConsumerPaused consumerId originator => exact cs.getConsumer_update _ _ _
  | setConsumerResumed consumerId originator => exact cs.getConsumer_update _ _ _
  | setConsumerCurrentLayers consumerId spatialLayer temporalLayer =>
    exact cs.getConsumer_update _ _ _
  | setConsumerScore consumerId score => exact cs.getConsumer_update _ _ _
  | clear => exact Std.ExtTreeMap.getElem?_empty

/-- A sequence of calls, seen from one id, is a run of the machine of that id. -/
theorem getConsumer_run (cs : Consumers) (calls : List ConsumersCall) (c : String) :
    (run call cs calls).getConsumer c =
      run (fun w op ↦ op.stepAt c w) (cs.getConsumer c) calls := by
  induction calls generalizing cs with
  | nil => rfl
  | cons op calls ih => rw [run_cons, ih, getConsumer_call, run_cons]

end Consumers

section History

variable {c : String} {op : ConsumersCall} {w : Option ConsumerWrapper}

/-- A call about another id leaves the wrapper alone. -/
theorem ConsumersCall.stepAt_of_not_concerns (h : op.concerns c = false) : op.stepAt c w = w := by
  cases op with
  | clear => cases h
  | _ => exact if_neg (of_decide_eq_false h)

/-- Without an addition an absent consumer stays absent. -/
theorem ConsumersCall.stepAt_none (hadd : ¬ op.Adds c) : op.stepAt c none = none := by
  cases op with
  | addConsumer type consumer remotelyPaused => exact if_neg hadd
  | clear => rfl
  | _ => exact ite_self _

/-- A call that neither adds nor drops `c` extends the history of its wrapper. -/
theorem ConsumersCall.stepAt_wrapperSince {consumer : Consumer} (hadd : ¬ op.Adds consumer.id)
    (hdrop : ¬ op.Drops consumer.id) (type : String) (remotelyPaused : Bool)
    (post : List ConsumersCall) :
    op.stepAt consumer.id (some (wrapperSince type consumer remotelyPaused post)) =
      some (wrapperSince type consumer remotelyPaused (post ++ [op])) := by
  simp only [wrapperSince, lastWrite_concat]
  cases op with
  | addConsumer type' consumer' remotelyPaused' => exact if_neg hadd
  | removeConsumer consumerId => exact if_neg hdrop
  | clear => exact absurd trivial hdrop
  | setConsumerPaused consumerId originator =>
    by_cases hid : consumerId = consumer.id <;> by_cases ho : originator = some "local" <;>
      simp [stepAt, localPause, remotePause, layers, score, ConsumerWrapper.setPaused, hid, ho]
  | setConsumerResumed consumerId originator =>
    by_cases hid : consumerId = consumer.id <;> by_cases ho : originator = some "local" <;>
      simp [stepAt, localPause, remotePause, layers, score, ConsumerWrapper.setPaused, hid, ho]
  | setConsumerCurrentLayers consumerId spatialLayer temporalLayer =>
    by_cases hid : consumerId = consumer.id <;>
      simp [stepAt, localPause, remotePause, layers, score, ConsumerWrapper.setCurrentLayers, hid]
  | setConsumerScore consumerId newScore =>
    by_cases hid : consumerId = consumer.id <;>
      simp [stepAt, localPause, remotePause, layers, score, ConsumerWrapper.setScore, hid]

/-- What the history `calls` says about `c`: it was not added since it was last dropped, or
it was, and `w` is its wrapper since the last addition. -/
inductive HistoryOf (c : String) (calls : List ConsumersCall) : Option ConsumerWrapper → Prop
  | absent (h : ¬ Since (fun op ↦ ¬ op.Drops c) (fun op ↦ op.Adds c) calls) :
    HistoryOf c calls none
  | present (pre : List ConsumersCall) (type : String) (consumer : Consumer)
      (remotelyPaused : Bool) (post : List ConsumersCall)
      (hcalls : calls = pre ++ .addConsumer type consumer remotelyPaused :: post)
      (hid : consumer.id = c) (hpost : ∀ op ∈ post, ¬ op.Adds c ∧ ¬ op.Drops c) :
    HistoryOf c calls (some (wrapperSince type consumer remotelyPaused post))

/-- One call extends the history. -/
theorem HistoryOf.step {calls : List ConsumersCall} (h : HistoryOf c calls w)
    (op : ConsumersCall) : HistoryOf c (calls ++ [op]) (op.stepAt c w) := by
  by_cases hadd : op.Adds c
  · cases op with
    | addConsumer type consumer remotelyPaused =>
      have hnew : (ConsumersCall.addConsumer type consumer remotelyPaused).stepAt c w =
          some (wrapperSince type consumer remotelyPaused []) := if_pos hadd
      rw [hnew]
      exact .present calls type consumer remotelyPaused [] rfl hadd (by simp)
    | _ => exact hadd.elim
  · by_cases hdrop : op.Drops c
    · have hnone : op.stepAt c w = none := by
        cases op with
        | removeConsumer consumerId => exact if_pos hdrop
        | clear => rfl
        | _ => exact hdrop.elim
      rw [hnone]
      apply HistoryOf.absent
      rw [since_concat]
      rintro (hadd' | ⟨hdrop', -⟩)
      · exact hadd hadd'
      · exact hdrop' hdrop
    · cases h with
      | absent h =>
        rw [ConsumersCall.stepAt_none hadd]
        apply HistoryOf.absent
        rw [since_concat]
        rintro (hadd' | ⟨-, hs⟩)
        · exact hadd hadd'
        · exact h hs
      | present pre type consumer remotelyPaused post hcalls hid hpost =>
        subst hid
        rw [ConsumersCall.stepAt_wrapperSince hadd hdrop]
        refine .present pre type consumer remotelyPaused (post ++ [op]) ?_ rfl ?_
        · rw [hcalls, List.append_assoc, List.cons_append]
        · intro x hx
          rcases List.mem_append.mp hx with hx | hx
          · exact hpost x hx
          · rw [List.mem_singleton.mp hx]
            exact ⟨hadd, hdrop⟩

/-- The machine of an id computes what the history says. -/
theorem historyOf_run (c : String) (calls : List ConsumersCall) :
    HistoryOf c calls (run (fun w op ↦ ConsumersCall.stepAt c w op) none calls) := by
  induction calls using List.reverseRecOn with
  | nil => exact .absent not_since_nil
  | append_singleton calls op ih =>
    rw [run_concat]
    exact ih.step op

/-- The machine of an id passes over the calls that are not about it. -/
theorem run_stepAt_filter (c : String) (w : Option ConsumerWrapper) (calls : List ConsumersCall) :
    run (fun w op ↦ ConsumersCall.stepAt c w op) w (calls.filter (·.concerns c)) =
      run (fun w op ↦ ConsumersCall.stepAt c w op) w calls := by
  induction calls generalizing w with
  | nil => rfl
  | cons op calls ih =>
    cases hop : op.concerns c with
    | true => rw [List.filter_cons_of_pos hop, run_cons, run_cons, ih]
    | false =>
      rw [List.filter_cons_of_neg (by simp [hop]), run_cons, ih,
        ConsumersCall.stepAt_of_not_concerns hop]

end History

/-- The state of a consumer is read off its own history, for every sequence of calls on a
new `Consumers` and every id: it is absent exactly when no addition follows the last removal
or clear; otherwise its flags, layers and score are what the calls since the last addition
say; and calls about other ids do not matter. -/
theorem getConsumer_history (calls : List ConsumersCall) (c : String) :
    ((run Consumers.call {} calls).getConsumer c = none ↔
      ¬ Since (fun op ↦ ¬ op.Drops c) (fun op ↦ op.Adds c) calls) ∧
    (∀ w, (run Consumers.call {} calls).getConsumer c = some w →
      ∃ pre type consumer remotelyPaused post,
        calls = pre ++ .addConsumer type consumer remotelyPaused :: post ∧ consumer.id = c ∧
        (∀ op ∈ post, ¬ op.Adds c ∧ ¬ op.Drops c) ∧
        w = wrapperSince type consumer remotelyPaused post) ∧
    (run Consumers.call {} (calls.filter (·.concerns c))).getConsumer c =
      (run Consumers.call {} calls).getConsumer c := by
  have hnew : ({} : Consumers).getConsumer c = none := Std.ExtTreeMap.getElem?_empty
  have hhist := historyOf_run c calls
  rw [Consumers.getConsumer_run, Consumers.getConsumer_run, hnew]
  refine ⟨?_, ?_, run_stepAt_filter c none calls⟩
  · generalize run (fun w op ↦ ConsumersCall.stepAt c w op) none calls = w at hhist
    cases hhist with
    | absent h => exact iff_of_true rfl h
    | present pre type consumer remotelyPaused post hcalls hid hpost =>
      refine iff_of_false (by simp) (not_not_intro ?_)
      exact ⟨pre, _, post, hcalls, hid, fun op hop ↦ (hpost op hop).2⟩
  · intro w hw
    rw [hw] at hhist
    cases hhist with
    | present pre type consumer remotelyPaused post hcalls hid hpost =>
      exact ⟨pre, type, consumer, remotelyPaused, post, hcalls, hid, hpost, rfl⟩

namespace RoomStore

/-- `RoomStore.java:169–171`. -/
def setConsumerPaused (st : RoomStore) (consumerId : String) (originator : Option String) :
    RoomStore :=
  { st with consumers := st.consumers.setConsumerPaused consumerId originator }

/-- `RoomStore.java:173–175`. -/
def setConsumerResumed (st : RoomStore) (consumerId : String) (originator : Option String) :
    RoomStore :=
  { st with consumers := st.consumers.setConsumerResumed consumerId originator }

/-- `RoomStore.java:177–180`. -/
def setConsumerCurrentLayers (st : RoomStore) (consumerId : String)
    (spatialLayer temporalLayer : Int) : RoomStore :=
  { st with
    consumers := st.consumers.setConsumerCurrentLayers consumerId spatialLayer temporalLayer }

/-- `RoomStore.java:182–184`. -/
def setConsumerScore (st : RoomStore) (consumerId : String) (score : Option Ref) : RoomStore :=
  { st with consumers := st.consumers.setConsumerScore consumerId score }

end RoomStore

/-- A call of one of the store's consumer operations; there is none for `clear`. -/
inductive StoreConsumerCall where
  | addConsumer (peerId type : String) (consumer : Consumer) (remotelyPaused : Bool)
  | removeConsumer (peerId consumerId : String)
  | setConsumerPaused (consumerId : String) (originator : Option String)
  | setConsumerResumed (consumerId : String) (originator : Option String)
  | setConsumerCurrentLayers (consumerId : String) (spatialLayer temporalLayer : Int)
  | setConsumerScore (consumerId : String) (score : Option Ref)
  deriving DecidableEq, Repr

/-- The operation of `Consumers` a store operation forwards to. -/
def StoreConsumerCall.forward : StoreConsumerCall → ConsumersCall
  | .addConsumer _ type consumer remotelyPaused => .addConsumer type consumer remotelyPaused
  | .removeConsumer _ consumerId => .removeConsumer consumerId
  | .setConsumerPaused consumerId originator => .setConsumerPaused consumerId originator
  | .setConsumerResumed consumerId originator => .setConsumerResumed consumerId originator
  | .setConsumerCurrentLayers consumerId spatialLayer temporalLayer =>
    .setConsumerCurrentLayers consumerId spatialLayer temporalLayer
  | .setConsumerScore consumerId score => .setConsumerScore consumerId score

/-- The store after a call. -/
def RoomStore.consumerCall (st : RoomStore) : StoreConsumerCall → RoomStore
  | .addConsumer peerId type consumer remotelyPaused =>
    st.addConsumer peerId type consumer remotelyPaused
  | .removeConsumer peerId consumerId => st.removeConsumer peerId consumerId
  | .setConsumerPaused consumerId originator => st.setConsumerPaused consumerId originator
  | .setConsumerResumed consumerId originator => st.setConsumerResumed consumerId originator
  | .setConsumerCurrentLayers consumerId spatialLayer temporalLayer =>
    st.setConsumerCurrentLayers consumerId spatialLayer temporalLayer
  | .setConsumerScore consumerId score => st.setConsumerScore consumerId score

/-- The consumers of the store are those of the forwarded calls, so the history law holds of
them too, whichever users the calls name. -/
theorem RoomStore.run_consumerCall_consumers (st : RoomStore) (calls : List StoreConsumerCall) :
    (run consumerCall st calls).consumers =
      run Consumers.call st.consumers (calls.map StoreConsumerCall.forward) := by
  induction calls generalizing st with
  | nil => rfl
  | cons call calls ih =>
    have hstep : (st.consumerCall call).consumers = st.consumers.call call.forward := by
      cases call <;> rfl
    rw [run_cons, ih, hstep, List.map_cons, run_cons]

end RtcClient.Store
