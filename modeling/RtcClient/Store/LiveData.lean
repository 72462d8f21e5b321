import Mathlib.Logic.Function.Basic
import RtcClient.Lib.Run
import RtcClient.Store.RoomStore

/-!
# Observable values under concurrent updates

`SupplierMutableLiveData.java:8–30` over the live data of androidx. An update reads the
current object, changes that object in place and posts it back, in three steps between which
other threads run. The live data keeps one pending object, which a later post overwrites,
until the main thread installs it and calls the observers. No update is lost because there
is only one object: it is current, pending, and in every thread's hand.

Which updates a run has executed is read off its statements alone (`executed`), by the program
order of each thread and without the live data. The model then refines a single cell to which
these updates are applied one after the other.
-/

namespace RtcClient.Store

open RtcClient.Native RtcClient.Lib

universe u v

/-- Where a thread stands in `postValue(Invoker)`; `SupplierMutableLiveData.java:25–29`. -/
inductive Posting (T : Type u) where
  | idle
  /-- `getValue` has returned this object. -/
  | got (value : Ref) (invokeAction : T → T)
  /-- `invokeAction` has changed this object. -/
  | invoked (value : Ref)

/-- A live data object, the heap it refers to and the threads that update it. -/
structure LiveData (ι : Type v) (T : Type u) where
  mData : Ref
  /-- `none` is the `NOT_SET` of androidx. -/
  mPendingData : Option Ref := none
  heap : Ref → T
  threads : ι → Posting T := fun _ ↦ .idle
  /-- What the observers were called with, and its content at that moment. -/
  notified : List (Ref × T) := []

/-- One step of an updating thread, or of the main thread. -/
inductive LiveAction (ι : Type v) (T : Type u) where
  | getValue (i : ι) (invokeAction : T → T)
  | invokeAction (i : ι)
  | postValue (i : ι)
  /-- The main thread takes the pending object. -/
  | dispatch

namespace LiveData

variable {ι : Type v} [DecidableEq ι] {T : Type u}

/-- The constructor sets the supplier's object; `SupplierMutableLiveData.java:10–12`. -/
def new (heap : Ref → T) (supplied : Ref) : LiveData ι T where
  mData := supplied
  heap := heap

/-- One step; a thread that is not at this statement stays where it is. -/
def step (s : LiveData ι T) : LiveAction ι T → LiveData ι T
  | .getValue i f =>
    match s.threads i with
    | .idle => { s with threads := Function.update s.threads i (.got s.mData f) }
    | _ => s
  | .invokeAction i =>
    match s.threads i with
    | .got v f => { s with
        heap := Function.update s.heap v (f (s.heap v))
        threads := Function.update s.threads i (.invoked v) }
    | _ => s
  | .postValue i =>
    match s.threads i with
    | .invoked v => { s with
        mPendingData := some v
        threads := Function.update s.threads i .idle }
    | _ => s
  | .dispatch =>
    match s.mPendingData with
    | none => s
    | some v => { s with
        mData := v
        mPendingData := none
        notified := s.notified ++ [(v, s.heap v)] }

end LiveData

/-! ### The updates of a run -/

/-- Where a thread stands by the order of its own statements. -/
inductive Stage (T : Type u) where
  | idle
  /-- It is about to invoke this action. -/
  | read (invokeAction : T → T)
  /-- It is about to post. -/
  | changed

namespace Stage

variable {ι : Type v} [DecidableEq ι] {T : Type u}

/-- A statement moves its thread when the thread is at it. -/
def advance (c : ι → Stage T) : LiveAction ι T → ι → Stage T
  | .getValue i f =>
    match c i with
    | .idle => Function.update c i (.read f)
    | _ => c
  | .invokeAction i =>
    match c i with
    | .read _ => Function.update c i .changed
    | _ => c
  | .postValue i =>
    match c i with
    | .changed => Function.update c i .idle
    | _ => c
  | .dispatch => c

/-- The update that a statement executes. -/
def executes (c : ι → Stage T) : LiveAction ι T → Option (T → T)
  | .invokeAction i =>
    match c i with
    | .read f => some f
    | _ => none
  | _ => none

/-- Where the threads stand after these statements. -/
def after (as : List (LiveAction ι T)) : ι → Stage T := run advance (fun _ ↦ .idle) as

/-- The updates that these statements execute, in the order of their execution. -/
def executed (as : List (LiveAction ι T)) : List (T → T) :=
  (trace advance (fun _ ↦ .idle) as).filterMap fun ca ↦ executes ca.1 ca.2

/-- The last statement moves at most its own thread. -/
theorem after_concat (as : List (LiveAction ι T)) (a : LiveAction ι T) :
    after (as ++ [a]) = advance (after as) a := run_concat ..

/-- The last statement executes at most one update more. -/
theorem executed_concat (as : List (LiveAction ι T)) (a : LiveAction ι T) :
    executed (as ++ [a]) = executed as ++ (executes (after as) a).toList := by
  unfold executed after
  rw [trace_concat, List.filterMap_append]
  cases h : executes (run advance (fun _ ↦ .idle) as) a <;> simp [h]

/-- What the live data keeps of a thread that has this object in hand. -/
def posting (supplied : Ref) : Stage T → Posting T
  | .idle => .idle
  | .read f => .got supplied f
  | .changed => .invoked supplied

end Stage

/-- The value that a sequence of updates makes of an initial one. -/
def applied {T : Type u} (fs : List (T → T)) (t : T) : T := fs.foldl (fun t f ↦ f t) t

/-- The last update is applied to what the others have made. -/
theorem applied_concat {T : Type u} (fs : List (T → T)) (f : T → T) (t : T) :
    applied (fs ++ [f]) t = f (applied fs t) := by
  simp [applied]

namespace LiveData

open Stage

variable {ι : Type v} [DecidableEq ι] {T : Type u}

/-! ### One object -/

/-- After these statements the supplier's object is the only one: current, pending, and in the
hand of every thread, which stands where its statements have taken it. Its content is what the
executed updates have made of `t`, and the observers have seen that content once everything
executed has been posted and dispatched. -/
structure OneObject (s : LiveData ι T) (supplied : Ref) (t : T) (as : List (LiveAction ι T)) :
    Prop where
  current : s.mData = supplied
  pending : ∀ v, s.mPendingData = some v → v = supplied
  threads : ∀ i, s.threads i = (after as i).posting supplied
  content : s.heap supplied = applied (executed as) t
  shown : (∀ i, after as i ≠ .changed) → s.mPendingData = none → executed as ≠ [] →
    s.notified.getLast? = some (supplied, applied (executed as) t)

variable {s : LiveData ι T} {r : Ref} {t : T} {as : List (LiveAction ι T)}

private theorem threads_update {c : ι → Stage T} (h : ∀ j, s.threads j = (c j).posting r) (i : ι)
    (x : Stage T) (j : ι) :
    Function.update s.threads i (x.posting r) j = (Function.update c i x j).posting r := by
  by_cases hj : j = i
  · rw [hj, Function.update_self, Function.update_self]
  · rw [Function.update_of_ne hj, Function.update_of_ne hj]
    exact h j

-- a statement that moves no thread and executes nothing
private theorem OneObject.idle_step (h : s.OneObject r t as) {a : LiveAction ι T}
    (hafter : advance (after as) a = after as) (hexec : executes (after as) a = none) :
    s.OneObject r t (as ++ [a]) := by
  have hsame : executed (as ++ [a]) = executed as := by
    rw [executed_concat, hexec, Option.toList_none, List.append_nil]
  refine ⟨h.current, h.pending, ?_, ?_, ?_⟩
  · rw [after_concat, hafter]
    exact h.threads
  · rw [hsame]
    exact h.content
  · rw [after_concat, hafter, hsame]
    exact h.shown

private theorem OneObject.getValue (h : s.OneObject r t as) (i : ι) (f : T → T) :
    (s.step (.getValue i f)).OneObject r t (as ++ [.getValue i f]) := by
  have hi := h.threads i
  cases hc : after as i with
  | idle =>
    rw [hc, posting] at hi
    have hafter : after (as ++ [.getValue i f]) = Function.update (after as) i (.read f) := by
      simp only [after_concat, advance, hc]
    have hexec : executed (as ++ [.getValue i f]) = executed as := by
      rw [executed_concat]
      exact List.append_nil _
    simp only [LiveData.step, hi, h.current]
    refine ⟨rfl, h.pending, ?_, ?_, ?_⟩
    · rw [hafter]
      exact threads_update h.threads i (.read f)
    · rw [hexec]
      exact h.content
    · rw [hafter, hexec]
      intro hposted
      apply h.shown
      intro j hj
      by_cases he : j = i
      · rw [he, hc] at hj
        cases hj
      · apply hposted j
        rw [Function.update_of_ne he]
        exact hj
  | read g =>
    rw [hc, posting] at hi
    simp only [LiveData.step, hi]
    exact h.idle_step (by simp only [advance, hc]) rfl
  | changed =>
    rw [hc, posting] at hi
    simp only [LiveData.step, hi]
    exact h.idle_step (by simp only [advance, hc]) rfl

private theorem OneObject.invokeAction (h : s.OneObject r t as) (i : ι) :
    (s.step (.invokeAction i)).OneObject r t (as ++ [.invokeAction i]) := by
  have hi := h.threads i
  cases hc : after as i with
  | read f =>
    rw [hc, posting] at hi
    have hafter : after (as ++ [.invokeAction i]) = Function.update (after as) i .changed := by
      simp only [after_concat, advance, hc]
    have hexec : executed (as ++ [.invokeAction i]) = executed as ++ [f] := by
      simp only [executed_concat, executes, hc, Option.toList_some]
    simp only [LiveData.step, hi]
    refine ⟨h.current, h.pending, ?_, ?_, ?_⟩
    · rw [hafter]
      exact threads_update h.threads i .changed
    · show Function.update s.heap r (f (s.heap r)) r = _
      rw [hexec, applied_concat, Function.update_self, h.content]
    · rw [hafter]
      exact fun hposted ↦ absurd (Function.update_self i _ _) (hposted i)
  | idle =>
    rw [hc, posting] at hi
    simp only [LiveData.step, hi]
    exact h.idle_step (by simp only [advance, hc]) (by simp only [executes, hc])
  | changed =>
    rw [hc, posting] at hi
    simp only [LiveData.step, hi]
    exact h.idle_step (by simp only [advance, hc]) (by simp only [executes, hc])

private theorem OneObject.postValue (h : s.OneObject r t as) (i : ι) :
    (s.step (.postValue i)).OneObject r t (as ++ [.postValue i]) := by
  have hi := h.threads i
  cases hc : after as i with
  | changed =>
    rw [hc, posting] at hi
    have hafter : after (as ++ [.postValue i]) = Function.update (after as) i .idle := by
      simp only [after_concat, advance, hc]
    have hexec : executed (as ++ [.postValue i]) = executed as := by
      rw [executed_concat]
      exact List.append_nil _
    simp only [LiveData.step, hi]
    refine ⟨h.current, ?_, ?_, ?_, ?_⟩
    · rintro v hv
      exact (Option.some.inj hv).symm
    · rw [hafter]
      exact threads_update h.threads i .idle
    · rw [hexec]
      exact h.content
    · intro _ hpending
      cases hpending
  | idle =>
    rw [hc, posting] at hi
    simp only [LiveData.step, hi]
    exact h.idle_step (by simp only [advance, hc]) rfl
  | read f =>
    rw [hc, posting] at hi
    simp only [LiveData.step, hi]
    exact h.idle_step (by simp only [advance, hc]) rfl

/-- The main thread shows the one object with everything executed so far. -/
theorem OneObject.dispatch_notified (h : s.OneObject r t as) (hp : s.mPendingData ≠ none) :
    (s.step .dispatch).notified = s.notified ++ [(r, applied (executed as) t)] := by
  cases hv : s.mPendingData with
  | none => exact absurd hv hp
  | some v =>
    simp only [step, hv]
    rw [h.pending v hv, h.content]

private theorem OneObject.dispatch (h : s.OneObject r t as) :
    (s.step .dispatch).OneObject r t (as ++ [.dispatch]) := by
  have hsame : ∀ s' : LiveData ι T, s'.OneObject r t as → s'.OneObject r t (as ++ [.dispatch]) :=
    fun s' h' ↦ h'.idle_step rfl rfl
  apply hsame
  cases hv : s.mPendingData with
  | none =>
    simp only [LiveData.step, hv]
    exact h
  | some v =>
    have hnotified := h.dispatch_notified (by simp [hv])
    simp only [LiveData.step, hv] at hnotified ⊢
    refine ⟨h.pending v hv, by simp, h.threads, h.content, ?_⟩
    intro _ _ _
    rw [hnotified]
    simp

/-- Every step of every thread keeps the one object. -/
theorem OneObject.step (h : s.OneObject r t as) (a : LiveAction ι T) :
    (s.step a).OneObject r t (as ++ [a]) := by
  cases a with
  | getValue i f => exact h.getValue i f
  | invokeAction i => exact h.invokeAction i
  | postValue i => exact h.postValue i
  | dispatch => exact h.dispatch

/-- A new live data object holds what its supplier made. -/
theorem oneObject_new (heap : Ref → T) (supplied : Ref) :
    (new heap supplied : LiveData ι T).OneObject supplied (heap supplied) [] where
  current := rfl
  pending := by simp [new]
  threads _ := rfl
  content := rfl
  shown _ _ h := absurd rfl h

/-- There is only one object in every state of every run. -/
theorem run_oneObject (heap : Ref → T) (supplied : Ref) (as : List (LiveAction ι T)) :
    (run step (new heap supplied) as).OneObject supplied (heap supplied) as := by
  induction as using List.reverseRecOn with
  | nil => exact oneObject_new heap supplied
  | append_singleton as a ih =>
    rw [run_concat]
    exact ih.step a

-- what was posted stays pending, in this or in a later version, until the main thread takes it
private theorem pending_run {mid : List (LiveAction ι T)} (h : s.mPendingData ≠ none)
    (hmid : LiveAction.dispatch ∉ mid) : (run step s mid).mPendingData ≠ none := by
  refine run_invariant_of_mem (fun s : LiveData ι T ↦ s.mPendingData ≠ none) h ?_
  intro s a ha hs
  cases a with
  | getValue i f =>
    simp only [step]
    split <;> exact hs
  | invokeAction i =>
    simp only [step]
    split <;> exact hs
  | postValue i =>
    simp only [step]
    split
    · simp
    · exact hs
  | dispatch => exact absurd ha hmid

private theorem pending_postValue (h : s.OneObject r t as) {i : ι} (hi : after as i = .changed) :
    (s.step (.postValue i)).mPendingData ≠ none := by
  have hthread := h.threads i
  rw [hi, posting] at hthread
  simp [step, hthread]

/-- For any number of threads and any interleaving: the live data and every thread in the middle
of an update have the supplier's object; its content is the result of all updates executed so
far, in that order; a dispatch shows the observers all of them, the first one after a post
included; and when everything executed has been posted and dispatched, the last notification
has shown it. -/
theorem updates_kept (heap : Ref → T) (supplied : Ref) (as : List (LiveAction ι T)) :
    let s := run step (new heap supplied) as
    let content := applied (executed as) (heap supplied)
    (s.mData = supplied ∧ ∀ i, s.threads i = (after as i).posting supplied) ∧
      s.heap supplied = content ∧
      (s.mPendingData ≠ none → (s.step .dispatch).notified = s.notified ++ [(supplied, content)]) ∧
      (∀ pre i mid, as = pre ++ .postValue i :: (mid ++ [.dispatch]) → after pre i = .changed →
        LiveAction.dispatch ∉ mid → s.notified.getLast? = some (supplied, content)) ∧
      ((∀ i, after as i ≠ .changed) → s.mPendingData = none → executed as ≠ [] →
        s.notified.getLast? = some (supplied, content)) := by
  intro s content
  have h : s.OneObject supplied (heap supplied) as := run_oneObject heap supplied as
  refine ⟨⟨h.current, h.threads⟩, h.content, h.dispatch_notified, ?_, h.shown⟩
  intro pre i mid has hi hmid
  -- the state in which the main thread takes the pending object
  have hposts := run_oneObject heap supplied (pre ++ .postValue i :: mid)
  have hpending :
      (run step (new heap supplied) (pre ++ .postValue i :: mid)).mPendingData ≠ none := by
    rw [run_append, run_cons]
    exact pending_run (pending_postValue (run_oneObject heap supplied pre) hi) hmid
  have hlast : as = (pre ++ .postValue i :: mid) ++ [.dispatch] := by simp [has]
  have hexec : executed as = executed (pre ++ .postValue i :: mid) := by
    rw [hlast, executed_concat]
    exact List.append_nil _
  show (run step (new heap supplied) as).notified.getLast? = some (supplied, applied _ _)
  rw [hexec, hlast, run_concat, hposts.dispatch_notified hpending]
  simp

/-- Two threads have read the object when the first of them changes it; the second post
overwrites the first before the main thread has seen it. -/
def coalescedPosts : List (LiveAction Bool Nat) :=
  [.getValue false (· * 10), .getValue true (· + 1), .invokeAction true, .invokeAction false,
    .postValue true, .postValue false, .dispatch]

/-- The observers are called once and see both updates, in the order of their execution. -/
theorem updates_kept_coalesced :
    executed coalescedPosts = [(· + 1), (· * 10)] ∧
      (run step (new (fun _ ↦ 3) 0) coalescedPosts).heap 0 = 40 ∧
      (run step (new (fun _ ↦ 3) 0) coalescedPosts).notified.getLast? = some (0, 40) ∧
      (run step (new (fun _ ↦ 3) 0) coalescedPosts).notified.length = 1 := by
  obtain ⟨-, hcontent, -, hshown, -⟩ := updates_kept (fun _ ↦ 3) 0 coalescedPosts
  refine ⟨rfl, hcontent, ?_, rfl⟩
  exact hshown [.getValue false (· * 10), .getValue true (· + 1), .invokeAction true,
    .invokeAction false] true [.postValue false] rfl rfl (by simp)

/-! ### Operations of the store -/

/-- The live data of one field of the store, updated by the actions that store operations post,
holds that field of the store after the same operations. -/
theorem heap_eq_field (field : RoomStore → T) (st : RoomStore) (supplied : Ref)
    (ops : List ((RoomStore → RoomStore) × (T → T)))
    (hops : ∀ op ∈ ops, ∀ st, field (op.1 st) = op.2 (field st)) (as : List (LiveAction ι T))
    (has : executed as = ops.map Prod.snd) :
    (run step (new (fun _ ↦ field st) supplied) as).heap supplied =
      field (ops.foldl (fun st op ↦ op.1 st) st) := by
  rw [(run_oneObject (fun _ ↦ field st) supplied as).content, has]
  clear has
  induction ops generalizing st with
  | nil => rfl
  | cons op ops ih =>
    have hop := hops op (by simp) st
    have htail := ih (op.1 st) fun op' hop' ↦ hops op' (by simp [hop'])
    rw [List.foldl_cons, ← htail, hop]
    rfl

end LiveData

/-- The operations of the store that post to its peers. -/
inductive PeersOperation where
  | addPeer (peerId : String) (info : PeerInfo)
  | setPeerDisplayName (peerId : String) (displayName : Option String)
  | removePeer (peerId : String)
  | addConsumer (peerId type : String) (consumer : Consumer) (remotelyPaused : Bool)
  | removeConsumer (peerId consumerId : String)
  | addDataConsumer (peerId : String) (d : DataConsumer)
  | removeDataConsumer (peerId dataConsumerId : String)

namespace PeersOperation

/-- The operation on the store. -/
def perform : PeersOperation → RoomStore → RoomStore
  | .addPeer peerId info, st => st.addPeer peerId info
  | .setPeerDisplayName peerId name, st => st.setPeerDisplayName peerId name
  | .removePeer peerId, st => st.removePeer peerId
  | .addConsumer peerId type c paused, st => st.addConsumer peerId type c paused
  | .removeConsumer peerId consumerId, st => st.removeConsumer peerId consumerId
  | .addDataConsumer peerId d, st => st.addDataConsumer peerId d
  | .removeDataConsumer peerId dataConsumerId, st => st.removeDataConsumer peerId dataConsumerId

/-- The action that it posts to the peers; `RoomStore.java:138–194`. -/
def invokeAction : PeersOperation → Peers → Peers
  | .addPeer peerId info, ps => ps.addPeer peerId info
  | .setPeerDisplayName peerId name, ps => ps.setPeerDisplayName peerId name
  | .removePeer peerId, ps => ps.removePeer peerId
  | .addConsumer peerId _ c _, ps => ps.addConsumer peerId c.id
  | .removeConsumer peerId consumerId, ps => ps.removeConsumer peerId consumerId
  | .addDataConsumer peerId d, ps => ps.addDataConsumer peerId d.id
  | .removeDataConsumer peerId dataConsumerId, ps => ps.removeDataConsumer peerId dataConsumerId

/-- Whichever threads perform these operations and however their steps interleave, the live
data of the peers ends with the peers of the store. -/
theorem heap_eq_peers {ι : Type v} [DecidableEq ι] (st : RoomStore) (supplied : Ref)
    (ops : List PeersOperation) (as : List (LiveAction ι Peers))
    (has : Stage.executed as = ops.map invokeAction) :
    (run LiveData.step (LiveData.new (fun _ ↦ st.peers) supplied) as).heap supplied =
      (ops.foldl (fun st op ↦ op.perform st) st).peers := by
  have hpairs : Stage.executed as =
      (ops.map fun op ↦ (op.perform, op.invokeAction)).map Prod.snd := by
    rw [has, List.map_map]
    rfl
  rw [LiveData.heap_eq_field RoomStore.peers st supplied _ ?_ as hpairs, List.foldl_map]
  intro op hop st
  obtain ⟨op, -, rfl⟩ := List.mem_map.mp hop
  cases op <;> rfl

end PeersOperation

end RtcClient.Store
