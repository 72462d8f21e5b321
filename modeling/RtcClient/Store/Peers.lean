import RtcClient.Native.Transport

/-!
# Remote users and the consumers indexed under them

`rtc-sdk/src/main/java/com/zeewain/rtc/model/Peer.java` and `Peers.java`. A peer is
created with empty consumer sets on every `addPeer`, also when the user is already
present. Insertion order of the `LinkedHashMap` is not observed here.
-/

namespace RtcClient.Store

/-- `DeviceInfo.java`. -/
structure DeviceInfo where
  flag : Option String
  name : Option String
  version : Option String
  deriving DecidableEq, Repr

/-- `DeviceInfo.unknownDevice`; `DeviceInfo.java:48–50`. -/
def DeviceInfo.unknownDevice : DeviceInfo := ⟨some "unknown", some "unknown", some "unknown"⟩

/-- Description of a user in `USER_JOINED` and in the `users` of the join reply. -/
structure PeerInfo where
  id : String
  displayName : Option String := none
  device : Option DeviceInfo := none
  deriving DecidableEq, Repr

/-- One remote user; `Peer.java:11–35`. -/
structure Peer where
  mId : String
  mDisplayName : Option String
  mDevice : DeviceInfo
  mConsumers : Finset String
  mDataConsumers : Finset String
  deriving DecidableEq

/-- `new Peer(info)`: no consumers yet; `Peer.java:20–35`. -/
def Peer.ofInfo (info : PeerInfo) : Peer where
  mId := info.id
  mDisplayName := info.displayName
  mDevice := info.device.getD DeviceInfo.unknownDevice
  mConsumers := ∅
  mDataConsumers := ∅

/-- The users of the room by id; `Peers.java:17–25`. -/
structure Peers where
  mPeersInfo : Std.ExtTreeMap String Peer := ∅

namespace Peers

/-- `Peers.java:82–84`. -/
def getPeer (ps : Peers) (peerId : String) : Option Peer := ps.mPeersInfo[peerId]?

/-- Replace whatever is stored for the user by a new peer; `Peers.java:27–29`. -/
def addPeer (ps : Peers) (peerId : String) (info : PeerInfo) : Peers :=
  ⟨ps.mPeersInfo.insert peerId (Peer.ofInfo info)⟩

/-- `Peers.java:31–33`. -/
def removePeer (ps : Peers) (peerId : String) : Peers :=
  ⟨ps.mPeersInfo.erase peerId⟩

/-- Change the stored peer in place; an unknown user is left alone. The five operations below
are this with their own update; `Peers.java:35–80`. -/
def updatePeer (ps : Peers) (peerId : String) (f : Peer → Peer) : Peers :=
  match ps.getPeer peerId with
  | none => ps
  | some peer => ⟨ps.mPeersInfo.insert peerId (f peer)⟩

/-- `Peers.java:35–42`. -/
def setPeerDisplayName (ps : Peers) (peerId : String) (displayName : Option String) : Peers :=
  ps.updatePeer peerId fun p ↦ { p with mDisplayName := displayName }

/-- `Peers.java:44–52`. -/
def addConsumer (ps : Peers) (peerId consumerId : String) : Peers :=
  ps.updatePeer peerId fun p ↦ { p with mConsumers := insert consumerId p.mConsumers }

/-- `Peers.java:54–61`. -/
def removeConsumer (ps : Peers) (peerId consumerId : String) : Peers :=
  ps.updatePeer peerId fun p ↦ { p with mConsumers := p.mConsumers.erase consumerId }

/-- `Peers.java:63–71`. -/
def addDataConsumer (ps : Peers) (peerId consumerId : String) : Peers :=
  ps.updatePeer peerId fun p ↦ { p with mDataConsumers := insert consumerId p.mDataConsumers }

/-- `Peers.java:73–80`. -/
def removeDataConsumer (ps : Peers) (peerId consumerId : String) : Peers :=
  ps.updatePeer peerId fun p ↦ { p with mDataConsumers := p.mDataConsumers.erase consumerId }

/-- Ids listed under a user; none for an unknown user. -/
def consumersOf (ps : Peers) (peerId : String) : Finset String :=
  (ps.getPeer peerId).elim ∅ Peer.mConsumers

/-! ### Presence and listed ids after each operation -/

/-- Nobody is in the empty room. -/
@[simp] theorem getPeer_empty (q : String) : getPeer {} q = none := by
  simp [getPeer]

/-- Adding a user stores a new peer for that user and touches no other. -/
theorem getPeer_addPeer (ps : Peers) (p q : String) (info : PeerInfo) :
    (ps.addPeer p info).getPeer q = if p = q then some (Peer.ofInfo info) else ps.getPeer q := by
  simp [getPeer, addPeer, Std.ExtTreeMap.getElem?_insert]

/-- Removing a user touches no other. -/
theorem getPeer_removePeer (ps : Peers) (p q : String) :
    (ps.removePeer p).getPeer q = if p = q then none else ps.getPeer q := by
  simp [getPeer, removePeer, Std.ExtTreeMap.getElem?_erase]

/-- An index update maps the stored peer of its user and touches no other. -/
theorem getPeer_updatePeer (ps : Peers) (p q : String) (f : Peer → Peer) :
    (ps.updatePeer p f).getPeer q = if p = q then (ps.getPeer q).map f else ps.getPeer q := by
  unfold updatePeer
  split
  · next h =>
    by_cases hq : p = q
    · subst q
      simp [h]
    · simp [hq]
  · next peer h =>
    by_cases hq : p = q
    · subst q
      rw [h]
      simp [getPeer]
    · simp [getPeer, Std.ExtTreeMap.getElem?_insert, hq]

/-- Index updates change nobody's presence. -/
@[simp] theorem isSome_getPeer_updatePeer (ps : Peers) (p q : String) (f : Peer → Peer) :
    ((ps.updatePeer p f).getPeer q).isSome = (ps.getPeer q).isSome := by
  rw [getPeer_updatePeer]
  split <;> simp

/-- A user just added lists no consumer. -/
theorem consumersOf_addPeer (ps : Peers) (p q : String) (info : PeerInfo) :
    (ps.addPeer p info).consumersOf q = if p = q then ∅ else ps.consumersOf q := by
  unfold consumersOf
  rw [getPeer_addPeer]
  split <;> simp [Peer.ofInfo]

/-- A removed user lists no consumer. -/
theorem consumersOf_removePeer (ps : Peers) (p q : String) :
    (ps.removePeer p).consumersOf q = if p = q then ∅ else ps.consumersOf q := by
  unfold consumersOf
  rw [getPeer_removePeer]
  split <;> simp

/-- A consumer is listed under its user only if the user is present. -/
theorem mem_consumersOf_addConsumer (ps : Peers) (p q c d : String) :
    d ∈ (ps.addConsumer p c).consumersOf q ↔
      (p = q ∧ d = c ∧ (ps.getPeer q).isSome) ∨ d ∈ ps.consumersOf q := by
  unfold consumersOf addConsumer
  rw [getPeer_updatePeer]
  by_cases hq : p = q
  · cases h : ps.getPeer q <;> simp [hq]
  · simp [hq]

/-- Unlisting a consumer leaves every other entry of the index. -/
theorem mem_consumersOf_removeConsumer (ps : Peers) (p q c d : String) :
    d ∈ (ps.removeConsumer p c).consumersOf q ↔ ¬ (p = q ∧ d = c) ∧ d ∈ ps.consumersOf q := by
  unfold consumersOf removeConsumer
  rw [getPeer_updatePeer]
  by_cases hq : p = q
  · cases h : ps.getPeer q <;> simp [hq]
  · simp [hq]

/-- Data consumers are indexed apart from the media consumers. -/
@[simp] theorem consumersOf_addDataConsumer (ps : Peers) (p q c : String) :
    (ps.addDataConsumer p c).consumersOf q = ps.consumersOf q := by
  unfold consumersOf addDataConsumer
  rw [getPeer_updatePeer]
  by_cases hq : p = q
  · cases h : ps.getPeer q <;> simp [hq]
  · simp [hq]

end Peers

end RtcClient.Store
