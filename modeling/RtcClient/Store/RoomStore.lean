import RtcClient.Store.Peers

/-!
# The room state observed by the application

`rtc-sdk/src/main/java/com/zeewain/rtc/lv/RoomStore.java` with the model classes it
holds. `SupplierMutableLiveData.postValue` runs its action on the one shared value
object before it posts, so each operation here is that action; delivery to observers
is not part of this module.
-/

namespace RtcClient.Store

open RtcClient.Native

/-- Stored consumer with its pause flags and layers; `Consumers.java:14–33`. The score is
the `JSONArray` object it was set to, by identity. -/
structure ConsumerWrapper where
  mType : String
  mLocallyPaused : Bool
  mRemotelyPaused : Bool
  mSpatialLayer : Int
  mTemporalLayer : Int
  mConsumer : Consumer
  mScore : Option Ref
  mPreferredSpatialLayer : Int
  mPreferredTemporalLayer : Int
  deriving DecidableEq, Repr

/-- `new ConsumerWrapper(type, remotelyPaused, consumer)`; `Consumers.java:24–33`. -/
def ConsumerWrapper.new (type : String) (remotelyPaused : Bool) (consumer : Consumer) :
    ConsumerWrapper where
  mType := type
  mLocallyPaused := false
  mRemotelyPaused := remotelyPaused
  mSpatialLayer := -1
  mTemporalLayer := -1
  mConsumer := consumer
  mScore := none
  mPreferredSpatialLayer := -1
  mPreferredTemporalLayer := -1

/-- Remote media by consumer id; `Consumers.java:72–76`. -/
structure Consumers where
  consumers : Std.ExtTreeMap String ConsumerWrapper := ∅

namespace Consumers

/-- `Consumers.java:78–80`. -/
def addConsumer (cs : Consumers) (type : String) (consumer : Consumer) (remotelyPaused : Bool) :
    Consumers :=
  ⟨cs.consumers.insert consumer.id (.new type remotelyPaused consumer)⟩

/-- `Consumers.java:82–84`. -/
def removeConsumer (cs : Consumers) (consumerId : String) : Consumers :=
  ⟨cs.consumers.erase consumerId⟩

/-- `Consumers.java:130–132`. -/
def getConsumer (cs : Consumers) (consumerId : String) : Option ConsumerWrapper :=
  cs.consumers[consumerId]?

end Consumers

/-- Local media by producer id; `Producers.java:44–56`. The wrapper's score and type are
never written by the engine. -/
structure Producers where
  mProducers : Std.ExtTreeMap String Producer := ∅

namespace Producers

/-- `Producers.java:50–52`. -/
def addProducer (ps : Producers) (p : Producer) : Producers := ⟨ps.mProducers.insert p.id p⟩

/-- `Producers.java:54–56`. -/
def removeProducer (ps : Producers) (producerId : String) : Producers :=
  ⟨ps.mProducers.erase producerId⟩

end Producers

/-- Remote data channels by id; `DataConsumers.java:8–23`. -/
structure DataConsumers where
  dataConsumers : Std.ExtTreeMap String DataConsumer := ∅

namespace DataConsumers

/-- `DataConsumers.java:16–18`. -/
def addDataConsumer (ds : DataConsumers) (d : DataConsumer) : DataConsumers :=
  ⟨ds.dataConsumers.insert d.id d⟩

/-- `DataConsumers.java:20–22`. -/
def removeDataConsumer (ds : DataConsumers) (dataConsumerId : String) : DataConsumers :=
  ⟨ds.dataConsumers.erase dataConsumerId⟩

end DataConsumers

/-- State of the local user; `Me.java:3–20`. -/
structure Me where
  mId : Option String := none
  mDisplayName : Option String := none
  mDevice : Option DeviceInfo := none
  mCanSendMic : Bool := false
  mCanSendCam : Bool := false
  mCanChangeCam : Bool := false
  mCamInProgress : Bool := false
  mAudioOnly : Bool := false
  mAudioOnlyInProgress : Bool := false
  mAudioMuted : Bool := false
  mRestartIceInProgress : Bool := false
  deriving DecidableEq, Repr

/-- The users a room points at; `RoomInfo.java:8–9`. -/
structure RoomInfo where
  mActiveSpeakerId : Option String := none
  mStatsPeerId : Option String := none
  deriving DecidableEq, Repr

/-- A notice to the user without its random id; `Notify.java:8–12`. -/
structure Notify where
  mType : String
  mTitle : Option String
  mText : String
  mTimeout : Int
  deriving DecidableEq, Repr

/-- A timeout of 0 is replaced by that of the type; `Notify.java:22–35`. -/
def Notify.new (type : String) (title : Option String) (text : String) (timeout : Int) :
    Notify where
  mType := type
  mTitle := title
  mText := text
  mTimeout :=
    if timeout = 0 then if type = "info" then 3000 else if type = "error" then 5000 else 0
    else timeout

/-- Room state; `RoomStore.java:30–46`. -/
structure RoomStore where
  roomInfo : RoomInfo := {}
  me : Me := {}
  producers : Producers := {}
  peers : Peers := {}
  consumers : Consumers := {}
  dataConsumers : DataConsumers := {}
  notify : Option Notify := none

namespace RoomStore

/-- `RoomStore.java:108–110`. -/
def setCamInProgress (st : RoomStore) (inProgress : Bool) : RoomStore :=
  { st with me := { st.me with mCamInProgress := inProgress } }

/-- `RoomStore.java:112–114`. -/
def addProducer (st : RoomStore) (p : Producer) : RoomStore :=
  { st with producers := st.producers.addProducer p }

/-- `RoomStore.java:124–126`. -/
def removeProducer (st : RoomStore) (producerId : String) : RoomStore :=
  { st with producers := st.producers.removeProducer producerId }

/-- `RoomStore.java:138–140`. -/
def addPeer (st : RoomStore) (peerId : String) (info : PeerInfo) : RoomStore :=
  { st with peers := st.peers.addPeer peerId info }

/-- `RoomStore.java:142–144`. -/
def setPeerDisplayName (st : RoomStore) (peerId : String) (displayName : Option String) :
    RoomStore :=
  { st with peers := st.peers.setPeerDisplayName peerId displayName }

/-- Forget a user that is spoken to or watched, then drop the peer;
`RoomStore.java:146–157`. -/
def removePeer (st : RoomStore) (peerId : String) : RoomStore :=
  let forget (r : Option String) : Option String :=
    if peerId ≠ "" ∧ r = some peerId then none else r
  { st with
    roomInfo :=
      { mActiveSpeakerId := forget st.roomInfo.mActiveSpeakerId
        mStatsPeerId := forget st.roomInfo.mStatsPeerId }
    peers := st.peers.removePeer peerId }

/-- Consumer map first, then the user's index; `RoomStore.java:159–162`. -/
def addConsumer (st : RoomStore) (peerId type : String) (consumer : Consumer)
    (remotelyPaused : Bool) : RoomStore :=
  { st with
    consumers := st.consumers.addConsumer type consumer remotelyPaused
    peers := st.peers.addConsumer peerId consumer.id }

/-- `RoomStore.java:164–167`. -/
def removeConsumer (st : RoomStore) (peerId consumerId : String) : RoomStore :=
  { st with
    consumers := st.consumers.removeConsumer consumerId
    peers := st.peers.removeConsumer peerId consumerId }

/-- `RoomStore.java:186–189`. -/
def addDataConsumer (st : RoomStore) (peerId : String) (d : DataConsumer) : RoomStore :=
  { st with
    dataConsumers := st.dataConsumers.addDataConsumer d
    peers := st.peers.addDataConsumer peerId d.id }

/-- `RoomStore.java:191–194`. -/
def removeDataConsumer (st : RoomStore) (peerId dataConsumerId : String) : RoomStore :=
  { st with
    dataConsumers := st.dataConsumers.removeDataConsumer dataConsumerId
    peers := st.peers.removeDataConsumer peerId dataConsumerId }

/-- `RoomStore.java:204–206`. -/
def addNotify (st : RoomStore) (type text : String) : RoomStore :=
  { st with notify := some (.new type none text 0) }

end RoomStore

end RtcClient.Store
