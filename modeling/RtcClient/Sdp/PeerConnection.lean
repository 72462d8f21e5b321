import RtcClient.Sdp.RemoteSdp
import RtcClient.Native.Jni

/-!
# Offers and answers of the bundled WebRTC

The part of `SdpOfferAnswerHandler` that decides which transceiver owns which m= section
(`deps/webrtc/src/pc/sdp_offer_answer.cc`, Unified Plan): how an offer is laid out over the
sections that exist, which of them are recycled, what a description is checked against, and
how applying it associates, stops and removes transceivers. Transports, codecs and tracks are
not followed. What the description factory writes into the section of a transceiver is given
from outside, and so is what WebRTC thinks of the contents of a description (`Contents`).

`libmediasoupclient` adds its transceivers with `AddTransceiver` and never stops one, so that a
transceiver stops only when the remote side rejects its section; `stopping()` and `stopped()`
are one flag here.
-/

namespace RtcClient.Sdp

open RtcClient.Ortc RtcClient.Native.Jni

/-- Why WebRTC refuses a session description: an earlier one could not be applied, it comes in
the wrong signaling state, a mid is missing or double, something in it is not accepted, its m=
lines are not those expected, or it was accepted and could not be applied. -/
inductive DescriptionError where
  | session
  | wrongState
  | mids
  | contents
  | mlineMismatch
  | notApplied
  deriving DecidableEq, Repr

/-- What WebRTC thinks of the contents of a description, apart from its mids and m= lines. It
refuses a text that it cannot parse, a missing fingerprint or ICE credential, bundled sections
without `a=rtcp-mux`, several tracks in one section; it fails to apply bad header extension ids,
codecs, candidates or groups. -/
inductive Contents where
  | accepted
  | refused
  | notApplied
  deriving DecidableEq, Repr

/-- A section that is rejected has port 0. -/
def MediaObject.rejected (m : MediaObject) : Bool := m.port == 0

/-- The fields of an `RtpTransceiver` that offers and answers look at. -/
structure RtpTransceiver where
  ref : Nat
  mediaType : MediaType
  mid : Option String := none
  mlineIndex : Option Nat := none
  direction : Direction
  hasTrack : Bool := false
  stopped : Bool := false
  deriving DecidableEq, Repr

/-- `cricket::MediaDescriptionOptions`, with the transceiver it is for. -/
structure MediaDescriptionOptions where
  type : MediaType
  mid : String
  direction : Direction
  stopped : Bool
  transceiver : Option Nat := none
  deriving DecidableEq, Repr

/-- What the description factory writes into a section of ours. -/
structure LocalMedia where
  protocol : String := "UDP/TLS/RTP/SAVPF"
  ext : List Ext := []
  extmapAllowMixed : Bool := false
  simulcast : Option String := none
  rids : List Rid := []
  ssrcs : List SsrcLine := []
  ssrcGroups : List SsrcGroup := []
  deriving DecidableEq, Repr

/-- State of a peer connection; `sessionError` is set when a description that was accepted
could not be applied, and nothing is offered, answered or set from then on. -/
structure PeerConnection where
  transceivers : List RtpTransceiver := []
  currentLocal : Option (List MediaObject) := none
  pendingLocal : Option (List MediaObject) := none
  currentRemote : Option (List MediaObject) := none
  pendingRemote : Option (List MediaObject) := none
  midGenerator : Nat := 0
  dataMid : Option String := none
  sidAllocator : SctpSidAllocator := {}
  sessionError : Bool := false
  nextRef : Nat := 0

/-- `TransceiverList::FindByMid`. -/
def findByMid (ts : List RtpTransceiver) (mid : String) : Option RtpTransceiver :=
  ts.find? fun t ↦ t.mid == some mid

/-- `TransceiverList::FindByMLineIndex`. -/
def findByMLineIndex (ts : List RtpTransceiver) (i : Nat) : Option RtpTransceiver :=
  ts.find? fun t ↦ t.mlineIndex == some i

/-- Write to one transceiver of the list. -/
def updateTransceiver (ts : List RtpTransceiver) (ref : Nat)
    (f : RtpTransceiver → RtpTransceiver) : List RtpTransceiver :=
  ts.map fun t ↦ if t.ref = ref then f t else t

namespace PeerConnection

/-- `local_description()`: the pending one, or else the current one. -/
def localDescription (pc : PeerConnection) : Option (List MediaObject) :=
  pc.pendingLocal <|> pc.currentLocal

/-- `remote_description()`. -/
def remoteDescription (pc : PeerConnection) : Option (List MediaObject) :=
  pc.pendingRemote <|> pc.currentRemote

/-- Whether a description rejects its section at a position. -/
def rejectedAt (d : Option (List MediaObject)) (i : Nat) : Bool :=
  match d.bind (·[i]?) with
  | some m => m.rejected
  | none => false

/-- `had_been_rejected`; `sdp_offer_answer.cc:3695–3697`. -/
def hadBeenRejected (pc : PeerConnection) (i : Nat) : Bool :=
  rejectedAt pc.currentLocal i || rejectedAt pc.currentRemote i

/-- The sections that exist in either description, the local one first;
`sdp_offer_answer.cc:3672–3703`. -/
def existing (pc : PeerConnection) : List MediaObject :=
  let l := pc.localDescription.getD []
  l ++ (pc.remoteDescription.getD []).drop l.length

/-- `GetMediaDescriptionOptionsForTransceiver`; `sdp_offer_answer.cc:623–684`. -/
def optionsForTransceiver (t : RtpTransceiver) (mid : String) : MediaDescriptionOptions where
  type := t.mediaType
  mid := mid
  direction := t.direction
  stopped := t.stopped
  transceiver := some t.ref

/-- Whether a new transceiver may take the section; `sdp_offer_answer.cc:3708–3729`. -/
def recycleable (pc : PeerConnection) (i : Nat) (c : MediaObject) : Bool :=
  c.type ≠ .application &&
    match findByMid pc.transceivers c.mid with
    | none => true
    | some t => pc.hadBeenRejected i && t.stopped

/-- The options for a section that exists; `sdp_offer_answer.cc:3704–3762`. A section whose
transceiver is gone is offered as rejected. -/
def existingOptions (pc : PeerConnection) (i : Nat) (c : MediaObject) : MediaDescriptionOptions :=
  match c.type with
  | .application =>
    { type := .application, mid := c.mid, direction := .sendrecv,
      stopped := pc.hadBeenRejected i || pc.dataMid != some c.mid }
  | type =>
    match findByMid pc.transceivers c.mid with
    | none => { type := type, mid := c.mid, direction := .inactive, stopped := true }
    | some t =>
      if pc.hadBeenRejected i && t.stopped then
        { type := t.mediaType, mid := c.mid, direction := .inactive, stopped := true }
      else optionsForTransceiver t c.mid

/-- The transceiver of a section that stays gets its position in the offer that is made;
`sdp_offer_answer.cc:3733–3738`. -/
def markMLineIndex (pc : PeerConnection) (ts : List RtpTransceiver) (ci : MediaObject × Nat) :
    List RtpTransceiver :=
  if ci.1.type = .application ∨ pc.recycleable ci.2 ci.1 then ts
  else match findByMid ts ci.1.mid with
    | none => ts
    | some t => updateTransceiver ts t.ref fun t ↦ { t with mlineIndex := some ci.2 }

/-- The transceivers with their positions. -/
def markMLineIndices (pc : PeerConnection) : List RtpTransceiver :=
  pc.existing.zipIdx.foldl pc.markMLineIndex pc.transceivers

/-- The loop over the transceivers while an offer is laid out. -/
structure Offering where
  options : List MediaDescriptionOptions
  recycleable : List Nat
  midGenerator : Nat
  transceivers : List RtpTransceiver := []
  deriving DecidableEq, Repr

/-- A transceiver that has no section yet takes the next recycleable one, or a new one at the
end; `sdp_offer_answer.cc:3764–3790`. -/
def Offering.add (o : Offering) (t : RtpTransceiver) : Offering :=
  if t.mid.isSome || t.stopped then { o with transceivers := o.transceivers ++ [t] }
  else
    let options := optionsForTransceiver t (toString o.midGenerator)
    match o.recycleable with
    | i :: rest =>
      { options := o.options.set i options
        recycleable := rest
        midGenerator := o.midGenerator + 1
        transceivers := o.transceivers ++ [{ t with mlineIndex := some i }] }
    | [] =>
      { options := o.options ++ [options]
        recycleable := []
        midGenerator := o.midGenerator + 1
        transceivers := o.transceivers ++ [{ t with mlineIndex := some o.options.length }] }

/-- `HasDataChannels()`. -/
def hasDataChannels (pc : PeerConnection) : Bool := decide (pc.sidAllocator.usedSids ≠ ∅)

/-- The m= section for the data channels, when there are some and none exists yet;
`sdp_offer_answer.cc:3791–3797`. -/
def Offering.addData (o : Offering) (pc : PeerConnection) : Offering :=
  if pc.dataMid.isNone && pc.hasDataChannels then
    { o with
      options := o.options ++
        [{ type := .application, mid := toString o.midGenerator, direction := .sendrecv,
           stopped := false }]
      midGenerator := o.midGenerator + 1 }
  else o

/-- The offer with the sections that exist; `sdp_offer_answer.cc:3677–3762`. -/
def offerExisting (pc : PeerConnection) : Offering where
  options := pc.existing.mapIdx pc.existingOptions
  recycleable := (pc.existing.zipIdx.filter fun (c, i) ↦ pc.recycleable i c).map Prod.snd
  midGenerator := pc.midGenerator

/-- `GetOptionsForUnifiedPlanOffer`; `sdp_offer_answer.cc:3666–3798`. -/
def getOptionsForOffer (pc : PeerConnection) : Offering :=
  (pc.markMLineIndices.foldl Offering.add pc.offerExisting).addData pc

/-- The section that the factory makes from its options: only a section that sends has
streams. -/
def describeSection (describe : Option Nat → LocalMedia) (o : MediaDescriptionOptions) :
    MediaObject :=
  let m := describe o.transceiver
  let sends := !o.stopped && (o.direction == .sendonly || o.direction == .sendrecv)
  { mid := o.mid
    type := o.type
    protocol := m.protocol
    port := if o.stopped then 0 else 9
    direction := some o.direction
    ext := m.ext
    extmapAllowMixed := m.extmapAllowMixed
    simulcast := if sends then m.simulcast else none
    rids := if sends then m.rids else []
    ssrcs := if sends then m.ssrcs else []
    ssrcGroups := if sends then m.ssrcGroups else [] }

/-- `CreateOffer`: the offer, and the positions it has recorded. -/
def createOffer (describe : Option Nat → LocalMedia) (pc : PeerConnection) :
    List MediaObject × PeerConnection :=
  let o := pc.getOptionsForOffer
  (o.options.map (describeSection describe),
    { pc with midGenerator := o.midGenerator, transceivers := o.transceivers })

/-- `CreateAnswer`: a section answers the one offered with its mid;
`sdp_offer_answer.cc:3868–3925`. -/
def createAnswer (describe : Option Nat → LocalMedia) (pc : PeerConnection) : List MediaObject :=
  (pc.remoteDescription.getD []).map fun c ↦
    describeSection describe <| match c.type with
      | .application =>
        { type := .application, mid := c.mid, direction := .sendrecv,
          stopped := c.rejected || pc.dataMid != some c.mid }
      | type => match findByMid pc.transceivers c.mid with
        | some t => { optionsForTransceiver t c.mid with stopped := t.stopped || c.rejected }
        | none => { type := type, mid := c.mid, direction := .inactive, stopped := true }

/-- `SdpType`, without provisional answers and rollbacks. -/
inductive SdpType where
  | offer
  | answer
  deriving DecidableEq, Repr

/-- `IsMediaSectionBeingRecycled`; `sdp_offer_answer.cc:292–299`. -/
def isBeingRecycled (type : SdpType) (content : MediaObject) (one two : Option MediaObject) :
    Bool :=
  type == .offer && !content.rejected &&
    (one.any MediaObject.rejected || two.any MediaObject.rejected)

/-- `MediaSectionsInSameOrder`; `sdp_offer_answer.cc:310–343`. -/
def inSameOrder (type : SdpType) (current : List MediaObject)
    (secondary : Option (List MediaObject))
    (new : List MediaObject) : Bool :=
  decide (current.length ≤ new.length) &&
    (current.zip new).zipIdx.all fun ((c, n), i) ↦
      isBeingRecycled type n (some c) (secondary.bind (·[i]?)) ||
        (n.mid == c.mid && n.type == c.type)

/-- `ValidateMids`; `sdp_offer_answer.cc:444–457`. -/
def validMids (d : List MediaObject) : Bool :=
  decide (d.map MediaObject.mid).Nodup && d.all fun m ↦ m.mid != ""

/-- `ValidateSessionDescription`: `counterpart` is the offer that an answer belongs to. The tracks
of a section are counted behind the m= lines, the other checks of the contents stand here;
`sdp_offer_answer.cc:3040–3153`. -/
def validate (pc : PeerConnection) (type : SdpType) (expected : Bool)
    (counterpart : Option (List MediaObject)) (d : List MediaObject)
    (contents : Contents := .accepted) : Except DescriptionError Unit :=
  if pc.sessionError then .error .session
  else if !expected then .error .wrongState
  else if !validMids d then .error .mids
  else if contents = .refused then .error .contents
  else
    let ordered := match type with
      | .answer =>
        let offer := counterpart.getD []
        offer.length == d.length && inSameOrder .answer offer none d
      | .offer =>
        match pc.localDescription, pc.remoteDescription with
        | some current, secondary => inSameOrder .offer current secondary d
        | none, some current => inSameOrder .offer current none d
        | none, none => true
    if ordered then .ok () else .error .mlineMismatch

/-- The loop that associates transceivers with the sections of a description, with its success. -/
structure Associating where
  transceivers : List RtpTransceiver
  dataMid : Option String
  nextRef : Nat
  ok : Bool := true

/-- The section of the data channels is the first one, until it is rejected;
`sdp_offer_answer.cc:3213–3224,3410–3433`. -/
def updateDataMid (dataMid : Option String) (c : MediaObject) : Option String :=
  if dataMid.any (· ≠ c.mid) then dataMid else if c.rejected then none else some c.mid

/-- Association with the section at a position of a local description;
`sdp_offer_answer.cc:3176–3233,3241–3344`. -/
def Associating.localStep (a : Associating) (ci : MediaObject × Nat) : Associating :=
  let (c, i) := ci
  if !a.ok then a
  else if c.type = .application then
    { a with dataMid := updateDataMid a.dataMid c }
  else
    match findByMid a.transceivers c.mid <|> findByMLineIndex a.transceivers i with
    | none => { a with ok := c.rejected }
    | some t =>
      if t.mediaType ≠ c.type then { a with ok := c.rejected }
      else { a with transceivers := updateTransceiver a.transceivers t.ref fun t ↦
              { t with mid := some c.mid, mlineIndex := some i } }

/-- Association with the section at a position of a remote description. A section without a
transceiver gets a new one that receives: none of ours can be taken, since `AddTrack` is not
used. -/
def Associating.remoteStep (a : Associating) (ci : MediaObject × Nat) : Associating :=
  let (c, i) := ci
  if !a.ok then a
  else if c.type = .application then
    { a with dataMid := updateDataMid a.dataMid c }
  else
    match findByMid a.transceivers c.mid with
    | none =>
      { a with
        transceivers := a.transceivers ++
          [{ ref := a.nextRef, mediaType := c.type, mid := some c.mid, mlineIndex := some i,
             direction := .recvonly }]
        nextRef := a.nextRef + 1 }
    | some t =>
      if t.mediaType ≠ c.type then { a with ok := c.rejected }
      else { a with transceivers := updateTransceiver a.transceivers t.ref fun t ↦
              { t with mid := some c.mid, mlineIndex := some i } }

/-- The state of the association loop when it starts. -/
def associating (pc : PeerConnection) : Associating :=
  { transceivers := pc.transceivers, dataMid := pc.dataMid, nextRef := pc.nextRef }

/-- The peer connection after the loop. -/
def Associating.store (a : Associating) (pc : PeerConnection) : PeerConnection :=
  { pc with transceivers := a.transceivers, dataMid := a.dataMid, nextRef := a.nextRef }

/-- A section that the remote side rejects stops its transceiver;
`sdp_offer_answer.cc:1762–1769`. -/
def stopRejected (d : List MediaObject) (ts : List RtpTransceiver) : List RtpTransceiver :=
  ts.map fun t ↦
    if (d.find? fun c ↦ t.mid == some c.mid).any MediaObject.rejected then
      { t with stopped := true, direction := .inactive }
    else t

/-- `RemoveStoppedTransceivers`; `sdp_offer_answer.cc:4341–4377`. -/
def removeStopped (pc : PeerConnection) : PeerConnection :=
  { pc with transceivers := pc.transceivers.filter fun t ↦ !t.stopped }

/-- `SetLocalDescription`; `sdp_offer_answer.cc:1266–1360,1880–1972`. -/
def setLocalDescription (pc : PeerConnection) (type : SdpType) (d : List MediaObject)
    (contents : Contents := .accepted) : Except DescriptionError Unit × PeerConnection :=
  let expected := match type with
    | .offer => pc.pendingRemote.isNone
    | .answer => pc.pendingRemote.isSome
  match pc.validate type expected pc.remoteDescription d contents with
  | .error e => (.error e, pc)
  | .ok () =>
    let applied := match type with
      | .answer => { pc with
          currentLocal := some d, pendingLocal := none, currentRemote := pc.pendingRemote,
          pendingRemote := none }
      | .offer => { pc with pendingLocal := some d }
    let a := d.zipIdx.foldl Associating.localStep pc.associating
    if a.ok && contents ≠ .notApplied then
      match type with
      | .answer => (.ok (), (a.store applied).removeStopped)
      | .offer => (.ok (), a.store applied)
    else (.error .notApplied, { a.store applied with sessionError := true })

/-- `SetRemoteDescription`; `sdp_offer_answer.cc:1556–1780,2140–2240`. -/
def setRemoteDescription (pc : PeerConnection) (type : SdpType) (d : List MediaObject)
    (contents : Contents := .accepted) : Except DescriptionError Unit × PeerConnection :=
  let expected := match type with
    | .offer => pc.pendingLocal.isNone
    | .answer => pc.pendingLocal.isSome
  match pc.validate type expected pc.localDescription d contents with
  | .error e => (.error e, pc)
  | .ok () =>
    let applied := match type with
      | .answer => { pc with
          currentRemote := some d, pendingRemote := none, currentLocal := pc.pendingLocal,
          pendingLocal := none }
      | .offer => { pc with pendingRemote := some d }
    let a := d.zipIdx.foldl Associating.remoteStep pc.associating
    if a.ok && contents ≠ .notApplied then
      let pc' := a.store applied
      let stopped := { pc' with transceivers := stopRejected d pc'.transceivers }
      match type with
      | .answer => (.ok (), stopped.removeStopped)
      | .offer => (.ok (), stopped)
    else (.error .notApplied, { a.store applied with sessionError := true })

/-- `AddTransceiver` with a track, to send only. -/
def addTransceiver (pc : PeerConnection) (kind : MediaType) : RtpTransceiver × PeerConnection :=
  let t : RtpTransceiver :=
    { ref := pc.nextRef, mediaType := kind, direction := .sendonly, hasTrack := true }
  (t, { pc with transceivers := pc.transceivers ++ [t], nextRef := pc.nextRef + 1 })

/-- `RtpSender::SetTrack` with a null track. -/
def clearTrack (pc : PeerConnection) (ref : Nat) : PeerConnection :=
  { pc with transceivers :=
    updateTransceiver pc.transceivers ref fun t ↦ { t with hasTrack := false } }

/-- `RemoveTrack`; `peer_connection.cc:844–885`. A sender without a track is left as it is. -/
def removeTrack (pc : PeerConnection) (ref : Nat) : PeerConnection :=
  { pc with transceivers := updateTransceiver pc.transceivers ref fun t ↦
      if !t.hasTrack then t
      else match t.direction with
        | .sendrecv => { t with hasTrack := false, direction := .recvonly }
        | .sendonly => { t with hasTrack := false, direction := .inactive }
        | _ => { t with hasTrack := false } }

/-- `SetDirectionWithError(kInactive)`. -/
def deactivate (pc : PeerConnection) (ref : Nat) : PeerConnection :=
  { pc with transceivers := updateTransceiver pc.transceivers ref fun t ↦
      { t with direction := .inactive } }

/-- `CreateDataChannel` of a negotiated channel with an id;
`data_channel_controller.cc:257–304`. -/
def createDataChannel (pc : PeerConnection) (sid : Nat) : Option PeerConnection :=
  (pc.sidAllocator.reserveSid sid).map fun a ↦ { pc with sidAllocator := a }

end PeerConnection

end RtcClient.Sdp
