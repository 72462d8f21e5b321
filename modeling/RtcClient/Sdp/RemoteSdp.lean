import RtcClient.Sdp.MediaSection
import RtcClient.Lib.Recycle
import Mathlib.Data.Finset.Basic

/-!
# The remote description

`Sdp::RemoteSdp` (`deps/libmediasoupclient/src/sdp/RemoteSdp.cpp`) keeps the sections of the
description that stands for the server three times: as objects, as an index from mids to
positions, and as the JSON document that `sdptransform` writes. A closed section is given to
the next sender or receiver; the first section is never closed, since the bundled transport
belongs to it.
-/

namespace RtcClient.Sdp

open RtcClient.Ortc RtcClient.Lib

/-- The document behind the text of the description, without the fields that never change. -/
structure SdpObject where
  media : List MediaObject := []
  bundleMids : String := ""
  icelite : Bool := false
  fingerprint : DtlsFingerprint
  sessionVersion : Nat := 0
  deriving DecidableEq, Repr

/-- `RemoteSdp.hpp:60–75`. -/
structure RemoteSdp where
  transport : TransportParameters
  mediaSections : List MediaSection := []
  midToIndex : Std.ExtTreeMap String Nat := ∅
  firstMid : String := ""
  sdpObject : SdpObject

namespace RemoteSdp

/-- `RemoteSdp.cpp:14–78`. The latest fingerprint is taken; `Device.cpp:136` has checked that there
is one. -/
def new (transport : TransportParameters) : RemoteSdp where
  transport := transport
  sdpObject :=
    { icelite := transport.iceParameters.iceLite.isSome
      fingerprint :=
        transport.dtlsParameters.fingerprints.getLast transport.dtlsParameters.nonempty }

/-- The mids of the sections in their order. -/
def mids (r : RemoteSdp) : List String := r.mediaSections.map MediaSection.getMid

/-- The text of the BUNDLE group: the mids of the sections that are not closed. -/
def bundleText (sections : List MediaSection) : String :=
  sections.foldl (fun mids m ↦
    if m.isClosed then mids
    else if mids.isEmpty then m.getMid else mids ++ " " ++ m.getMid) ""

/-- `RemoteSdp.cpp:351–369`. -/
def regenerateBundleMids (r : RemoteSdp) : RemoteSdp :=
  { r with sdpObject := { r.sdpObject with bundleMids := bundleText r.mediaSections } }

/-- Write the sections one by one over the media of the document. -/
def overwriteMedia (media : List MediaObject) (sections : List MediaSection) : List MediaObject :=
  sections.map MediaSection.mediaObject ++ media.drop sections.length

/-- `RemoteSdp.cpp:90–108`. -/
def updateIceParameters (r : RemoteSdp) (ice : IceParameters) : RemoteSdp :=
  let sections := r.mediaSections.map (·.setIceParameters ice)
  { r with
    transport := { r.transport with iceParameters := ice }
    mediaSections := sections
    sdpObject := { r.sdpObject with
      icelite := r.sdpObject.icelite || ice.iceLite.isSome
      media := overwriteMedia r.sdpObject.media sections } }

/-- `RemoteSdp.cpp:110–128`. -/
def updateDtlsRole (r : RemoteSdp) (role : String) : RemoteSdp :=
  let sections := r.mediaSections.map (·.setDtlsRole role)
  { r with
    transport := { r.transport with dtlsParameters := { r.transport.dtlsParameters with role } }
    mediaSections := sections
    sdpObject := { r.sdpObject with
      icelite := r.sdpObject.icelite || r.transport.iceParameters.iceLite.isSome
      media := overwriteMedia r.sdpObject.media sections } }

/-- Where the next section goes, and the mid of the closed section that it takes the place of
or the empty text; `RemoteSdp.cpp:130–145`. -/
def getNextMediaSectionIdx (r : RemoteSdp) : Nat × String :=
  match r.mediaSections.find? MediaSection.isClosed with
  | some m => (r.mediaSections.findIdx MediaSection.isClosed, m.getMid)
  | none => (r.mediaSections.length, "")

/-- `RemoteSdp.cpp:290–307`. -/
def addMediaSection (r : RemoteSdp) (m : MediaSection) : RemoteSdp :=
  regenerateBundleMids { r with
    firstMid := if r.firstMid.isEmpty then m.getMid else r.firstMid
    mediaSections := r.mediaSections ++ [m]
    midToIndex := r.midToIndex.insert m.getMid r.mediaSections.length
    sdpObject := { r.sdpObject with media := r.sdpObject.media ++ [m.mediaObject] } }

/-- Write the section at a position, with the index that goes with it. -/
def writeSection (r : RemoteSdp) (idx : Nat) (m : MediaSection)
    (midToIndex : Std.ExtTreeMap String Nat) : RemoteSdp :=
  regenerateBundleMids { r with
    mediaSections := r.mediaSections.set idx m
    midToIndex := midToIndex
    sdpObject := { r.sdpObject with media := r.sdpObject.media.set idx m.mediaObject } }

/-- `RemoteSdp.cpp:309–349`. An unknown mid reads as position 0, and a position past the end is
undefined. The branch without a mid to reuse writes the document at its last position. -/
def replaceMediaSection (r : RemoteSdp) (m : MediaSection) (reuseMid : String) :
    Except Failure RemoteSdp :=
  let key := if reuseMid.isEmpty then m.getMid else reuseMid
  let idx := r.midToIndex[key]?.getD 0
  match r.mediaSections[idx]? with
  | none => .error .undefined
  | some old =>
    if reuseMid.isEmpty then
      .ok { r with
        mediaSections := r.mediaSections.set idx m
        midToIndex := r.midToIndex.insert key idx
        sdpObject := { r.sdpObject with
          media := r.sdpObject.media.set (r.mediaSections.length - 1) m.mediaObject } }
    else
      .ok (r.writeSection idx m
        (((r.midToIndex.insert key idx).erase old.getMid).insert m.getMid idx))

/-- `RemoteSdp.cpp:257–276`. -/
def closeMediaSection (r : RemoteSdp) (mid : String) : Except Failure RemoteSdp :=
  let idx := r.midToIndex[mid]?.getD 0
  match r.mediaSections[idx]? with
  | none => .error .undefined
  | some m =>
    .ok (r.writeSection idx (if mid = r.firstMid then m.disable else m.close)
      (r.midToIndex.insert mid idx))

/-- The document that is written, with its version raised; `RemoteSdp.cpp:278–288`. -/
def getSdp (r : RemoteSdp) : SdpObject × RemoteSdp :=
  let sdp := { r.sdpObject with sessionVersion := (r.sdpObject.sessionVersion + 1) % 2 ^ 32 }
  (sdp, { r with sdpObject := sdp })

variable (showFloat : UInt64 → String)

/-- `RemoteSdp.cpp:147–175`. -/
def send (r : RemoteSdp) (offer : MediaObject) (reuseMid : String)
    (offerRtp answerRtp : RtpParameters) (options : Option ProducerCodecOptions) :
    Except Failure (RemoteSdp × RtpParameters) := do
  let (m, offerRtp) ← AnswerMediaSection.new showFloat r.transport offer offerRtp answerRtp options
  if reuseMid.isEmpty then return (r.addMediaSection m, offerRtp)
  else return (← r.replaceMediaSection m reuseMid, offerRtp)

/-- `RemoteSdp.cpp:177–191`. -/
def sendSctpAssociation (r : RemoteSdp) (offer : MediaObject) : Except Failure RemoteSdp := do
  let (m, _) ← AnswerMediaSection.new showFloat r.transport offer {} {} none
  return r.addMediaSection m

/-- `RemoteSdp.cpp:193–208`. -/
def recvSctpAssociation (r : RemoteSdp) : Except Failure RemoteSdp := do
  let m ← OfferMediaSection.new showFloat r.transport r.transport.sctpParameters "datachannel"
    .application {} "" ""
  return r.addMediaSection m

/-- `RemoteSdp.cpp:210–245`. -/
def receive (r : RemoteSdp) (mid : String) (kind : MediaType) (offerRtp : RtpParameters)
    (streamId trackId : String) : Except Failure RemoteSdp := do
  let m ← OfferMediaSection.new showFloat r.transport none mid kind offerRtp streamId trackId
  match r.mediaSections.find? MediaSection.isClosed with
  | some closed => r.replaceMediaSection m closed.getMid
  | none => return r.addMediaSection m

end RemoteSdp

end RtcClient.Sdp
