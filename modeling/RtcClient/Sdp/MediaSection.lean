import RtcClient.Ortc.Validate

/-!
# The m= sections of the remote description

`libmediasoupclient` writes the description of the server itself. Each m= section is an object
of `sdp/MediaSection.cpp`: an `AnswerMediaSection` answers a section of the local offer, an
`OfferMediaSection` offers what the server is about to send. The attributes that are the same
in every section are left out (`c=`, `a=end-of-candidates`, `a=ice-options`, `a=rtcp-mux`,
`a=rtcp-rsize`, the component of a candidate).
-/

namespace RtcClient.Sdp

open RtcClient.Ortc RtcClient.Lib

/-- The media of an m= line. -/
inductive MediaType where
  | audio
  | video
  | application
  deriving DecidableEq, Repr

/-- `a=sendrecv`, `a=sendonly`, `a=recvonly`, `a=inactive`. -/
inductive Direction where
  | sendrecv
  | sendonly
  | recvonly
  | inactive
  deriving DecidableEq, Repr

/-- ICE parameters of the server. -/
structure IceParameters where
  usernameFragment : String
  password : String
  iceLite : Option Bool := some false
  deriving DecidableEq, Repr

/-- ICE candidate of the server. -/
structure IceCandidate where
  foundation : String
  priority : Nat
  ip : String
  protocol : String
  port : Nat
  type : String
  tcpType : Option String := none
  deriving DecidableEq, Repr

/-- A DTLS fingerprint. -/
structure DtlsFingerprint where
  algorithm : String
  value : String
  deriving DecidableEq, Repr

/-- DTLS parameters. The role is one of three words, with letters in any case; the code looks for
them in small letters. -/
structure DtlsParameters where
  role : String
  fingerprints : List DtlsFingerprint
  nonempty : fingerprints ≠ []
  deriving DecidableEq, Repr

section Json

/-- A fingerprint of a document. -/
def DtlsFingerprint.ofJson : Json → Option DtlsFingerprint
  | .obj m => do
    let algorithm ← (Members.find? m "algorithm").bind Json.toString?
    let value ← (Members.find? m "value").bind Json.toString?
    return ⟨algorithm, value⟩
  | _ => none

/-- The DTLS parameters of a document. -/
def DtlsParameters.ofJson : Json → Option DtlsParameters
  | .obj m => do
    let role ← (Members.find? m "role").bind Json.toString?
    match Members.find? m "fingerprints" with
    | some (.arr l) => do
      let fingerprints ← l.mapM DtlsFingerprint.ofJson
      if h : fingerprints ≠ [] then some ⟨role, fingerprints, h⟩ else none
    | _ => none
  | _ => none

private theorem toString?_of_isText {v : Json} (h : v.isText) : ∃ s, v.toString? = some s := by
  cases v with
  | str s => exact ⟨s, rfl⟩
  | _ => cases h

private theorem ofJson_of_validateDtlsFingerprint {j j' : Json}
    (h : validateDtlsFingerprint j = .ok j') : ∃ f, DtlsFingerprint.ofJson j' = some f := by
  obtain ⟨m, m', rfl, hm, rfl⟩ := onObject_eq_ok.mp h
  obtain ⟨_, ha, hta⟩ := find?_of_mandatory (by decide) (.head _) hm
  obtain ⟨_, hv, htv⟩ := find?_of_mandatory (by decide) (.tail _ (.head _)) hm
  obtain ⟨algorithm, hta⟩ := toString?_of_isText hta
  obtain ⟨value, htv⟩ := toString?_of_isText htv
  exact ⟨⟨algorithm, value⟩, by simp [DtlsFingerprint.ofJson, ha, hta, hv, htv]⟩

private theorem mapM_ofJson {l : List Json} (hne : l ≠ [])
    (h : ∀ j ∈ l, ∃ f, DtlsFingerprint.ofJson j = some f) :
    ∃ fs, l.mapM DtlsFingerprint.ofJson = some fs ∧ fs ≠ [] := by
  induction l with
  | nil => exact absurd rfl hne
  | cons j l ih =>
    obtain ⟨f, hf⟩ := h j (by simp)
    by_cases hl : l = []
    · exact ⟨[f], by simp [hl, hf], by simp⟩
    · obtain ⟨fs, hfs, -⟩ := ih hl fun j hj ↦ h j (by simp [hj])
      exact ⟨f :: fs, by simp [hf, hfs], by simp⟩

/-- What the validator accepts has a fingerprint, so that it can be written as a value of this
type. -/
theorem DtlsParameters.ofJson_of_validate {j j' : Json} (h : validateDtlsParameters j = .ok j') :
    ∃ d, DtlsParameters.ofJson j' = some d := by
  obtain ⟨m, m', rfl, hm, rfl⟩ := onObject_eq_ok.mp h
  obtain ⟨_, hr, htr, -⟩ := find?_of_mandatoryWhere (by decide) (.head _) hm
  obtain ⟨l, hl, hne, hall⟩ := find?_of_nonemptyArrayOf (by decide) (.tail _ (.head _)) hm
  obtain ⟨role, htr⟩ := toString?_of_isText htr
  obtain ⟨fs, hfs, hne⟩ := mapM_ofJson hne fun j hj ↦ by
    obtain ⟨j₀, hj₀⟩ := hall j hj
    exact ofJson_of_validateDtlsFingerprint hj₀
  exact ⟨⟨role, fs, hne⟩, by simp [DtlsParameters.ofJson, hr, htr, hl, hfs, hne]⟩

end Json

/-- SCTP parameters of the server. -/
structure SctpParameters where
  port : Int
  OS : Int
  MIS : Int
  maxMessageSize : Int
  deriving DecidableEq, Repr

/-- `a=rtpmap`. -/
structure Rtp where
  payload : Option Int
  codec : String
  rate : Int
  encoding : Option Nat := none
  deriving DecidableEq, Repr

/-- `a=fmtp`. -/
structure Fmtp where
  payload : Option Int
  config : String
  deriving DecidableEq, Repr

/-- `a=rtcp-fb`. -/
structure RtcpFb where
  payload : Option Int
  type : String
  subtype : String
  deriving DecidableEq, Repr

/-- `a=extmap`. -/
structure Ext where
  uri : String
  value : Int
  deriving DecidableEq, Repr

/-- `a=rid`. -/
structure Rid where
  id : String
  direction : String
  deriving DecidableEq, Repr

/-- `a=ssrc`. -/
structure SsrcLine where
  id : Nat
  attr : String
  value : String
  deriving DecidableEq, Repr

/-- `a=ssrc-group`, the ids as they are written. -/
structure SsrcGroup where
  semantics : String
  ssrcs : String
  deriving DecidableEq, Repr

/-- One m= section of a session description, local or remote; an absent list is empty. -/
structure MediaObject where
  mid : String
  type : MediaType
  protocol : String := ""
  port : Nat := 9
  direction : Option Direction := none
  setup : Option String := none
  iceUfrag : Option String := none
  icePwd : Option String := none
  candidates : List IceCandidate := []
  rtp : List Rtp := []
  fmtp : List Fmtp := []
  rtcpFb : List RtcpFb := []
  payloads : String := ""
  ext : List Ext := []
  extmapAllowMixed : Bool := false
  simulcast : Option String := none
  rids : List Rid := []
  ssrcs : List SsrcLine := []
  ssrcGroups : List SsrcGroup := []
  sctpPort : Option Int := none
  maxMessageSize : Option Int := none
  deriving DecidableEq, Repr

/-- What every section of a transport is made from. -/
structure TransportParameters where
  iceParameters : IceParameters
  iceCandidates : List IceCandidate
  dtlsParameters : DtlsParameters
  sctpParameters : Option SctpParameters
  deriving DecidableEq, Repr

/-- Codec options of a producer; an object without members is as good as none. -/
structure ProducerCodecOptions where
  opusStereo : Option Bool := none
  opusFec : Option Bool := none
  opusDtx : Option Bool := none
  opusCbr : Option Bool := none
  opusMaxPlaybackRate : Option Int := none
  opusMaxAverageBitrate : Option Int := none
  opusPtime : Option Int := none
  videoGoogleStartBitrate : Option Int := none
  videoGoogleMaxBitrate : Option Int := none
  videoGoogleMinBitrate : Option Int := none
  deriving DecidableEq, Repr

/-- A section and which of the two classes it is of. -/
structure MediaSection where
  answers : Bool
  mediaObject : MediaObject
  deriving DecidableEq, Repr

namespace MediaSection

/-- `MediaSection.cpp:54–59`. -/
def getMid (m : MediaSection) : String := m.mediaObject.mid

/-- `MediaSection.cpp:61–66`. -/
def isClosed (m : MediaSection) : Bool := m.mediaObject.port == 0

/-- `MediaSection.cpp:75–81`. -/
def setIceParameters (m : MediaSection) (ice : IceParameters) : MediaSection :=
  { m with mediaObject := { m.mediaObject with
      iceUfrag := some ice.usernameFragment, icePwd := some ice.password } }

/-- `MediaSection.cpp:83–94`. -/
def disable (m : MediaSection) : MediaSection :=
  { m with mediaObject := { m.mediaObject with
      direction := some .inactive, ext := [], ssrcs := [], ssrcGroups := [], simulcast := none,
      rids := [] } }

/-- `MediaSection.cpp:96–109`. -/
def close (m : MediaSection) : MediaSection :=
  { m with mediaObject := { m.mediaObject with
      direction := some .inactive, port := 0, ext := [], ssrcs := [], ssrcGroups := [],
      simulcast := none, rids := [], extmapAllowMixed := false } }

/-- The `a=setup` of a role; any other text leaves the attribute as it is. -/
def setupOfRole (role : String) (old : Option String) : Option String :=
  if role = "client" then some "active"
  else if role = "server" then some "passive"
  else if role = "auto" then some "actpass"
  else old

/-- `MediaSection.cpp:399–409,591–597`. -/
def setDtlsRole (m : MediaSection) (role : String) : MediaSection :=
  { m with mediaObject := { m.mediaObject with
      setup := if m.answers then setupOfRole role m.mediaObject.setup else some "actpass" } }

end MediaSection

section Config

variable (showFloat : UInt64 → String)

/-- A parameter value on an `a=fmtp` line; `null` leaves nothing behind the equals sign. -/
def showValue : ParameterValue → String
  | .null => ""
  | .int n => toString n
  | .float bits => showFloat bits
  | .str s => s

/-- One more member of a configuration; `MediaSection.cpp:273–286`. -/
def appendParameter (config : String) (kv : String × ParameterValue) : String :=
  (if config.isEmpty then config else config ++ ";") ++ kv.1 ++ "=" ++ showValue showFloat kv.2

/-- The configuration of an `a=fmtp` line; `MediaSection.cpp:271–286,476–491`. -/
def writeConfig (parameters : Parameters) : String :=
  parameters.foldl (appendParameter showFloat) ""

/-- The lines of one codec, with the parameters its `a=fmtp` line is written from;
`MediaSection.cpp:151–170,264–304,448–509`. -/
def MediaObject.addCodec (m : MediaObject) (codec : RtpCodecParameters)
    (parameters : Parameters) : MediaObject :=
  let config := writeConfig showFloat parameters
  { m with
    rtp := m.rtp ++ [{
      payload := codec.payloadType
      codec := codecName codec.mimeType
      rate := codec.clockRate
      encoding := match codec.channels.map toUint8 with
        | some channels => if channels > 1 then some channels else none
        | none => none }]
    fmtp := m.fmtp ++ if config.isEmpty then [] else [⟨codec.payloadType, config⟩]
    rtcpFb := m.rtcpFb ++ codec.rtcpFeedback.map fun fb ↦
      ⟨codec.payloadType, fb.type, fb.parameter⟩ }

end Config

/-- Reading an integer with `get<uint32_t>()`. -/
def toUint32 (n : Int) : Int := n % 4294967296

section CodecOptions

/-- A switch of the codec options, written to both sides of the codec. -/
def setFlag (flag : Option Bool) (offerKey answerKey : String)
    (p : Parameters × Parameters) : Parameters × Parameters :=
  match flag with
  | some b =>
    let v := ParameterValue.int (if b then 1 else 0)
    (p.1.set offerKey v, p.2.set answerKey v)
  | none => p

/-- A number of the codec options, written to the answer only. -/
def setRate (rate : Option Int) (answerKey : String)
    (p : Parameters × Parameters) : Parameters × Parameters :=
  match rate with
  | some n => (p.1, p.2.set answerKey (.int (toUint32 n)))
  | none => p

/-- The parameters of a codec in the offer and in the answer after the options;
`MediaSection.cpp:184–261`. -/
def ProducerCodecOptions.apply (o : ProducerCodecOptions) (mimeType : String)
    (p : Parameters × Parameters) : Parameters × Parameters :=
  let mime := lower mimeType
  if mime = "audio/opus" then
    p |> setFlag o.opusStereo "sprop-stereo" "stereo"
      |> setFlag o.opusFec "useinbandfec" "useinbandfec"
      |> setFlag o.opusDtx "usedtx" "usedtx"
      |> setFlag o.opusCbr "cbr" "cbr"
      |> setRate o.opusMaxPlaybackRate "maxplaybackrate"
      |> setRate o.opusMaxAverageBitrate "maxaveragebitrate"
      |> setRate o.opusPtime "ptime"
  else if mime ∈ ["video/vp8", "video/vp9", "video/h264", "video/h265"] then
    p |> setRate o.videoGoogleStartBitrate "x-google-start-bitrate"
      |> setRate o.videoGoogleMaxBitrate "x-google-max-bitrate"
      |> setRate o.videoGoogleMinBitrate "x-google-min-bitrate"
  else p

end CodecOptions

/-- The payload types of an m= line; `MediaSection.cpp:307–319,512–524`. A payload type that is
not a number throws. -/
def writePayloads (codecs : List RtpCodecParameters) : Except Failure String := do
  let payloads ← codecs.mapM fun codec ↦ match codec.payloadType with
    | some n => .ok (toString (toUint8 n))
    | none => .error .json
  return " ".intercalate payloads

/-- `MediaSection.cpp:20–52`, with the m= line of the class that is built. -/
def MediaObject.new (t : TransportParameters) (mid : String) (type : MediaType)
    (protocol : String) : MediaObject where
  mid := mid
  type := type
  protocol := protocol
  port := 7
  iceUfrag := some t.iceParameters.usernameFragment
  icePwd := some t.iceParameters.password
  candidates := t.iceCandidates

section Answer

variable (showFloat : UInt64 → String)

/-- One codec of the answer. With codec options the codec of the offer with the same payload
type is written to as well, and without such a codec a past-the-end iterator is read;
`MediaSection.cpp:149–305`. -/
def answerCodec (options : Option ProducerCodecOptions)
    (s : MediaObject × List RtpCodecParameters) (codec : RtpCodecParameters) :
    Except Failure (MediaObject × List RtpCodecParameters) :=
  match options with
  | none => .ok (s.1.addCodec showFloat codec codec.parameters, s.2)
  | some o =>
    match s.2.findIdx? fun c ↦ c.payloadType == codec.payloadType with
    | none => .error .undefined
    | some i =>
      match s.2[i]? with
      | none => .error .undefined
      | some offerCodec =>
        let p := o.apply codec.mimeType (offerCodec.parameters, codec.parameters)
        .ok (s.1.addCodec showFloat codec p.2, s.2.set i { offerCodec with parameters := p.1 })

/-- The extensions of an answer: one that the offer does not have is not answered. The list of
the offer is read without a check for each of them, and the parser leaves an empty list out;
`MediaSection.cpp:321–341`. -/
def answerExtensions (offer : MediaObject) (exts : List RtpHeaderExtensionParameters) :
    Except Failure (List Ext) :=
  if exts.isEmpty then .ok []
  else if offer.ext.isEmpty then .error .undefined
  else .ok ((exts.filter fun ext ↦ offer.ext.any fun localExt ↦ localExt.uri == ext.uri).map
    fun ext ↦ ⟨ext.uri, ext.id⟩)

/-- The streams of an answer to a simulcast offer, whose own streams are looked for without a
check; `MediaSection.cpp:356–387`. -/
def answerRids (offer : MediaObject) : Except Failure (List Rid) :=
  if offer.simulcast.isNone then .ok []
  else if offer.rids.isEmpty then .error .undefined
  else .ok ((offer.rids.filter fun rid ↦ rid.direction == "send").map fun rid ↦ ⟨rid.id, "recv"⟩)

/-- The section that answers `offer`, and the RTP parameters of the offer, to which the codec
options are written; `MediaSection.cpp:111–397`. -/
def AnswerMediaSection.new (t : TransportParameters) (offer : MediaObject)
    (offerRtp answerRtp : RtpParameters) (options : Option ProducerCodecOptions) :
    Except Failure (MediaSection × RtpParameters) := do
  let base := { MediaObject.new t offer.mid offer.type offer.protocol with
    setup := MediaSection.setupOfRole t.dtlsParameters.role none }
  match offer.type with
  | .application =>
    match t.sctpParameters with
    | none => throw .json
    | some sctp =>
      return (⟨true, { base with
        payloads := "webrtc-datachannel"
        sctpPort := some sctp.port
        maxMessageSize := some sctp.maxMessageSize }⟩, offerRtp)
  | _ =>
    let (m, codecs) ← answerRtp.codecs.foldlM (answerCodec showFloat options)
      ({ base with direction := some .recvonly }, offerRtp.codecs)
    let payloads ← writePayloads answerRtp.codecs
    let ext ← answerExtensions offer answerRtp.headerExtensions
    let rids ← answerRids offer
    return (⟨true, { m with
      payloads := payloads
      ext := ext
      extmapAllowMixed := offer.extmapAllowMixed
      simulcast := offer.simulcast
      rids := rids }⟩, { offerRtp with codecs := codecs })

/-- The `a=ssrc` and `a=ssrc-group` lines of an offered stream; `MediaSection.cpp:551–581`. -/
def MediaObject.addStream (m : MediaObject) (ssrc rtxSsrc : Nat) (cname : Option String)
    (streamId trackId : String) : MediaObject :=
  match cname with
  | none => m
  | some cname =>
    let lines (id : Nat) : List SsrcLine :=
      [⟨id, "cname", cname⟩, ⟨id, "msid", streamId ++ " " ++ trackId⟩]
    if rtxSsrc = 0 then { m with ssrcs := lines ssrc }
    else { m with
      ssrcs := lines ssrc ++ lines rtxSsrc
      ssrcGroups := [⟨"FID", toString ssrc ++ " " ++ toString rtxSsrc⟩] }

/-- `MediaSection.cpp:428–431`. -/
def offerProtocol (sctp : Option SctpParameters) : String :=
  if sctp.isNone then "UDP/TLS/RTP/SAVPF" else "UDP/DTLS/SCTP"

/-- The section that offers a stream of the server, or the data channels;
`MediaSection.cpp:411–589`. `sctp` is null for a stream. -/
def OfferMediaSection.new (t : TransportParameters) (sctp : Option SctpParameters)
    (mid : String) (kind : MediaType) (offerRtp : RtpParameters) (streamId trackId : String) :
    Except Failure MediaSection := do
  let base := { MediaObject.new t mid kind (offerProtocol sctp) with setup := some "actpass" }
  match kind with
  | .application =>
    match sctp with
    | none => throw .json
    | some sctp =>
      return ⟨false, { base with
        payloads := "webrtc-datachannel"
        sctpPort := some sctp.port
        maxMessageSize := some sctp.maxMessageSize }⟩
  | _ =>
    let m := offerRtp.codecs.foldl (fun m codec ↦ m.addCodec showFloat codec codec.parameters)
      { base with direction := some .sendonly }
    let payloads ← writePayloads offerRtp.codecs
    match offerRtp.encodings with
    | [] => throw .undefined
    | encoding :: _ =>
      match encoding.ssrc with
      | none => throw .undefined
      | some ssrc =>
        let described : MediaObject := { m with
          payloads := payloads, ext := offerRtp.headerExtensions.map fun ext ↦ ⟨ext.uri, ext.id⟩ }
        return ⟨false, described.addStream (ssrc % 2 ^ 32) (encoding.rtx.getD 0 % 2 ^ 32)
          offerRtp.rtcp.cname streamId trackId⟩

end Answer

end RtcClient.Sdp
