import RtcClient.Ortc.RtpParameters
import RtcClient.Lib.FieldChecks

/-!
# Validation of the documents from the server and the application

The validators of `ortc.cpp` (`deps/libmediasoupclient/src/ortc.cpp:39–978`): each checks the
members it knows, fills in defaults and throws a type error that names the member. They run
again on documents that have been through them (`Device::Load` validates the capabilities of
the router and `getExtendedRtpCapabilities` does so once more), and all but one then change
nothing.
-/

namespace RtcClient.Ortc

open RtcClient.Lib

/-- Validate the members of an object. -/
def onObject (message : String) (f : Members Json → Except Failure (Members Json)) :
    Json → Except Failure Json
  | .obj m => do return .obj (← f m)
  | _ => .error (.typeError message)

/-- A match of a group of words, letters in any case. -/
def isOneOf (words : List String) : Json → Bool
  | .str s => lower s ∈ words
  | _ => false

section Rtp

/-- `validateRtcpFeedback`; `ortc.cpp:179–196`. -/
def validateRtcpFeedback : Json → Except Failure Json :=
  onObject "fb is not an object" <| runChecks [
    mandatory "type" Json.isString (.typeError "missing fb.type"),
    orDefault "parameter" Json.isString (.str "")]

/-- The media kind of a codec, as its MIME type has it; `ortc.cpp:102–113,350–359`. -/
def codecKind (m : Members Json) : Except Failure String :=
  match m.find? "mimeType" with
  | some (.str s) =>
    match mimeTypeMatch s with
    | some (kind, _) => .ok kind
    | none => .error (.typeError "invalid codec.mimeType")
  | _ => .error (.typeError "missing codec.mimeType")

/-- A codec of audio has a number of channels, and no other codec has;
`ortc.cpp:126–136,370–380`. -/
def channelsCheck (kind : String) : FieldCheck Failure :=
  if kind = "audio" then orDefault "channels" Json.isNumberInteger (.int 1) else erased "channels"

/-- A parameter of a codec; `ortc.cpp:145–159,389–403`. -/
def codecParameter (kv : String × Json) : Except Failure Unit :=
  match kv.2 with
  | .int _ | .unsigned _ => .ok ()
  | .str _ | .float _ | .null =>
    if kv.1 = "apt" then .error (.typeError "invalid codec apt parameter") else .ok ()
  | _ => .error (.typeError "invalid codec parameter")

/-- The checks at the end of both kinds of codecs; `ortc.cpp:122–171,366–415`. -/
def codecChecks (kind : String) : List (FieldCheck Failure) :=
  [mandatory "clockRate" Json.isNumberInteger (.typeError "missing codec.clockRate"),
    channelsCheck kind,
    membersOf "parameters" codecParameter,
    arrayOf "rtcpFeedback" validateRtcpFeedback (.ok (.put (.arr []))) (.ok (.put (.arr [])))]

/-- `validateRtpCodecCapability`; `ortc.cpp:87–172`. -/
def validateRtpCodecCapability : Json → Except Failure Json :=
  onObject "codec is not an object" fun m ↦ do
    let kind ← codecKind m
    runChecks (overridden "kind" kind ::
      whenPresent "preferredPayloadType" Json.isNumberInteger
        (.typeError "invalid codec.preferredPayloadType") :: codecChecks kind) m

/-- `validateRtpHeaderExtension`; `ortc.cpp:203–245`. -/
def validateRtpHeaderExtension : Json → Except Failure Json :=
  onObject "ext is not an object" <| runChecks [
    mandatoryWhere "kind" Json.isString (.typeError "missing ext.kind")
      (fun v ↦ v.toString?.any (· ∈ mediaKinds)) (.typeError "invalid ext.kind"),
    mandatory "uri" Json.isText (.typeError "missing ext.uri"),
    mandatory "preferredId" Json.isNumberInteger (.typeError "missing ext.preferredId"),
    presentOr "preferredEncrypt" Json.isBoolean (.typeError "invalid ext.preferredEncrypt")
      (.bool false),
    presentOr "direction" Json.isString (.typeError "invalid ext.direction") (.str "sendrecv")]

/-- `validateRtpCapabilities`; `ortc.cpp:39–80`. -/
def validateRtpCapabilities : Json → Except Failure Json :=
  onObject "caps is not an object" <| runChecks [
    arrayOf "codecs" validateRtpCodecCapability (.ok (.put (.arr [])))
      (.error (.typeError "caps.codecs is not an array")),
    arrayOf "headerExtensions" validateRtpHeaderExtension (.ok (.put (.arr [])))
      (.error (.typeError "caps.headerExtensions is not an array"))]

/-- `validateRtpCodecParameters`; `ortc.cpp:331–416`. -/
def validateRtpCodecParameters : Json → Except Failure Json :=
  onObject "codec is not an object" fun m ↦ do
    let kind ← codecKind m
    runChecks (mandatory "payloadType" Json.isNumberInteger
      (.typeError "missing codec.payloadType") :: codecChecks kind) m

/-- A parameter of a header extension; `ortc.cpp:457–463`. -/
def headerExtensionParameter (kv : String × Json) : Except Failure Unit :=
  if kv.2.isString || kv.2.isNumber then .ok ()
  else .error (.typeError "invalid header extension parameter")

/-- `validateRtpHeaderExtensionParameters`; `ortc.cpp:423–465`. -/
def validateRtpHeaderExtensionParameters : Json → Except Failure Json :=
  onObject "ext is not an object" <| runChecks [
    mandatory "uri" Json.isText (.typeError "missing ext.uri"),
    mandatory "id" Json.isNumberInteger (.typeError "missing ext.id"),
    presentOr "encrypt" Json.isBoolean (.typeError "invalid ext.encrypt") (.bool false),
    membersOf "parameters" headerExtensionParameter]

/-- The retransmission of an encoding; `ortc.cpp:494–506`. -/
def rtxCheck : FieldCheck Failure where
  key := "rtx"
  check
    | some (.obj m) =>
      if (Members.find? m "ssrc").any Json.isNumberInteger then .ok .keep
      else .error (.typeError "missing encoding.rtx.ssrc")
    | some _ => .error (.typeError "invalid encoding.rtx")
    | none => .ok .keep

/-- `validateRtpEncodingParameters`; `ortc.cpp:472–523`. -/
def validateRtpEncodingParameters : Json → Except Failure Json :=
  onObject "encoding is not an object" <| runChecks [
    whenPresent "ssrc" Json.isNumberInteger (.typeError "invalid encoding.ssrc"),
    whenPresent "rid" Json.isText (.typeError "invalid encoding.rid"),
    rtxCheck,
    orDefault "dtx" Json.isBoolean (.bool false),
    whenPresent "scalabilityMode" Json.isText (.typeError "invalid encoding.scalabilityMode")]

/-- `validateRtcpParameters`; `ortc.cpp:530–547`. -/
def validateRtcpParameters : Json → Except Failure Json :=
  onObject "rtcp is not an object" <| runChecks [
    whenPresent "cname" Json.isString (.typeError "invalid rtcp.cname"),
    orDefault "reducedSize" Json.isBoolean (.bool true)]

/-- `validateRtpParameters`; `ortc.cpp:252–324`. -/
def validateRtpParameters : Json → Except Failure Json :=
  onObject "params is not an object" <| runChecks [
    whenPresent "mid" Json.isText (.typeError "params.mid is not a string"),
    arrayOf "codecs" validateRtpCodecParameters (.error (.typeError "missing params.codecs"))
      (.error (.typeError "missing params.codecs")),
    arrayOf "headerExtensions" validateRtpHeaderExtensionParameters (.ok (.put (.arr [])))
      (.error (.typeError "params.headerExtensions is not an array")),
    arrayOf "encodings" validateRtpEncodingParameters (.ok (.put (.arr [])))
      (.error (.typeError "params.encodings is not an array")),
    objectOf "rtcp" validateRtcpParameters (.ok (.put (.obj [("reducedSize", .bool true)])))
      (.error (.typeError "params.rtcp is not an object"))]

end Rtp

section Sctp

/-- `validateNumSctpStreams`; `ortc.cpp:575–592`. -/
def validateNumSctpStreams : Json → Except Failure Json :=
  onObject "numStreams is not an object" <| runChecks [
    mandatory "OS" Json.isNumberInteger (.typeError "missing numStreams.OS"),
    mandatory "MIS" Json.isNumberInteger (.typeError "missing numStreams.MIS")]

/-- `validateSctpCapabilities`; `ortc.cpp:554–568`. -/
def validateSctpCapabilities : Json → Except Failure Json :=
  onObject "caps is not an object" <| runChecks [
    objectOf "numStreams" validateNumSctpStreams (.error (.typeError "missing caps.numStreams"))
      (.error (.typeError "missing caps.numStreams"))]

/-- `validateSctpParameters`; `ortc.cpp:599–628`. -/
def validateSctpParameters : Json → Except Failure Json :=
  onObject "params is not an object" <| runChecks [
    mandatory "port" Json.isNumberInteger (.typeError "missing params.port"),
    mandatory "OS" Json.isNumberInteger (.typeError "missing params.OS"),
    mandatory "MIS" Json.isNumberInteger (.typeError "missing params.MIS"),
    mandatory "maxMessageSize" Json.isNumberInteger (.typeError "missing params.maxMessageSize")]

/-- The members of a stream that are looked at first; `ortc.cpp:649–671`. -/
def streamChecks : List (FieldCheck Failure) :=
  [mandatory "streamId" Json.isNumberInteger (.typeError "missing params.streamId"),
    orDefault "ordered" Json.isBoolean (.bool true),
    orDefault "maxPacketLifeTime" Json.isNumberInteger (.unsigned 0),
    orDefault "maxRetransmits" Json.isNumberInteger (.unsigned 0)]

/-- A stream has one limit at most, and with a limit it is not ordered; `ortc.cpp:673–696`. The
limits and `ordered` are the members from before they were looked at. -/
def orderLimited (ordered maxPacketLifeTime maxRetransmits : Option Json) (m : Members Json) :
    Except Failure (Members Json) :=
  if maxPacketLifeTime.isSome ∧ maxRetransmits.isSome then
    .error (.typeError "cannot provide both maxPacketLifeTime and maxRetransmits")
  else
    let limited := maxPacketLifeTime.isSome || maxRetransmits.isSome
    match ordered with
    | some (.bool true) =>
      if limited then
        .error (.typeError "cannot be ordered with maxPacketLifeTime or maxRetransmits")
      else .ok m
    | some (.bool false) => .ok m
    | _ => .ok (if limited then m.set "ordered" (.bool false) else m)

/-- `validateSctpStreamParameters`; `ortc.cpp:635–705`. -/
def validateSctpStreamParameters : Json → Except Failure Json :=
  onObject "params is not an object" fun m ↦ do
    let filled ← runChecks streamChecks m
    let filled ← orderLimited (m.find? "ordered") (m.find? "maxPacketLifeTime")
      (m.find? "maxRetransmits") filled
    runChecks [
      orDefault "label" Json.isString (.str ""),
      orDefault "protocol" Json.isString (.str "")] filled

end Sctp

section Transport

/-- `validateIceParameters`; `ortc.cpp:712–740`. -/
def validateIceParameters : Json → Except Failure Json :=
  onObject "params is not an object" <| runChecks [
    mandatory "usernameFragment" Json.isText (.typeError "missing params.usernameFragment"),
    mandatory "password" Json.isText (.typeError "missing params.password"),
    orDefault "iceLite" Json.isBoolean (.bool false)]

/-- `validateIceCandidate`; `ortc.cpp:747–814`. -/
def validateIceCandidate : Json → Except Failure Json :=
  onObject "params is not an object" <| runChecks [
    mandatory "foundation" Json.isText (.typeError "missing params.foundation"),
    mandatory "priority" Json.isNumberUnsigned (.typeError "missing params.priority"),
    mandatory "ip" Json.isText (.typeError "missing params.ip"),
    mandatoryWhere "protocol" Json.isText (.typeError "missing params.protocol")
      (isOneOf ["udp", "tcp"]) (.typeError "invalid params.protocol"),
    mandatory "port" Json.isNumberUnsigned (.typeError "missing params.port"),
    mandatoryWhere "type" Json.isText (.typeError "missing params.type")
      (isOneOf ["host", "srflx", "prflx", "relay"]) (.typeError "invalid params.type")]

/-- `validateIceCandidates`; `ortc.cpp:821–832`. -/
def validateIceCandidates : Json → Except Failure Json
  | .arr l => do return .arr (← l.mapM validateIceCandidate)
  | _ => .error (.typeError "params is not an array")

/-- `validateDtlsFingerprint`; `ortc.cpp:839–862`. -/
def validateDtlsFingerprint : Json → Except Failure Json :=
  onObject "params is not an object" <| runChecks [
    mandatory "algorithm" Json.isText (.typeError "missing params.algorithm"),
    mandatory "value" Json.isText (.typeError "missing params.value")]

/-- `validateDtlsParameters`; `ortc.cpp:869–903`. -/
def validateDtlsParameters : Json → Except Failure Json :=
  onObject "params is not an object" <| runChecks [
    mandatoryWhere "role" Json.isText (.typeError "missing params.role")
      (isOneOf ["auto", "client", "server"]) (.typeError "invalid params.role"),
    nonemptyArrayOf "fingerprints" validateDtlsFingerprint
      (.typeError "missing params.fingerprints")]

end Transport

/-- A codec option; `ortc.cpp:910–977`. -/
def codecOption (name : String) (p : Json → Bool) : FieldCheck Failure :=
  whenPresent name p (.typeError ("invalid params." ++ name))

/-- `validateProducerCodecOptions`; `ortc.cpp:910–977`. -/
def validateProducerCodecOptions : Json → Except Failure Json :=
  onObject "params is not an object" <| runChecks [
    codecOption "opusStereo" Json.isBoolean,
    codecOption "opusFec" Json.isBoolean,
    codecOption "opusDtx" Json.isBoolean,
    codecOption "opusCbr" Json.isBoolean,
    codecOption "opusMaxPlaybackRate" Json.isNumberUnsigned,
    codecOption "opusMaxAverageBitrate" Json.isNumberUnsigned,
    codecOption "opusPtime" Json.isNumberInteger,
    codecOption "videoGoogleStartBitrate" Json.isNumberInteger,
    codecOption "videoGoogleMaxBitrate" Json.isNumberInteger,
    codecOption "videoGoogleMinBitrate" Json.isNumberInteger]

/-- A validator that accepts its own results and does not change them. -/
def Settled (f : Json → Except Failure Json) : Prop := ∀ v w, f v = .ok w → f w = .ok w

section Settled

open FieldCheck

/-- An object is accepted when its members are. -/
theorem onObject_eq_ok {message : String} {f : Members Json → Except Failure (Members Json)}
    {v w : Json} :
    onObject message f v = .ok w ↔ ∃ m m', v = .obj m ∧ f m = .ok m' ∧ w = .obj m' := by
  cases v with
  | obj m =>
    rw [onObject, bind_eq_ok]
    constructor
    · rintro ⟨m', hm, hw⟩
      exact ⟨m, m', rfl, hm, (pure_eq_ok.mp hw).symm⟩
    · rintro ⟨_, m', ⟨⟩, hm, rfl⟩
      exact ⟨m', hm, rfl⟩
  | _ => simp [onObject]

private theorem onObject_settled {message : String}
    {f : Members Json → Except Failure (Members Json)}
    (hf : ∀ m m', f m = .ok m' → f m' = .ok m') : Settled (onObject message f) := by
  intro v w h
  obtain ⟨m, m', rfl, hm, rfl⟩ := onObject_eq_ok.mp h
  exact onObject_eq_ok.mpr ⟨m', m', rfl, hf m m' hm, rfl⟩

private theorem runChecks_settled {message : String} {cs : List (FieldCheck Failure)}
    (hkeys : (cs.map FieldCheck.key).Nodup) (hs : ∀ c ∈ cs, c.Settles) :
    Settled (onObject message (runChecks cs)) :=
  onObject_settled fun _ _ h ↦ runChecks_runChecks hkeys hs h

-- The cases of a fixed list of checks.
private theorem forall_checks_cons {c : FieldCheck Failure} {cs : List (FieldCheck Failure)}
    (hc : c.Settles) (hcs : ∀ d ∈ cs, d.Settles) : ∀ d ∈ c :: cs, d.Settles :=
  List.forall_mem_cons.mpr ⟨hc, hcs⟩

private theorem forall_checks_nil : ∀ d ∈ ([] : List (FieldCheck Failure)), d.Settles := by simp

private theorem validateRtcpFeedback_settled : Settled validateRtcpFeedback := by
  refine runChecks_settled (by decide) ?_
  exact forall_checks_cons (mandatory_settles _ _ _) <|
    forall_checks_cons (orDefault_settles _ _ rfl) forall_checks_nil

private theorem channelsCheck_settles (kind : String) : (channelsCheck kind).Settles := by
  unfold channelsCheck
  split
  · exact orDefault_settles _ _ rfl
  · exact erased_settles _

/-- Both forms of the check are for one member. -/
@[simp] theorem channelsCheck_key (kind : String) : (channelsCheck kind).key = "channels" := by
  unfold channelsCheck
  split <;> rfl

-- An array that is optional.
private theorem optionalArray_settles (key message : String) {f : Json → Except Failure Json}
    (hf : Settled f) :
    (arrayOf key f (.ok (.put (.arr []))) (.error (.typeError message))).Settles :=
  arrayOf_settles key hf (by rintro a ⟨⟩; rfl) (by rintro a ⟨⟩)

private theorem codecChecks_settles (kind : String) : ∀ c ∈ codecChecks kind, c.Settles :=
  forall_checks_cons (mandatory_settles _ _ _) <|
    forall_checks_cons (channelsCheck_settles kind) <|
    forall_checks_cons (membersOf_settles _ _) <|
    forall_checks_cons (arrayOf_settles _ validateRtcpFeedback_settled (by rintro a ⟨⟩; rfl)
      (by rintro a ⟨⟩; rfl)) forall_checks_nil

private theorem codecChecks_keys (kind : String) :
    (codecChecks kind).map FieldCheck.key =
      ["clockRate", "channels", "parameters", "rtcpFeedback"] := by
  simp only [codecChecks, List.map_cons, channelsCheck_key]
  rfl

-- A codec is checked by the kind of its MIME type, which no check changes.
private theorem codec_settled {message : String} {checks : String → List (FieldCheck Failure)}
    (hkeys : ∀ kind, ((checks kind).map FieldCheck.key).Nodup)
    (hmime : ∀ kind, "mimeType" ∉ (checks kind).map FieldCheck.key)
    (hs : ∀ kind, ∀ c ∈ checks kind, c.Settles) :
    Settled (onObject message fun m ↦ do
      let kind ← codecKind m
      runChecks (checks kind) m) := by
  refine onObject_settled fun m m' h ↦ ?_
  obtain ⟨kind, hkind, h⟩ := bind_eq_ok.mp h
  have hfind := find?_runChecks_of_notMem (hmime kind) h
  refine bind_eq_ok.mpr ⟨kind, ?_, runChecks_runChecks (hkeys kind) (hs kind) h⟩
  rw [← hkind, codecKind, codecKind, hfind]

private theorem validateRtpCodecCapability_settled : Settled validateRtpCodecCapability := by
  refine codec_settled ?_ ?_ fun kind ↦ forall_checks_cons (overridden_settles _ kind) <|
    forall_checks_cons (whenPresent_settles _ _ _) (codecChecks_settles kind)
  · intro kind
    simp [overridden, whenPresent, codecChecks_keys]
  · intro kind
    simp [overridden, whenPresent, codecChecks_keys]

private theorem validateRtpCodecParameters_settled : Settled validateRtpCodecParameters := by
  refine codec_settled ?_ ?_ fun kind ↦
    forall_checks_cons (mandatory_settles _ _ _) (codecChecks_settles kind)
  · intro kind
    simp [mandatory, codecChecks_keys]
  · intro kind
    simp [mandatory, codecChecks_keys]

private theorem validateRtpHeaderExtension_settled : Settled validateRtpHeaderExtension := by
  refine runChecks_settled (by decide) ?_
  exact forall_checks_cons (mandatoryWhere_settles _ _ _ _ _) <|
    forall_checks_cons (mandatory_settles _ _ _) <|
    forall_checks_cons (mandatory_settles _ _ _) <|
    forall_checks_cons (presentOr_settles _ _ _ rfl) <|
    forall_checks_cons (presentOr_settles _ _ _ rfl) forall_checks_nil

private theorem validateRtpCapabilities_settled : Settled validateRtpCapabilities := by
  refine runChecks_settled (by decide) ?_
  exact forall_checks_cons (optionalArray_settles _ _ validateRtpCodecCapability_settled) <|
    forall_checks_cons (optionalArray_settles _ _ validateRtpHeaderExtension_settled)
      forall_checks_nil

private theorem validateRtpHeaderExtensionParameters_settled :
    Settled validateRtpHeaderExtensionParameters := by
  refine runChecks_settled (by decide) ?_
  exact forall_checks_cons (mandatory_settles _ _ _) <|
    forall_checks_cons (mandatory_settles _ _ _) <|
    forall_checks_cons (presentOr_settles _ _ _ rfl) <|
    forall_checks_cons (membersOf_settles _ _) forall_checks_nil

private theorem rtxCheck_settles : rtxCheck.Settles := by
  intro v a h
  have hv := h
  simp only [rtxCheck] at h
  split at h
  · split at h
    · cases h
      exact .inl hv
    · cases h
  · cases h
  · cases h
    exact .inl hv

private theorem validateRtpEncodingParameters_settled : Settled validateRtpEncodingParameters := by
  refine runChecks_settled (by decide) ?_
  exact forall_checks_cons (whenPresent_settles _ _ _) <|
    forall_checks_cons (whenPresent_settles _ _ _) <|
    forall_checks_cons rtxCheck_settles <|
    forall_checks_cons (orDefault_settles _ _ rfl) <|
    forall_checks_cons (whenPresent_settles _ _ _) forall_checks_nil

private theorem validateRtcpParameters_settled : Settled validateRtcpParameters := by
  refine runChecks_settled (by decide) ?_
  exact forall_checks_cons (whenPresent_settles _ _ _) <|
    forall_checks_cons (orDefault_settles _ _ rfl) forall_checks_nil

private theorem validateRtpParameters_settled : Settled validateRtpParameters := by
  refine runChecks_settled (by decide) ?_
  refine forall_checks_cons (whenPresent_settles _ _ _) <|
    forall_checks_cons (arrayOf_settles _ validateRtpCodecParameters_settled (by rintro a ⟨⟩)
      (by rintro a ⟨⟩)) <|
    forall_checks_cons (optionalArray_settles _ _ validateRtpHeaderExtensionParameters_settled) <|
    forall_checks_cons (optionalArray_settles _ _ validateRtpEncodingParameters_settled) <|
    forall_checks_cons ?_ forall_checks_nil
  refine objectOf_settles _ [("reducedSize", .bool true)] ?_ rfl (by rintro a ⟨⟩; rfl)
    (by rintro a ⟨⟩)
  intro m w h
  obtain ⟨_, m', -, -, rfl⟩ := onObject_eq_ok.mp h
  exact ⟨m', rfl, validateRtcpParameters_settled _ _ h⟩

private theorem validateNumSctpStreams_settled : Settled validateNumSctpStreams := by
  refine runChecks_settled (by decide) ?_
  exact forall_checks_cons (mandatory_settles _ _ _) <|
    forall_checks_cons (mandatory_settles _ _ _) forall_checks_nil

private theorem validateSctpCapabilities_settled : Settled validateSctpCapabilities := by
  refine runChecks_settled (by decide) (forall_checks_cons ?_ forall_checks_nil)
  refine objectOf_settles _ [("OS", .int 0), ("MIS", .int 0)] ?_ rfl (by rintro a ⟨⟩)
    (by rintro a ⟨⟩)
  intro m w h
  obtain ⟨_, m', -, -, rfl⟩ := onObject_eq_ok.mp h
  exact ⟨m', rfl, validateNumSctpStreams_settled _ _ h⟩

private theorem validateSctpParameters_settled : Settled validateSctpParameters := by
  refine runChecks_settled (by decide) ?_
  exact forall_checks_cons (mandatory_settles _ _ _) <|
    forall_checks_cons (mandatory_settles _ _ _) <|
    forall_checks_cons (mandatory_settles _ _ _) <|
    forall_checks_cons (mandatory_settles _ _ _) forall_checks_nil

private theorem validateIceParameters_settled : Settled validateIceParameters := by
  refine runChecks_settled (by decide) ?_
  exact forall_checks_cons (mandatory_settles _ _ _) <|
    forall_checks_cons (mandatory_settles _ _ _) <|
    forall_checks_cons (orDefault_settles _ _ rfl) forall_checks_nil

private theorem validateIceCandidate_settled : Settled validateIceCandidate := by
  refine runChecks_settled (by decide) ?_
  exact forall_checks_cons (mandatory_settles _ _ _) <|
    forall_checks_cons (mandatory_settles _ _ _) <|
    forall_checks_cons (mandatory_settles _ _ _) <|
    forall_checks_cons (mandatoryWhere_settles _ _ _ _ _) <|
    forall_checks_cons (mandatory_settles _ _ _) <|
    forall_checks_cons (mandatoryWhere_settles _ _ _ _ _) forall_checks_nil

private theorem validateIceCandidates_settled : Settled validateIceCandidates := by
  intro v w h
  cases v with
  | arr l =>
    obtain ⟨l', hl, h⟩ := bind_eq_ok.mp h
    cases h
    exact bind_eq_ok.mpr ⟨l', mapM_of_settled validateIceCandidate_settled hl, rfl⟩
  | _ => cases h

private theorem validateDtlsFingerprint_settled : Settled validateDtlsFingerprint := by
  refine runChecks_settled (by decide) ?_
  exact forall_checks_cons (mandatory_settles _ _ _) <|
    forall_checks_cons (mandatory_settles _ _ _) forall_checks_nil

private theorem validateDtlsParameters_settled : Settled validateDtlsParameters := by
  refine runChecks_settled (by decide) ?_
  exact forall_checks_cons (mandatoryWhere_settles _ _ _ _ _) <|
    forall_checks_cons (nonemptyArrayOf_settles _ _ validateDtlsFingerprint_settled)
      forall_checks_nil

private theorem validateProducerCodecOptions_settled : Settled validateProducerCodecOptions := by
  refine runChecks_settled (by decide) ?_
  simp only [List.forall_mem_cons, codecOption, whenPresent_settles, true_and]
  exact forall_checks_nil

/-- Only the order is written for a limit. -/
theorem orderLimited_eq_ok {ordered maxPacketLifeTime maxRetransmits : Option Json}
    {m m' : Members Json} (h : orderLimited ordered maxPacketLifeTime maxRetransmits m = .ok m') :
    m' = m ∨ m' = m.set "ordered" (.bool false) := by
  unfold orderLimited at h
  split at h
  · cases h
  · dsimp only at h
    split at h
    · split at h
      · cases h
      · cases h
        exact .inl rfl
    · cases h
      exact .inl rfl
    · cases h
      split
      · exact .inr rfl
      · exact .inl rfl

private theorem streamChecks_settles : ∀ c ∈ streamChecks, c.Settles :=
  forall_checks_cons (mandatory_settles _ _ _) <|
    forall_checks_cons (orDefault_settles _ _ rfl) <|
    forall_checks_cons (orDefault_settles _ _ rfl) <|
    forall_checks_cons (orDefault_settles _ _ rfl) forall_checks_nil

/-- The defaults of both limits are in the result, which is why it is refused. -/
theorem validateSctpStreamParameters_twice {v w : Json}
    (h : validateSctpStreamParameters v = .ok w) :
    validateSctpStreamParameters w =
      .error (.typeError "cannot provide both maxPacketLifeTime and maxRetransmits") := by
  obtain ⟨m, m₃, rfl, hm, rfl⟩ := onObject_eq_ok.mp h
  obtain ⟨m₁, h₁, hm⟩ := bind_eq_ok.mp hm
  obtain ⟨m₂, h₂, h₃⟩ := bind_eq_ok.mp hm
  have hfind (c : FieldCheck Failure) (hc : c ∈ streamChecks) :
      m₃.find? c.key = m₂.find? c.key := by
    refine find?_runChecks_of_notMem ?_ h₃
    have hall : ∀ k ∈ streamChecks.map FieldCheck.key, k ∉ ["label", "protocol"] := by decide
    exact hall c.key (List.mem_map_of_mem hc)
  have haccepts (c : FieldCheck Failure) (hc : c ∈ streamChecks) :
      c.Accepts (m₃.find? c.key) := by
    obtain ⟨a, ha, hm₁⟩ := find?_runChecks_of_mem (by decide) hc h₁
    have hm₁' := hm₁ ▸ streamChecks_settles c hc _ a ha
    rw [hfind c hc]
    rcases orderLimited_eq_ok h₂ with rfl | rfl
    · exact hm₁'
    · rw [Members.find?_set]
      split
      · next hkey =>
        have hall : ∀ c ∈ streamChecks, c.key = "ordered" →
            c.check (some (.bool false)) = .ok .keep := by
          simp only [streamChecks, List.forall_mem_cons]
          simp [mandatory, orDefault, Json.isBoolean]
        exact .inl (hall c hc hkey)
      · exact hm₁'
  -- a check that puts a default has a member to accept
  have hlimit (key : String)
      (hc : orDefault key Json.isNumberInteger (.unsigned 0) ∈ streamChecks) :
      (m₃.find? key).isSome := by
    rcases haccepts _ hc with h | ⟨w, hw, -⟩
    · cases hv : m₃.find? key with
      | some v => rfl
      | none => simp [orDefault, hv] at h
    · exact Option.isSome_iff_exists.mpr ⟨w, hw⟩
  have hboth := hlimit "maxPacketLifeTime" (by simp [streamChecks])
  have hboth' := hlimit "maxRetransmits" (by simp [streamChecks])
  simp only [validateSctpStreamParameters, onObject, runChecks_of_accepts haccepts, orderLimited,
    hboth, hboth', and_self, if_true]
  rfl

end Settled

/-- The documents that are validated. -/
inductive Document where
  | rtpCapabilities
  | rtpCodecCapability
  | rtpHeaderExtension
  | rtpParameters
  | rtpCodecParameters
  | rtpHeaderExtensionParameters
  | rtpEncodingParameters
  | rtcpFeedback
  | rtcpParameters
  | sctpCapabilities
  | numSctpStreams
  | sctpParameters
  | sctpStreamParameters
  | iceParameters
  | iceCandidate
  | iceCandidates
  | dtlsFingerprint
  | dtlsParameters
  | producerCodecOptions
  deriving DecidableEq, Repr

/-- The validator of a document. -/
def Document.validate : Document → Json → Except Failure Json
  | rtpCapabilities => validateRtpCapabilities
  | rtpCodecCapability => validateRtpCodecCapability
  | rtpHeaderExtension => validateRtpHeaderExtension
  | rtpParameters => validateRtpParameters
  | rtpCodecParameters => validateRtpCodecParameters
  | rtpHeaderExtensionParameters => validateRtpHeaderExtensionParameters
  | rtpEncodingParameters => validateRtpEncodingParameters
  | rtcpFeedback => validateRtcpFeedback
  | rtcpParameters => validateRtcpParameters
  | sctpCapabilities => validateSctpCapabilities
  | numSctpStreams => validateNumSctpStreams
  | sctpParameters => validateSctpParameters
  | sctpStreamParameters => validateSctpStreamParameters
  | iceParameters => validateIceParameters
  | iceCandidate => validateIceCandidate
  | iceCandidates => validateIceCandidates
  | dtlsFingerprint => validateDtlsFingerprint
  | dtlsParameters => validateDtlsParameters
  | producerCodecOptions => validateProducerCodecOptions

/-- A document that has been validated passes a second time unchanged, whichever it is, except
that the parameters of an SCTP stream are then always refused. -/
theorem validate_twice (d : Document) {v w : Json} (h : d.validate v = .ok w) :
    d.validate w = if d = .sctpStreamParameters then
        .error (.typeError "cannot provide both maxPacketLifeTime and maxRetransmits")
      else .ok w := by
  cases d with
  | rtpCapabilities => exact validateRtpCapabilities_settled _ _ h
  | rtpCodecCapability => exact validateRtpCodecCapability_settled _ _ h
  | rtpHeaderExtension => exact validateRtpHeaderExtension_settled _ _ h
  | rtpParameters => exact validateRtpParameters_settled _ _ h
  | rtpCodecParameters => exact validateRtpCodecParameters_settled _ _ h
  | rtpHeaderExtensionParameters => exact validateRtpHeaderExtensionParameters_settled _ _ h
  | rtpEncodingParameters => exact validateRtpEncodingParameters_settled _ _ h
  | rtcpFeedback => exact validateRtcpFeedback_settled _ _ h
  | rtcpParameters => exact validateRtcpParameters_settled _ _ h
  | sctpCapabilities => exact validateSctpCapabilities_settled _ _ h
  | numSctpStreams => exact validateNumSctpStreams_settled _ _ h
  | sctpParameters => exact validateSctpParameters_settled _ _ h
  | sctpStreamParameters => exact validateSctpStreamParameters_twice h
  | iceParameters => exact validateIceParameters_settled _ _ h
  | iceCandidate => exact validateIceCandidate_settled _ _ h
  | iceCandidates => exact validateIceCandidates_settled _ _ h
  | dtlsFingerprint => exact validateDtlsFingerprint_settled _ _ h
  | dtlsParameters => exact validateDtlsParameters_settled _ _ h
  | producerCodecOptions => exact validateProducerCodecOptions_settled _ _ h

/-- A stream without a lifetime is refused, and a codec without parameters is not. -/
theorem validate_twice_stream_and_codec :
    (Document.validate .sctpStreamParameters (.obj [("streamId", .unsigned 1)]) >>=
        Document.validate .sctpStreamParameters) =
      .error (.typeError "cannot provide both maxPacketLifeTime and maxRetransmits") ∧
    (Document.validate .rtpCodecCapability
        (.obj [("mimeType", .str "video/VP8"), ("clockRate", .unsigned 90000)]) >>=
          Document.validate .rtpCodecCapability) =
      .ok (.obj
        [("kind", .str "video"), ("mimeType", .str "video/VP8"), ("clockRate", .unsigned 90000),
          ("parameters", .obj []), ("rtcpFeedback", .arr [])]) :=
  ⟨validate_twice .sctpStreamParameters (v := .obj [("streamId", .unsigned 1)]) rfl,
    validate_twice .rtpCodecCapability
      (v := .obj [("mimeType", .str "video/VP8"), ("clockRate", .unsigned 90000)]) rfl⟩

end RtcClient.Ortc
