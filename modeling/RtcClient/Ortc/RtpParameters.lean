import RtcClient.Lib.Members

/-!
# RTP capabilities and parameters

The JSON documents that `ortc.cpp` and `sdp/*.cpp` pass around once they are validated
(`deps/libmediasoupclient/src`), as records: a codec of the capabilities of one side, a codec
that both sides support, and the parameters of one sender or receiver. A field that may be
absent or `null` is an `Option`.
-/

namespace RtcClient.Ortc

open RtcClient.Lib

/-- Value of a codec parameter; a float is given by its bits. -/
inductive ParameterValue where
  | null
  | int (n : Int)
  | float (bits : UInt64)
  | str (s : String)
  deriving DecidableEq, Repr

/-- The `parameters` object of a codec or a header extension. -/
abbrev Parameters := Members ParameterValue

/-- One entry of `rtcpFeedback`. -/
structure RtcpFeedback where
  type : String
  parameter : String
  deriving DecidableEq, Repr

/-- What fails in the native library: a `MediaSoupClientTypeError` or a `MediaSoupClientError`
with its text, an exception of the JSON library or of `std::stoull`, a `bad_optional_access`, or
a read that C++ leaves undefined. -/
inductive Failure where
  | typeError (message : String)
  | error (message : String)
  | json
  | invalidArgument
  | outOfRange
  | badOptionalAccess
  | undefined
  deriving DecidableEq, Repr

/-- `::tolower` over a string. -/
def lower (s : String) : String := String.ofList (s.toList.map Char.toLower)

/-- The two kinds of media in lower case. -/
def mediaKinds : List String := ["audio", "video"]

/-- The match of `^(audio|video)/(.+)`, letters in any case: media kind and subtype as they are
written; `ortc.cpp:91–92,108–113`. A dot does not match a line terminator. -/
def mimeTypeMatch (mimeType : String) : Option (String × String) :=
  match mimeType.toList.splitAt 5 with
  | (kind, '/' :: subtype) =>
    if lower (String.ofList kind) ∈ mediaKinds ∧ subtype ≠ [] ∧ '\n' ∉ subtype ∧ '\r' ∉ subtype then
      some (String.ofList kind, String.ofList subtype)
    else none
  | _ => none

/-- `isRtxCodec`: the match of `^(audio|video)/rtx$`, letters in any case;
`ortc.cpp:1606–1617`. -/
def isRtx (mimeType : String) : Bool := lower mimeType ∈ ["audio/rtx", "video/rtx"]

/-- The subtype of a MIME type; `getCodecName`, `MediaSection.cpp:603–611`. -/
def codecName (mimeType : String) : String :=
  match mimeType.toList.splitAt 5 with
  | (kind, '/' :: subtype) =>
    if lower (String.ofList kind) ∈ mediaKinds then String.ofList subtype else mimeType
  | _ => mimeType

/-- A codec of `RtpParameters`. -/
structure RtpCodecParameters where
  mimeType : String
  payloadType : Option Int
  clockRate : Int
  channels : Option Int := none
  parameters : Parameters := []
  rtcpFeedback : List RtcpFeedback := []
  deriving DecidableEq, Repr

/-- A header extension of `RtpParameters`. -/
structure RtpHeaderExtensionParameters where
  uri : String
  id : Int
  encrypt : Bool := false
  parameters : Parameters := []
  deriving DecidableEq, Repr

/-- An encoding of `RtpParameters`; the fields that `fillJsonRtpEncodingParameters` copies from
WebRTC and nothing reads here are one opaque value. -/
structure RtpEncodingParameters where
  ssrc : Option Nat := none
  rtx : Option Nat := none
  rid : Option String := none
  scalabilityMode : Option String := none
  settings : Option UInt64 := none
  deriving DecidableEq, Repr

/-- The `rtcp` member of `RtpParameters`. -/
structure RtcpParameters where
  cname : Option String := none
  reducedSize : Option Bool := none
  deriving DecidableEq, Repr

/-- Parameters of one RTP sender or receiver. -/
structure RtpParameters where
  mid : Option String := none
  codecs : List RtpCodecParameters := []
  headerExtensions : List RtpHeaderExtensionParameters := []
  encodings : List RtpEncodingParameters := []
  rtcp : RtcpParameters := {}
  deriving DecidableEq, Repr

/-- Reading an integer with `get<uint8_t>()`. -/
def toUint8 (n : Int) : Nat := (n % 256).toNat

end RtcClient.Ortc
