import RtcClient.Ortc.RtpParameters

/-!
# The codecs a sender offers

`ortc::reduceCodecs` (`deps/libmediasoupclient/src/ortc.cpp:1564–1599`) picks one media codec,
and the retransmission codec behind it, from the codecs that both sides support: the first
one, or the one that the application asks for.
-/

namespace RtcClient.Ortc

/-- What `matchCodecs` compares when it is not strict; `ortc.cpp:1619–1646`. -/
structure CodecKey where
  mimeType : String
  clockRate : Int
  channels : Option Int := none
  deriving DecidableEq, Repr

/-- The key of a codec. -/
def RtpCodecParameters.key (c : RtpCodecParameters) : CodecKey :=
  ⟨c.mimeType, c.clockRate, c.channels⟩

/-- `ortc.cpp:1623–1646`. -/
def CodecKey.matches (a b : CodecKey) : Bool :=
  lower a.mimeType == lower b.mimeType && a.clockRate == b.clockRate && a.channels == b.channels

/-- The retransmission codec behind a position; reading the type of an element past the end, which
is null, throws. -/
def rtxBehind (codecs : List RtpCodecParameters) (idx : Nat) :
    Except Failure (List (Option RtpCodecParameters)) :=
  match codecs[idx + 1]? with
  | none => .error .json
  | some rtx => .ok (if isRtx rtx.mimeType then [some rtx] else [])

/-- `ortc.cpp:1564–1599`. An array element that is null is `none`: without a codec to ask for,
the first element of an empty array is taken. -/
def reduceCodecs (codecs : List RtpCodecParameters) (capCodec : Option CodecKey) :
    Except Failure (List (Option RtpCodecParameters)) :=
  match capCodec with
  | none =>
    match codecs with
    | [] => .ok [none]
    | first :: rest =>
      .ok (some first :: match rest with
        | rtx :: _ => if isRtx rtx.mimeType then [some rtx] else []
        | [] => [])
  | some cap =>
    match codecs.findIdx? fun c ↦ c.key.matches cap with
    | none => .error (.typeError "no matching codec found")
    | some idx => do
      let rtx ← rtxBehind codecs idx
      return codecs[idx]? :: rtx

end RtcClient.Ortc
