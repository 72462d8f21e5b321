import RtcClient.Sdp.SendRuns
import RtcClient.Sdp.RecvRuns

/-!
# How a transport is connected

A handler asks its listener to connect the transport (`OnConnect`) in the first call that
negotiates, and again in a later one if the listener has thrown
(`deps/libmediasoupclient/src/Handler.cpp`). `Handshake` says what comes of it in any run,
whatever fails: the listener is given one and the same DTLS role until it returns, never again
after that, and nothing is sent or received before.
-/

namespace RtcClient.Sdp

open RtcClient.Ortc RtcClient.Lib RtcClient.Native Handler

/-- The DTLS role of the server. -/
def RemoteSdp.dtlsRole (r : RemoteSdp) : String := r.transport.dtlsParameters.role

section Role

variable {r r' : RemoteSdp} {showFloat : UInt64 → String}

private theorem dtlsRole_replaceMediaSection {m : MediaSection} {reuseMid : String}
    (h : r.replaceMediaSection m reuseMid = .ok r') : r'.dtlsRole = r.dtlsRole := by
  unfold RemoteSdp.replaceMediaSection at h
  dsimp only at h
  split at h
  · cases h
  · split at h
    · rw [← Except.ok.inj h]
      rfl
    · rw [← Except.ok.inj h]
      rfl

private theorem dtlsRole_put {m : MediaSection} {reuseMid : String}
    (h : (if reuseMid.isEmpty then .ok (r.addMediaSection m)
      else r.replaceMediaSection m reuseMid) = .ok r') : r'.dtlsRole = r.dtlsRole := by
  split at h
  · rw [← Except.ok.inj h]
    rfl
  · exact dtlsRole_replaceMediaSection h

private theorem dtlsRole_receive {mid streamId trackId : String} {kind : MediaType}
    {rtp : RtpParameters}
    (h : r.receive showFloat mid kind rtp streamId trackId = .ok r') :
    r'.dtlsRole = r.dtlsRole := by
  obtain ⟨m, -, h⟩ := bind_eq_ok.mp h
  split at h
  · exact dtlsRole_replaceMediaSection h
  · rw [← pure_eq_ok.mp h]
    rfl

private theorem dtlsRole_closeMediaSection {mid : String} (h : r.closeMediaSection mid = .ok r') :
    r'.dtlsRole = r.dtlsRole := by
  unfold RemoteSdp.closeMediaSection at h
  dsimp only at h
  split at h
  · cases h
  · rw [← Except.ok.inj h]
    rfl

end Role

/-- The attempts to connect a transport on which the client has the role `chosen`, or else
`role`: the same for all of them, none after the one that returned, and nothing set up before. -/
structure Handshake (chosen : Option String) (role : String) (h : Handler) : Prop where
  forced : h.forcedLocalDtlsRole = chosen
  attempts : ∃ failed : List (String × Bool), (∀ c ∈ failed, c = (chosen.getD role, false)) ∧
    h.connects = failed ++ if h.transportReady then [(chosen.getD role, true)] else []
  opposite : h.connects ≠ [] → h.remoteSdp.dtlsRole = oppositeRole (chosen.getD role)
  before : h.transportReady = false →
    h.mapMidTransceiver = ∅ ∧ h.hasDataChannelMediaSection = false

/-- A property of the attempts only: it does not see the peer connection, nor more of the remote
description than its role. -/
structure OfAttempts (I : Handler → Prop) : Prop where
  pc : ∀ h pc, I h → I { h with pc := pc }
  remote : ∀ h r, r.dtlsRole = h.remoteSdp.dtlsRole → I h → I { h with remoteSdp := r }
  stream : ∀ h n, I h → I { h with nextSendSctpStreamId := n }

variable {chosen : Option String} {role : String} {I : Handler → Prop} {env : Surroundings}

private theorem ofAttempts_handshake (chosen : Option String) (role : String) :
    OfAttempts (Handshake chosen role) where
  pc _ _ hh := ⟨hh.forced, hh.attempts, hh.opposite, hh.before⟩
  remote _ _ hr hh := ⟨hh.forced, hh.attempts, fun hne ↦ hr.trans (hh.opposite hne), hh.before⟩
  stream _ _ hh := ⟨hh.forced, hh.attempts, hh.opposite, hh.before⟩

/-- The transport is connected. -/
def Connected (chosen : Option String) (role : String) (h : Handler) : Prop :=
  Handshake chosen role h ∧ h.transportReady = true

private theorem ofAttempts_connected (chosen : Option String) (role : String) :
    OfAttempts (Connected chosen role) where
  pc h pc hh := ⟨(ofAttempts_handshake chosen role).pc h pc hh.1, hh.2⟩
  remote h r hr hh := ⟨(ofAttempts_handshake chosen role).remote h r hr hh.1, hh.2⟩
  stream h n hh := ⟨(ofAttempts_handshake chosen role).stream h n hh.1, hh.2⟩

namespace OfAttempts

/-- A program that keeps a property, whether it returns or throws. -/
abbrev Keeps {α : Type} (I : Handler → Prop) (x : HandlerM α) : Prop :=
  Triple I x (fun _ ↦ I) (fun _ ↦ I)

private theorem attempt {α : Type} (x : Except Failure α) : Keeps I (Handler.attempt x) :=
  attempt_triple (fun _ _ _ h ↦ h) fun _ h ↦ h

private theorem createOffer (hI : OfAttempts I) : Keeps I (Handler.createOffer env) := by
  refine Triple.bind_get fun h hh ↦ ?_
  split
  · exact Triple.raise fun s hs ↦ hs ▸ hh
  · exact Triple.bind (Q := fun _ ↦ I) (Triple.modify fun s hs ↦ hI.pc s _ (hs ▸ hh)) fun _ ↦
      Triple.ret fun _ hs ↦ hs

private theorem setLocalDescription (hI : OfAttempts I) (type : PeerConnection.SdpType)
    (d : List MediaObject) : Keeps I (Handler.setLocalDescription env type d) := by
  refine Triple.bind_get fun h hh ↦ ?_
  refine Triple.bind (Q := fun _ ↦ I) (Triple.modify fun s hs ↦ hI.pc s _ (hs ▸ hh)) fun _ ↦ ?_
  exact Triple.lift (fun _ _ _ hs ↦ hs) fun _ _ _ hs ↦ hs

private theorem setRemoteDescription (hI : OfAttempts I) (type : PeerConnection.SdpType) :
    Keeps I (Handler.setRemoteDescription env type) := by
  refine Triple.bind (Q := fun _ ↦ I) (Triple.modify fun s hs ↦ hI.remote s _ rfl hs) fun _ ↦ ?_
  refine Triple.bind_get fun h hh ↦ ?_
  refine Triple.bind (Q := fun _ ↦ I) (Triple.modify fun s hs ↦ hI.pc s _ (hs ▸ hh)) fun _ ↦ ?_
  exact Triple.lift (fun _ _ _ hs ↦ hs) fun _ _ _ hs ↦ hs

/-- A remote description made from the one that is there. -/
theorem setRemote (hI : OfAttempts I) {E : Handler → Prop} (hE : ∀ h, I h → E h) {h : Handler}
    (hh : I h) {x : Except Failure RemoteSdp}
    (hx : ∀ r, x = .ok r → r.dtlsRole = h.remoteSdp.dtlsRole) {α : Type} {f : HandlerM α}
    {Q : α → Handler → Prop} (hf : Triple I f Q (fun _ ↦ E)) :
    Triple (· = h) (do
      let remoteSdp ← Handler.attempt x
      modify (onRemote fun _ ↦ remoteSdp)
      f) Q (fun _ ↦ E) := by
  refine Triple.bind (attempt_triple (Q := fun r s ↦ s = h ∧ r.dtlsRole = h.remoteSdp.dtlsRole)
    (fun r s hr hs ↦ ⟨hs, hx r hr⟩) fun _ hs ↦ hs ▸ hE h hh) fun r ↦ ?_
  refine Triple.bind (Q := fun _ ↦ I) (Triple.modify fun s hs ↦ ?_) fun _ ↦ hf
  obtain ⟨rfl, hr⟩ := hs
  exact hI.remote s r hr hh

end OfAttempts

/-- Once the transport is connected, what is negotiated does not matter. -/
theorem Connected.insert {h : Handler} (hh : Connected chosen role h)
    (localId : String) (ref : Nat) :
    Handshake chosen role
      { h with mapMidTransceiver := h.mapMidTransceiver.insert localId ref } := by
  refine ⟨hh.1.forced, hh.1.attempts, hh.1.opposite, fun hnot ↦ ?_⟩
  have hnot : h.transportReady = false := hnot
  rw [hh.2] at hnot
  cases hnot

private theorem Connected.setData {h : Handler} (hh : Connected chosen role h) :
    Handshake chosen role { h with hasDataChannelMediaSection := true } := by
  refine ⟨hh.1.forced, hh.1.attempts, hh.1.opposite, fun hnot ↦ ?_⟩
  have hnot : h.transportReady = false := hnot
  rw [hh.2] at hnot
  cases hnot

private theorem Connected.weaken {α : Type} {x : HandlerM α}
    (hx : OfAttempts.Keeps (Connected chosen role) x) :
    Triple (Connected chosen role) x (fun _ ↦ Connected chosen role)
      (fun _ ↦ Handshake chosen role) :=
  hx.except fun _ _ h ↦ h.1

/-- One more attempt, with the role that all of them have. -/
theorem Handshake.attempt {h : Handler} (hh : Handshake chosen role h)
    (hready : h.transportReady = false)
    (ok : Bool) : Handshake chosen role { h with
      remoteSdp := h.remoteSdp.updateDtlsRole (oppositeRole (h.forcedLocalDtlsRole.getD role))
      connects := h.connects ++ [(h.forcedLocalDtlsRole.getD role, ok)]
      transportReady := ok } := by
  obtain rfl := hh.forced
  obtain ⟨failed, hfailed, hconnects⟩ := hh.attempts
  rw [hready] at hconnects
  have hbefore := hh.before hready
  refine ⟨rfl, ?_, fun _ ↦ rfl, fun _ ↦ hbefore⟩
  cases ok with
  | true => exact ⟨failed, hfailed, by simp [hconnects]⟩
  | false =>
    refine ⟨failed ++ [(h.forcedLocalDtlsRole.getD role, false)], fun c hc ↦ ?_,
      by simp [hconnects]⟩
    rcases List.mem_append.mp hc with hc | hc
    · exact hfailed c hc
    · exact List.mem_singleton.mp hc

private theorem Handshake.ensureTransport :
    Triple (Handshake chosen role) (Handler.ensureTransport env role)
      (fun _ ↦ Connected chosen role)
      (fun _ ↦ Handshake chosen role) := by
  refine Triple.bind_get fun h hh ↦ ?_
  split
  · next hready => exact Triple.ret fun s hs ↦ hs ▸ ⟨hh, hready⟩
  · next hready =>
    have hready : h.transportReady = false := Bool.eq_false_iff.mpr hready
    have hnext := hh.attempt hready env.connect.isOk
    unfold setupTransport
    refine Triple.bind (Q := fun _ s ↦ s = { h with
        remoteSdp := h.remoteSdp.updateDtlsRole (oppositeRole (h.forcedLocalDtlsRole.getD role)) })
      (Triple.modify fun s hs ↦ by rw [hs]; rfl) fun _ ↦ ?_
    refine Triple.bind (Q := fun _ s ↦ s = { h with
        remoteSdp := h.remoteSdp.updateDtlsRole (oppositeRole (h.forcedLocalDtlsRole.getD role))
        connects := h.connects ++ [(h.forcedLocalDtlsRole.getD role, env.connect.isOk)] })
      (Triple.modify fun s hs ↦ by rw [hs]) fun _ ↦ ?_
    cases hconnect : env.connect with
    | ok u =>
      rw [hconnect] at hnext
      change Triple _ (pure u >>= _) _ _
      rw [pure_bind]
      refine Triple.modify fun s hs ↦ ?_
      rw [hs]
      exact ⟨hnext, rfl⟩
    | error text =>
      rw [hconnect] at hnext
      refine Triple.bind (Q := fun _ _ ↦ False) (Triple.raise fun s hs ↦ ?_) fun _ _ ↦ False.elim
      rw [hs, hready]
      exact hnext

namespace OfAttempts

private theorem renegotiate (hI : OfAttempts I) : Keeps I (SendHandler.renegotiate env) :=
  Triple.bind hI.createOffer fun _ ↦ Triple.bind (hI.setLocalDescription _ _) fun _ ↦
    hI.setRemoteDescription _

private theorem renegotiate_recv (hI : OfAttempts I) : Keeps I (RecvHandler.renegotiate env) :=
  Triple.bind (hI.setRemoteDescription _) fun _ ↦ Triple.bind_get fun _ hh ↦
    (hI.setLocalDescription _ _).pre fun _ hs ↦ hs ▸ hh

end OfAttempts

section Send

variable {p : SendHandler.Parameters} {kind : Kind} {encodings : List RtpEncodingParameters}

private theorem Handshake.offerTrack {codecs : List (Option RtpCodecParameters)} {idx ref : Nat} :
    Triple (Handshake chosen "server") (SendHandler.offerTrack env encodings codecs idx ref)
      (fun _ ↦ Connected chosen "server") (fun _ ↦ Handshake chosen "server") := by
  have hI := ofAttempts_handshake chosen "server"
  have hC := ofAttempts_connected chosen "server"
  unfold SendHandler.offerTrack
  refine Triple.bind hI.createOffer fun offer ↦ ?_
  refine Triple.bind Handshake.ensureTransport fun _ ↦ ?_
  refine Triple.bind (Connected.weaken (OfAttempts.attempt _)) fun mimeType ↦ ?_
  refine Triple.bind (Connected.weaken (OfAttempts.attempt _)) fun offer ↦ ?_
  refine Triple.bind (Connected.weaken (hC.setLocalDescription _ _)) fun _ ↦ ?_
  refine Triple.bind_get fun h hh ↦ ?_
  split
  · exact Triple.raise fun s hs ↦ hs ▸ hh.1
  · exact Triple.ret fun s hs ↦ hs ▸ hh

private theorem Handshake.send {options : Option ProducerCodecOptions} {codec : Option CodecKey} :
    OfAttempts.Keeps (Handshake chosen "server")
      (SendHandler.send env p kind encodings options codec) := by
  have hI := ofAttempts_handshake chosen "server"
  have hC := ofAttempts_connected chosen "server"
  unfold SendHandler.send
  refine Triple.bind (OfAttempts.attempt _) fun codecs ↦ ?_
  refine Triple.bind (OfAttempts.attempt _) fun remoteCodecs ↦ ?_
  refine Triple.bind_get fun h hh ↦ ?_
  refine Triple.pre (P := Handshake chosen "server") ?_ fun s hs ↦ hs ▸ hh
  refine Triple.bind (OfAttempts.attempt _) fun _ ↦ ?_
  refine Triple.bind (Q := fun _ ↦ Handshake chosen "server")
    (Triple.modify fun s hs ↦ hI.pc s _ hs)
    fun _ ↦ ?_
  refine Triple.bind (Q := fun _ ↦ Connected chosen "server")
    (Triple.tryCatch Handshake.offerTrack fun e ↦ ?_) fun res ↦ ?_
  · exact Triple.bind (Q := fun _ ↦ Handshake chosen "server")
      (Triple.modify fun s hs ↦ hI.pc s _ hs)
      fun _ ↦ Triple.raise fun _ hs ↦ hs
  · refine Triple.bind_get fun h₁ hh₁ ↦ ?_
    refine Triple.bind (attempt_triple (Q := fun b s ↦ s = h₁ ∧
        b.1.dtlsRole = h₁.remoteSdp.dtlsRole) (fun b s hb hs ↦ ⟨hs, ?_⟩)
      fun _ hs ↦ hs ▸ hh₁.1) fun b ↦ ?_
    · obtain ⟨offer, m, -, -, hput⟩ := SendHandler.answerTrack_ok hb
      exact dtlsRole_put hput
    · refine Triple.bind (Q := fun _ ↦ Connected chosen "server")
        (Triple.modify fun s hs ↦ ?_) fun _ ↦ ?_
      · obtain ⟨rfl, hr⟩ := hs
        exact hC.remote s _ hr hh₁
      · refine Triple.bind (Connected.weaken (hC.setRemoteDescription .answer)) fun _ ↦ ?_
        refine Triple.bind (Q := fun _ ↦ Handshake chosen "server")
          (Triple.modify fun s hs ↦ ?_) fun _ ↦
          Triple.ret fun _ hs ↦ hs
        exact hs.insert _ _

private theorem Handshake.offerData :
    OfAttempts.Keeps (Handshake chosen "server") (SendHandler.offerData env) := by
  have hI := ofAttempts_handshake chosen "server"
  have hC := ofAttempts_connected chosen "server"
  unfold SendHandler.offerData
  refine Triple.bind hI.createOffer fun offer ↦ ?_
  split
  · exact Triple.raise fun _ hs ↦ hs
  · refine Triple.bind Handshake.ensureTransport fun _ ↦ ?_
    refine Triple.bind (Connected.weaken (hC.setLocalDescription _ _)) fun _ ↦ ?_
    refine Triple.bind_get fun h hh ↦ ?_
    refine hC.setRemote (fun _ h ↦ h.1) hh (fun r hr ↦ ?_) ?_
    · obtain ⟨m, -, rfl⟩ := RemoteSdp.sendSctpAssociation_eq_ok hr
      rfl
    · refine Triple.bind (Connected.weaken (hC.setRemoteDescription .answer)) fun _ ↦ ?_
      exact Triple.modify fun s hs ↦ hs.setData

private theorem Handshake.sendDataChannel {init : SendHandler.DataChannelInit} :
    OfAttempts.Keeps (Handshake chosen "server") (SendHandler.sendDataChannel env init) := by
  have hI := ofAttempts_handshake chosen "server"
  unfold SendHandler.sendDataChannel
  refine Triple.bind_get fun h hh ↦ ?_
  refine Triple.pre (P := Handshake chosen "server") ?_ fun s hs ↦ hs ▸ hh
  refine Triple.bind (OfAttempts.attempt _) fun parameters ↦ ?_
  split
  · exact Triple.raise fun _ hs ↦ hs
  · refine Triple.bind (Q := fun _ ↦ Handshake chosen "server")
      (Triple.modify fun s hs ↦ ?_) fun _ ↦ ?_
    · exact hI.stream _ _ (hI.pc s _ hs)
    · split
      · exact Triple.ret fun _ hs ↦ hs
      · exact Triple.bind Handshake.offerData fun _ ↦ Triple.ret fun _ hs ↦ hs

private theorem Handshake.stopSending {localId : String} :
    OfAttempts.Keeps (Handshake chosen "server") (SendHandler.stopSending env localId) := by
  have hI := ofAttempts_handshake chosen "server"
  unfold SendHandler.stopSending
  refine Triple.bind_get fun h hh ↦ ?_
  refine Triple.bind (attempt_triple (Q := fun _ ↦ (· = h)) (fun _ _ _ hs ↦ hs)
    fun _ hs ↦ hs ▸ hh) fun t ↦ ?_
  have hh₁ :
      Handshake chosen "server" (onPc (fun pc ↦ (pc.clearTrack t.ref).removeTrack t.ref) h) :=
    hI.pc h _ hh
  refine Triple.bind (Q := fun _ ↦ (· = onPc (fun pc ↦ (pc.clearTrack t.ref).removeTrack t.ref) h))
    (Triple.modify fun s hs ↦ by rw [hs]) fun _ ↦ ?_
  split
  · exact Triple.raise fun _ hs ↦ hs ▸ hh₁
  · exact hI.setRemote (fun _ h ↦ h) hh₁ (fun r hr ↦ dtlsRole_closeMediaSection hr) hI.renegotiate

private theorem Handshake.perform (rq : SendRequest) :
    OfAttempts.Keeps (Handshake chosen "server") (SendHandler.perform p rq) := by
  have hI := ofAttempts_handshake chosen "server"
  unfold SendHandler.perform
  cases rq.call with
  | send => exact Triple.bind Handshake.send fun _ ↦ Triple.ret fun _ hs ↦ hs
  | sendDataChannel => exact Triple.bind Handshake.sendDataChannel fun _ ↦ Triple.ret fun _ hs ↦ hs
  | stopSending => exact Handshake.stopSending
  | replaceTrack localId track =>
    refine Triple.bind_get fun h hh ↦ ?_
    refine Triple.pre (P := Handshake chosen "server") ?_ fun s hs ↦ hs ▸ hh
    exact Triple.bind (OfAttempts.attempt _) fun t ↦ Triple.modify fun s hs ↦ hI.pc s _ hs
  | restartIce ice =>
    refine Triple.bind (Q := fun _ ↦ Handshake chosen "server") (Triple.modify fun s hs ↦
      hI.remote s _ rfl hs) fun _ ↦ ?_
    refine Triple.bind_get fun h hh ↦ ?_
    refine Triple.pre (P := Handshake chosen "server") ?_ fun s hs ↦ hs ▸ hh
    split
    · exact hI.renegotiate
    · exact Triple.ret fun _ hs ↦ hs

end Send

section Receive

private theorem Handshake.answer {localId : Option String} :
    Triple (Handshake chosen "client") (RecvHandler.answer env localId)
      (fun _ ↦ Connected chosen "client")
      (fun _ ↦ Handshake chosen "client") := by
  have hI := ofAttempts_handshake chosen "client"
  have hC := ofAttempts_connected chosen "client"
  unfold RecvHandler.answer
  refine Triple.bind (hI.setRemoteDescription _) fun _ ↦ ?_
  refine Triple.bind_get fun h hh ↦ ?_
  refine Triple.pre (P := Handshake chosen "client") ?_ fun s hs ↦ hs ▸ hh
  refine Triple.bind (OfAttempts.attempt _) fun _ ↦ ?_
  exact Triple.bind Handshake.ensureTransport fun _ ↦ Connected.weaken (hC.setLocalDescription _ _)

private theorem Handshake.receive {id : String} {kind : Kind} {rtp : RtpParameters} :
    OfAttempts.Keeps (Handshake chosen "client") (RecvHandler.receive env id kind rtp) := by
  have hI := ofAttempts_handshake chosen "client"
  unfold RecvHandler.receive
  refine Triple.bind_get fun h hh ↦ ?_
  refine hI.setRemote (fun _ h ↦ h) hh (fun r hr ↦ ?_) ?_
  · unfold RecvHandler.offerTrack at hr
    split at hr
    · cases hr
    · exact dtlsRole_receive hr
  · refine Triple.bind Handshake.answer fun _ ↦ ?_
    refine Triple.bind_get fun h₁ hh₁ ↦ ?_
    split
    · exact Triple.raise fun s hs ↦ hs ▸ hh₁.1
    · refine Triple.bind (Q := fun _ ↦ Handshake chosen "client")
        (Triple.modify fun s hs ↦ ?_) fun _ ↦
        Triple.ret fun _ hs ↦ hs
      obtain rfl : s = h₁ := hs
      exact hh₁.insert _ _

private theorem Handshake.receiveDataChannel {streamId : Nat} {ordered : Bool} :
    OfAttempts.Keeps (Handshake chosen "client")
      (RecvHandler.receiveDataChannel env streamId ordered) := by
  have hI := ofAttempts_handshake chosen "client"
  unfold RecvHandler.receiveDataChannel
  refine Triple.bind_get fun h hh ↦ ?_
  refine Triple.bind (attempt_triple (Q := fun _ ↦ (· = h)) (fun _ _ _ hs ↦ hs)
    fun _ hs ↦ hs ▸ hh) fun parameters ↦ ?_
  split
  · exact Triple.raise fun _ hs ↦ hs ▸ hh
  · next pc _ =>
    have hh₁ : Handshake chosen "client" { h with pc := pc } := hI.pc h pc hh
    refine Triple.bind (Q := fun _ ↦ (· = { h with pc := pc })) (Triple.modify fun s hs ↦ by
      rw [hs]; rfl) fun _ ↦ ?_
    split
    · exact Triple.ret fun _ hs ↦ hs ▸ hh₁
    · refine hI.setRemote (fun _ h ↦ h) hh₁ (fun r hr ↦ ?_) ?_
      · obtain ⟨m, -, rfl⟩ := RemoteSdp.recvSctpAssociation_eq_ok hr
        rfl
      · refine Triple.bind Handshake.answer fun _ ↦ ?_
        exact Triple.bind (Q := fun _ ↦ Handshake chosen "client")
          (Triple.modify fun s hs ↦ hs.setData)
          fun _ ↦ Triple.ret fun _ hs ↦ hs

private theorem Handshake.perform_recv (rq : RecvRequest) :
    OfAttempts.Keeps (Handshake chosen "client") (RecvHandler.perform rq) := by
  have hI := ofAttempts_handshake chosen "client"
  unfold RecvHandler.perform
  cases rq.call with
  | receive => exact Triple.bind Handshake.receive fun _ ↦ Triple.ret fun _ hs ↦ hs
  | receiveDataChannel =>
    exact Triple.bind Handshake.receiveDataChannel fun _ ↦ Triple.ret fun _ hs ↦ hs
  | stopReceiving localId =>
    refine Triple.bind_get fun h hh ↦ ?_
    refine Triple.bind (attempt_triple (Q := fun _ ↦ (· = h)) (fun _ _ _ hs ↦ hs)
      fun _ hs ↦ hs ▸ hh) fun t ↦ ?_
    split
    · exact Triple.raise fun _ hs ↦ hs ▸ hh
    · exact hI.setRemote (fun _ h ↦ h) hh (fun r hr ↦ dtlsRole_closeMediaSection hr)
        hI.renegotiate_recv
  | restartIce ice =>
    refine Triple.bind (Q := fun _ ↦ Handshake chosen "client") (Triple.modify fun s hs ↦
      hI.remote s _ rfl hs) fun _ ↦ ?_
    refine Triple.bind_get fun h hh ↦ ?_
    refine Triple.pre (P := Handshake chosen "client") ?_ fun s hs ↦ hs ▸ hh
    split
    · exact hI.renegotiate_recv
    · exact Triple.ret fun _ hs ↦ hs

end Receive

private theorem handshake_new (role : String) (t : TransportParameters) :
    Handshake (Handler.new t).forcedLocalDtlsRole role (Handler.new t) :=
  ⟨rfl, ⟨[], by simp, rfl⟩, fun hne ↦ absurd rfl hne, fun _ ↦ ⟨rfl, rfl⟩⟩

/-- In every run on a new transport, whichever calls fail: the listener is asked to connect with
one and the same role, server for a sending transport and client for a receiving one unless the
server has chosen; not again once it has returned; the remote description then has the other
role; and before that no track and no data channel has been set up. -/
theorem transport_connects_once (t : TransportParameters) :
    (∀ (p : SendHandler.Parameters) (rqs : List SendRequest),
      Handshake (Handler.new t).forcedLocalDtlsRole "server"
        (run (SendHandler.step p) (Handler.new t) rqs)) ∧
    ∀ rqs : List RecvRequest, Handshake (Handler.new t).forcedLocalDtlsRole "client"
      (run RecvHandler.step (Handler.new t) rqs) := by
  constructor
  · intro p rqs
    refine run_invariant _ (handshake_new _ t) (fun h rq hh ↦ ?_) rqs
    rcases (Handshake.perform (p := p) rq).outcome hh with ⟨-, hs⟩ | ⟨e, -, hs⟩
    · exact hs
    · exact hs
  · intro rqs
    refine run_invariant _ (handshake_new _ t) (fun h rq hh ↦ ?_) rqs
    rcases (Handshake.perform_recv rq).outcome hh with ⟨-, hs⟩ | ⟨e, -, hs⟩
    · exact hs
    · exact hs

end RtcClient.Sdp
