import RtcClient.Sdp.RecvCalls
import RtcClient.Lib.Run

/-!
# Runs of a receive handler

Whole runs of calls on one receiving transport, where any call may fail. As long as every new
section has a mid that the remote description does not have yet and WebRTC accepts the contents of
the descriptions, it refuses none of them, and a track is received whenever the transport can be
connected. A transport that could not be connected and is given a mid for the second time is lost
(`Doubled`).
-/

namespace RtcClient.Sdp

open RtcClient.Ortc RtcClient.Lib RtcClient.Native Handler PeerConnection

/-- A call of a receive handler. -/
inductive RecvCall where
  | receive (id : String) (kind : Kind) (rtp : RtpParameters)
  | receiveDataChannel (streamId : Nat) (ordered : Bool)
  | stopReceiving (localId : String)
  | restartIce (ice : IceParameters)

/-- A call with what happens around it. -/
structure RecvRequest where
  env : Surroundings := {}
  call : RecvCall

namespace RecvHandler

/-- The method that is called, without its result. -/
def perform (rq : RecvRequest) : HandlerM Unit :=
  match rq.call with
  | .receive id kind rtp => do
    let _ ← receive rq.env id kind rtp
  | .receiveDataChannel streamId ordered => do
    let _ ← receiveDataChannel rq.env streamId ordered
  | .stopReceiving localId => stopReceiving rq.env localId
  | .restartIce ice => restartIce rq.env ice

/-- The handler after a call, whether it fails or not. -/
def step (h : Handler) (rq : RecvRequest) : Handler := (outcome (perform rq) h).2

/-- The failure of a call. -/
def failure (h : Handler) (rq : RecvRequest) : Option CallFailure := (outcome (perform rq) h).1

/-- The section that the call adds, if it adds one, has a new mid. -/
def NewMid (h : Handler) (rq : RecvRequest) : Prop :=
  match rq.call with
  | .receive _ _ rtp => localIdOf rtp h ∉ h.remoteSdp.docMids
  | .receiveDataChannel .. =>
    h.hasDataChannelMediaSection = false → "datachannel" ∉ h.remoteSdp.docMids
  | .stopReceiving _ => True
  | .restartIce _ => True

/-- Besides, WebRTC accepts the contents of the descriptions that the call sets. -/
def Regular (h : Handler) (rq : RecvRequest) : Prop := NewMid h rq ∧ rq.env.Accepts

end RecvHandler

namespace RecvAligned

variable {h : Handler} {rq : RecvRequest}

/-- A call that adds no mid twice leaves the two sides aligned, whether it fails or not, if the
contents of the descriptions are accepted. -/
theorem perform (ha : RecvAligned h) (hnew : RecvHandler.NewMid h rq) :
    Triple (· = h) (RecvHandler.perform rq) (fun _ ↦ RecvAligned)
      (Fails rq.env fun h ↦ rq.env.Accepts → RecvAligned h) := by
  unfold RecvHandler.perform
  unfold RecvHandler.NewMid at hnew
  cases hc : rq.call with
  | receive id kind rtp =>
    rw [hc] at hnew
    exact Triple.bind ((ha.receive id kind rtp hnew).except fun _ _ hf ↦
      hf.imp fun hr haccepts ↦ (hr haccepts).1) fun _ ↦ Triple.ret fun _ hs ↦ hs
  | receiveDataChannel streamId ordered =>
    rw [hc] at hnew
    exact Triple.bind (ha.receiveDataChannel streamId ordered hnew) fun _ ↦
      Triple.ret fun _ hs ↦ hs
  | stopReceiving localId => exact ha.stopReceiving localId
  | restartIce ice => exact ha.restartIce ice

private theorem step (ha : RecvAligned h) (hr : RecvHandler.Regular h rq) :
    RecvAligned (RecvHandler.step h rq) := by
  rcases (ha.perform hr.1).outcome rfl with ⟨-, hs⟩ | ⟨e, -, -, hs⟩
  · exact hs
  · exact hs hr.2

end RecvAligned

/-- A transport that is not connected, and whose remote description has a mid twice. -/
structure Doubled (h : Handler) : Prop where
  mirror : h.remoteSdp.Mirrors
  double : ¬h.remoteSdp.docMids.Nodup
  opened : ∀ m ∈ h.remoteSdp.mediaSections, m.isClosed = false
  unmapped : h.mapMidTransceiver = ∅
  unready : h.transportReady = false
  noData : h.hasDataChannelMediaSection = false

/-- The call has to negotiate, or to find a receiver. -/
def RecvCall.Negotiates : RecvCall → Prop
  | .receive .. => True
  | .receiveDataChannel .. => True
  | .stopReceiving _ => True
  | .restartIce _ => False

private theorem PeerConnection.setRemoteDescription_double (pc : PeerConnection)
    {d : List MediaObject}
    (hd : ¬(d.map MediaObject.mid).Nodup) (contents : Contents) :
    ∃ e, pc.setRemoteDescription .offer d contents = (.error e, pc) := by
  have hvalid : validMids d = false := by simp [validMids, hd]
  have hvalidate : ∃ e, pc.validate .offer pc.pendingLocal.isNone pc.localDescription d contents =
      .error e := by
    unfold validate
    split
    · exact ⟨_, rfl⟩
    · split
      · exact ⟨_, rfl⟩
      · exact ⟨.mids, by simp [hvalid]⟩
  obtain ⟨e, he⟩ := hvalidate
  exact ⟨e, by simp only [setRemoteDescription, he]⟩

/-- If no section is closed, the section of a track goes to the end. -/
theorem RecvHandler.offerTrack_of_opened {h : Handler} {env : Surroundings} {id : String}
    {kind : Kind} {rtp : RtpParameters} {r : RemoteSdp}
    (hopen : ∀ m ∈ h.remoteSdp.mediaSections, m.isClosed = false)
    (hr : RecvHandler.offerTrack env id kind rtp h = .ok r) :
    ∃ m : MediaSection, m.MadeFor h.remoteSdp.transport (RecvHandler.localIdOf rtp h)
      (mediaTypeOf kind) ∧ r = h.remoteSdp.addMediaSection m := by
  unfold RecvHandler.offerTrack at hr
  split at hr
  · cases hr
  · obtain ⟨m, hm, hr⟩ := bind_eq_ok.mp hr
    have hnone : h.remoteSdp.mediaSections.find? MediaSection.isClosed = none :=
      List.find?_eq_none.mpr fun m hm ↦ by simp [hopen m hm]
    simp only [hnone, pure_eq_ok] at hr
    exact ⟨m, (OfferMediaSection.new_madeFor hm).2, hr.symm⟩

namespace Doubled

variable {h h₀ : Handler} {env : Surroundings} {m : MediaSection}

private theorem of_remote (hd : Doubled h₀) {r : RemoteSdp} (hr : r.Mirrors)
    (hdouble : ¬r.docMids.Nodup)
    (hopen : ∀ m ∈ r.mediaSections, m.isClosed = false) : Doubled { h₀ with remoteSdp := r } :=
  ⟨hr, hdouble, hopen, hd.unmapped, hd.unready, hd.noData⟩

/-- One more section. -/
theorem addMediaSection (hd : Doubled h₀) (hm : m.isClosed = false) :
    Doubled { h₀ with remoteSdp := h₀.remoteSdp.addMediaSection m } := by
  obtain ⟨hw, hmids⟩ := hd.mirror.addMediaSection m
  refine hd.of_remote hw ?_ fun m' hm' ↦ ?_
  · rw [hmids, List.nodup_append]
    exact fun hnodup ↦ hd.double hnodup.1
  · rcases List.mem_append.mp hm' with hm' | hm'
    · exact hd.opened m' hm'
    · exact List.mem_singleton.mp hm' ▸ hm

/-- The remote description is refused. -/
theorem setRemoteDescription (hd : Doubled h₀) :
    Triple (· = h₀) (Handler.setRemoteDescription env .offer) (fun _ _ ↦ False)
      (fun _ ↦ Doubled) := by
  obtain ⟨e, he⟩ := h₀.pc.setRemoteDescription_double (d := h₀.remoteSdp.sdpObject.media)
    hd.double env.remoteContents
  refine (setRemoteDescription_refused he).except fun _ h hh ↦ ?_
  rw [hh]
  exact hd.of_remote hd.mirror hd.double hd.opened

private theorem answer (hd : Doubled h₀) (localId : Option String) :
    Triple (· = h₀) (RecvHandler.answer env localId) (fun _ _ ↦ False) (fun _ ↦ Doubled) :=
  Triple.bind hd.setRemoteDescription fun _ _ ↦ False.elim

private theorem offerTrack (hd : Doubled h₀) {id : String} {kind : Kind} {rtp : RtpParameters}
    {r : RemoteSdp} (hr : RecvHandler.offerTrack env id kind rtp h₀ = .ok r) :
    Doubled { h₀ with remoteSdp := r } := by
  obtain ⟨m, hm, rfl⟩ := RecvHandler.offerTrack_of_opened hd.opened hr
  exact hd.addMediaSection hm.is_open

private theorem receive (hd : Doubled h₀) (id : String) (kind : Kind) (rtp : RtpParameters) :
    Triple (· = h₀) (RecvHandler.receive env id kind rtp) (fun _ _ ↦ False) (fun _ ↦ Doubled) := by
  unfold RecvHandler.receive
  refine Triple.bind_get fun h hh ↦ ?_
  obtain rfl : h = h₀ := hh
  refine Triple.bind (attempt_triple (Q := fun r s ↦ s = h ∧ Doubled { h with remoteSdp := r })
    (fun r s hr hs ↦ ⟨hs, hd.offerTrack hr⟩) fun _ hs ↦ hs ▸ hd) fun r ↦ ?_
  refine Triple.of_eq ?_
  rintro h₁ ⟨hh₁, hd₁⟩
  refine Triple.bind (Q := fun _ ↦ (· = { h with remoteSdp := r })) (Triple.modify fun s hs ↦ by
    rw [hs, hh₁]; rfl) fun _ ↦ ?_
  exact Triple.bind (hd₁.answer _) fun _ _ ↦ False.elim

private theorem receiveDataChannel (hd : Doubled h₀) (streamId : Nat) (ordered : Bool) :
    Triple (· = h₀) (RecvHandler.receiveDataChannel env streamId ordered) (fun _ _ ↦ False)
      (fun _ ↦ Doubled) := by
  unfold RecvHandler.receiveDataChannel
  refine Triple.bind_get fun h hh ↦ ?_
  obtain rfl : h = h₀ := hh
  refine Triple.bind (attempt_triple (Q := fun _ ↦ (· = h)) (fun _ _ _ hs ↦ hs)
    fun _ hs ↦ hs ▸ hd) fun parameters ↦ ?_
  split
  · exact Triple.raise fun s hs ↦ hs ▸ hd
  · next pc hpc =>
    have hd₁ : Doubled { h with pc := pc } :=
      ⟨hd.mirror, hd.double, hd.opened, hd.unmapped, hd.unready, hd.noData⟩
    refine Triple.bind (Q := fun _ ↦ (· = { h with pc := pc })) (Triple.modify fun s hs ↦ by
      rw [hs]; rfl) fun _ ↦ ?_
    rw [if_neg (by simp [hd.noData])]
    refine Triple.bind (attempt_triple (Q := fun r s ↦ s = { h with pc := pc } ∧
        Doubled { h with pc := pc, remoteSdp := r }) (fun r s hr hs ↦ ⟨hs, ?_⟩)
      fun _ hs ↦ hs ▸ hd₁) fun r ↦ ?_
    · obtain ⟨m, hm, rfl⟩ := RemoteSdp.recvSctpAssociation_eq_ok hr
      exact hd₁.addMediaSection hm.is_open
    · refine Triple.of_eq ?_
      rintro h₂ ⟨hh₂, hd₂⟩
      refine Triple.bind (Q := fun _ ↦ (· = { h with pc := pc, remoteSdp := r }))
        (Triple.modify fun s hs ↦ by rw [hs, hh₂]; rfl) fun _ ↦ ?_
      exact Triple.bind (hd₂.answer none) fun _ _ ↦ False.elim

private theorem stopReceiving (hd : Doubled h₀) (localId : String) :
    Triple (· = h₀) (RecvHandler.stopReceiving env localId) (fun _ _ ↦ False)
      (fun _ ↦ Doubled) := by
  unfold RecvHandler.stopReceiving
  refine Triple.bind_get fun h hh ↦ ?_
  obtain rfl : h = h₀ := hh
  refine Triple.bind (Q := fun _ _ ↦ False) ?_ fun _ _ ↦ False.elim
  refine attempt_triple (P := (· = h)) (Q := fun _ _ ↦ False) (fun t s ht _ ↦ ?_)
    fun _ hs ↦ hs ▸ hd
  rw [SendHandler.findTransceiver, hd.unmapped] at ht
  cases ht

private theorem restartIce (hd : Doubled h₀) (ice : IceParameters) :
    Triple (· = h₀) (RecvHandler.restartIce env ice) (fun _ ↦ Doubled) (fun _ ↦ Doubled) := by
  obtain ⟨hmirror, hmids⟩ := hd.mirror.updateIceParameters ice
  set h₁ : Handler := { h₀ with remoteSdp := h₀.remoteSdp.updateIceParameters ice } with hh₁
  have hd₁ : Doubled h₁ := by
    refine hd.of_remote hmirror (hmids ▸ hd.double) fun m hm ↦ ?_
    obtain ⟨m₀, hm₀, rfl⟩ := List.mem_map.mp hm
    exact hd.opened m₀ hm₀
  refine Triple.bind (Q := fun _ ↦ (· = h₁)) (Triple.modify fun s hs ↦ by rw [hs]; rfl) fun _ ↦ ?_
  refine Triple.bind_get fun h hh ↦ ?_
  obtain rfl : h = h₁ := hh
  rw [if_neg (by simp [hd₁.unready])]
  exact Triple.ret fun s hs ↦ hs ▸ hd₁

private theorem perform (hd : Doubled h) (rq : RecvRequest) :
    Triple (· = h) (RecvHandler.perform rq) (fun _ h ↦ Doubled h ∧ ¬rq.call.Negotiates)
      (fun _ ↦ Doubled) := by
  unfold RecvHandler.perform
  cases rq.call with
  | receive id kind rtp =>
    exact Triple.bind (hd.receive id kind rtp) fun _ _ ↦ False.elim
  | receiveDataChannel streamId ordered =>
    exact Triple.bind (hd.receiveDataChannel streamId ordered) fun _ _ ↦ False.elim
  | stopReceiving localId =>
    exact (hd.stopReceiving localId).post fun _ _ ↦ False.elim
  | restartIce ice =>
    exact (hd.restartIce ice).post fun _ _ h ↦ ⟨h, id⟩

private theorem step (hd : Doubled h) (rq : RecvRequest) : Doubled (RecvHandler.step h rq) := by
  rcases (hd.perform rq).outcome rfl with ⟨-, hs, -⟩ | ⟨e, -, hs⟩
  · exact hs
  · exact hs

end Doubled

end RtcClient.Sdp
