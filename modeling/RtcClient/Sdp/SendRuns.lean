import RtcClient.Sdp.SendCalls
import RtcClient.Lib.Run

/-!
# Runs of a send handler

Whole runs of calls on one sending transport. While no call is interrupted half-way, WebRTC
refuses a description only for its contents. A `Send` that gives up after it has added its
transceiver leaves one behind that the remote description does not know (`Stray`): from then on
every `Send` and every `StopSending` on this transport fails, whatever is tried.
-/

namespace RtcClient.Sdp

open RtcClient.Ortc RtcClient.Lib RtcClient.Native Handler PeerConnection

/-- A call of a send handler. -/
inductive SendCall where
  | send (kind : Kind) (encodings : List RtpEncodingParameters)
      (options : Option ProducerCodecOptions) (codec : Option CodecKey)
  | sendDataChannel (init : SendHandler.DataChannelInit)
  | stopSending (localId : String)
  | replaceTrack (localId : String) (track : Bool)
  | restartIce (ice : IceParameters)

/-- The call has to negotiate when it is made in this state. -/
def SendCall.Negotiates (c : SendCall) (h : Handler) : Prop :=
  match c with
  | .send .. => True
  | .stopSending _ => True
  | .sendDataChannel _ => h.hasDataChannelMediaSection = false
  | .restartIce _ => h.transportReady = true
  | .replaceTrack .. => False

/-- A call with what happens around it. -/
structure SendRequest where
  env : Surroundings := {}
  call : SendCall

namespace SendHandler

/-- The method that is called, without its result. -/
def perform (p : Parameters) (rq : SendRequest) : HandlerM Unit :=
  match rq.call with
  | .send kind encodings options codec => do
    let _ ← send rq.env p kind encodings options codec
  | .sendDataChannel init => do
    let _ ← sendDataChannel rq.env init
  | .stopSending localId => stopSending rq.env localId
  | .replaceTrack localId track => replaceTrack localId track
  | .restartIce ice => restartIce rq.env ice

/-- The handler after a call, whether it fails or not. -/
def step (p : Parameters) (h : Handler) (rq : SendRequest) : Handler := (outcome (perform p rq) h).2

/-- The failure of a call. -/
def failure (p : Parameters) (h : Handler) (rq : SendRequest) : Option CallFailure :=
  (outcome (perform p rq) h).1

/-- A call that fails leaves the handler as it was. -/
def Undisturbed (p : Parameters) (h : Handler) (rq : SendRequest) : Prop :=
  failure p h rq ≠ none → step p h rq = h

end SendHandler

namespace Aligned

open SendHandler

variable {p : SendHandler.Parameters} {h : Handler} {rq : SendRequest}

/-- A call that returns leaves the two sides aligned. -/
theorem perform (ha : Aligned h) (p : SendHandler.Parameters) (rq : SendRequest) :
    Triple (· = h) (SendHandler.perform p rq) (fun _ ↦ Aligned) (Fails rq.env fun _ ↦ True) := by
  unfold SendHandler.perform
  cases rq.call with
  | send kind encodings options codec =>
    exact Triple.bind (ha.send.except fun _ _ hf ↦ hf.imp fun _ ↦ trivial) fun _ ↦
      Triple.ret fun _ hs ↦ hs
  | sendDataChannel init =>
    exact Triple.bind (ha.sendDataChannel init) fun _ ↦ Triple.ret fun _ hs ↦ hs
  | stopSending localId => exact ha.stopSending localId
  | replaceTrack localId track => exact ha.replaceTrack localId track
  | restartIce ice => exact ha.restartIce ice

/-- The step lemma of a run in which every failing call leaves the handler as it was. -/
theorem step (ha : Aligned h) (hu : Undisturbed p h rq) : Aligned (SendHandler.step p h rq) := by
  rcases (ha.perform p rq).outcome rfl with ⟨-, hs⟩ | ⟨e, he, -⟩
  · exact hs
  · rw [hu (by rw [SendHandler.failure, he]; simp)]
    exact ha

end Aligned

namespace Stray

open SendHandler

variable {h h₀ : Handler} {env : Surroundings} {pc : PeerConnection} {d : List MediaObject}

/-- The transceivers, with what they have in an offer of `pc`. -/
theorem of_core (hs : Stray h₀) (hw : h.pc.WF) (hr : h.remoteSdp.Mirrors)
    (hmids : h.remoteSdp.docMids = h₀.remoteSdp.docMids)
    (hcore : h.pc.transceivers.map RtpTransceiver.core = h₀.pc.transceivers.map RtpTransceiver.core)
    (hgen : h₀.pc.midGenerator ≤ h.pc.midGenerator) : Stray h := by
  refine ⟨hw, hr, ?_, ?_⟩
  · intro mid hmid
    obtain ⟨k, hlt, hk⟩ := hs.generated mid (hmids ▸ hmid)
    exact ⟨k, by omega, hk⟩
  · obtain ⟨t, ht, hstray⟩ := hs.stray
    obtain ⟨t', ht', he⟩ := List.mem_map.mp (hcore ▸ List.mem_map_of_mem ht)
    simp only [RtpTransceiver.core, Prod.mk.injEq] at he
    refine ⟨t', ht', fun mid hm ↦ ?_⟩
    have hdoc := hstray mid (he.2.2.1.symm.trans hm)
    exact fun hmem ↦ hdoc (hmids ▸ hmem)

private theorem mirrors_connecting (hm : h₀.remoteSdp.Mirrors) (hc : Connecting h₀ h) :
    h.remoteSdp.Mirrors ∧ h.remoteSdp.docMids = h₀.remoteSdp.docMids := by
  rcases hc.remote with hr | ⟨role, -, hr⟩
  · rw [hr]
    exact ⟨hm, rfl⟩
  · rw [hr]
    exact hm.updateDtlsRole role

private theorem connecting (hs : Stray h₀) (hc : Connecting h₀ h) : Stray h := by
  have hpc := hc.pc
  obtain ⟨hmirror, hmids⟩ := mirrors_connecting hs.mirror hc
  exact hs.of_core (hpc ▸ hs.pc) hmirror hmids (hpc ▸ rfl) (hpc ▸ le_rfl)

private theorem offering (hs : Stray h₀) : Stray { h₀ with pc := h₀.pc.offering } :=
  hs.of_core hs.pc.offering hs.mirror rfl hs.pc.offering_core hs.pc.laid.later

/-- An offer gives the transceiver a mid that is not in the remote description. -/
theorem withOffer_stray (hs : Stray h₀) (hd : h₀.pc.Offered d) {t : RtpTransceiver}
    (ht : t ∈ h₀.pc.transceivers)
    (hstray : ∀ mid, t.mid = some mid → mid ∉ h₀.remoteSdp.docMids) :
    ∃ t' ∈ (h₀.pc.withOffer d).transceivers, t'.ref = t.ref ∧
      ∃ mid, t'.mid = some mid ∧ mid ∉ h₀.remoteSdp.docMids := by
  obtain ⟨t', ht', hr, -, hold, hnew⟩ := hs.pc.withOffer_transceiver hd ht
  refine ⟨t', ht', hr, ?_⟩
  cases hm : t.mid with
  | some mid => exact ⟨mid, hold mid hm, hstray mid hm⟩
  | none =>
    obtain ⟨k, hk, hmid⟩ := hnew hm
    refine ⟨_, hmid, fun hmem ↦ ?_⟩
    obtain ⟨k', hlt, hk'⟩ := hs.generated _ hmem
    have := toString_injective hk'
    omega

private theorem withOffer (hs : Stray h₀) (hd : h₀.pc.Offered d) :
    Stray { h₀ with pc := h₀.pc.withOffer d } := by
  obtain ⟨t, ht, hstray⟩ := hs.stray
  obtain ⟨t', ht', -, mid, hmid, hnot⟩ := hs.withOffer_stray hd ht hstray
  refine ⟨hs.pc.withOffer hd, hs.mirror, fun mid hmem ↦ ?_, t', ht', fun mid' hm ↦ ?_⟩
  · obtain ⟨k, hlt, hk⟩ := hs.generated mid hmem
    exact ⟨k, hlt.trans_le hs.pc.laid.later, hk⟩
  · rw [hmid] at hm
    exact Option.some.inj hm ▸ hnot

/-- The answer is refused: the offer has a mid that the remote description has not. -/
theorem setRemoteDescription (hs : Stray h₀) (hw : pc.WF) (hd : pc.Offered d)
    (hpc : h₀.pc = pc.withOffer d) :
    Triple (· = h₀) (Handler.setRemoteDescription env .answer) (fun _ _ ↦ False)
      (fun _ ↦ Stray) := by
  have hL : h₀.pc.pendingLocal = some d := by rw [hpc]; rfl
  have hp (t : RtpTransceiver) (ht : t ∈ h₀.pc.transceivers) : t.mid ≠ none := by
    obtain ⟨i, c, -, -, hmid, -⟩ := hw.withOffer_section hd (hpc ▸ ht)
    rw [hmid]
    simp
  have hours : h₀.pc.ours = d := by simp [ours, localDescription, hL]
  have hne : h₀.remoteSdp.docMids ≠ d.map MediaObject.mid := by
    obtain ⟨t, ht, hstray⟩ := hs.stray
    obtain ⟨mid, hmid⟩ := Option.ne_none_iff_exists'.mp (hp t ht)
    obtain ⟨c, hc, hcmid, -⟩ := hs.pc.placed t ht mid hmid
    intro heq
    refine hstray mid hmid ?_
    rw [heq, ← hcmid, ← hours]
    exact List.mem_map_of_mem hc
  obtain ⟨e, he⟩ := hs.pc.setRemoteDescription_refused hL hne env.remoteContents
  refine (setRemoteDescription_refused he).except fun _ h hh ↦ ?_
  rw [hh]
  exact ⟨hs.pc, hs.mirror, hs.generated, hs.stray⟩

private theorem declined (hs : Stray h₀) (hd : DeclinedLocal env h₀ h) : Stuck h := by
  rcases hd with ⟨-, rfl⟩ | ⟨-, herror⟩
  · exact .inl hs
  · exact .inr herror

/-- Nothing that is negotiated without a new transceiver is accepted. -/
theorem renegotiate (hs : Stray h₀) :
    Triple (· = h₀) (SendHandler.renegotiate env) (fun _ _ ↦ False) (fun _ ↦ Stuck) := by
  unfold SendHandler.renegotiate
  refine Triple.bind ((createOffer_spec hs.pc).except fun _ _ ↦ False.elim) fun offer ↦ ?_
  refine Triple.of_eq ?_
  rintro h₁ ⟨hoffer, hh₁⟩
  have hs₁ : Stray h₁ := hh₁ ▸ hs.offering
  refine Triple.bind ((setLocalDescription_spec hs.pc hoffer (by rw [hh₁])).except
    fun _ _ hf ↦ hs₁.declined hf.2) fun _ ↦ ?_
  refine Triple.of_eq fun h₂ hh₂ ↦ ?_
  refine (setRemoteDescription ?_ hs.pc hoffer (by rw [hh₂])).except fun _ _ ↦ .inl
  rw [hh₂, hh₁]
  exact hs.withOffer hoffer

private theorem restartIce (hs : Stray h₀) (ice : IceParameters) :
    Triple (· = h₀) (SendHandler.restartIce env ice)
      (fun _ h ↦ Stray h ∧ h₀.transportReady = false) (fun _ ↦ Stuck) := by
  obtain ⟨hmirror, hmids⟩ := hs.mirror.updateIceParameters ice
  set h₁ : Handler := { h₀ with remoteSdp := h₀.remoteSdp.updateIceParameters ice } with hh₁
  have hs₁ : Stray h₁ := hs.of_core hs.pc hmirror hmids rfl le_rfl
  refine Triple.bind (Q := fun _ ↦ (· = h₁)) (Triple.modify fun s hs ↦ by rw [hs]; rfl) fun _ ↦ ?_
  refine Triple.bind_get fun h hh ↦ ?_
  obtain rfl : h = h₁ := hh
  split
  · exact hs₁.renegotiate.post fun _ _ ↦ False.elim
  · next hready =>
    exact Triple.ret fun s hh ↦ ⟨hh ▸ hs₁, Bool.eq_false_iff.mpr hready⟩

private theorem replaceTrack (hs : Stray h₀) (localId : String) (track : Bool) :
    Triple (· = h₀) (SendHandler.replaceTrack localId track) (fun _ ↦ Stray) (fun _ ↦ Stuck) := by
  refine Triple.bind_get fun h hh ↦ ?_
  obtain rfl : h = h₀ := hh
  refine Triple.bind (attempt_triple (Q := fun _ ↦ (· = h)) (fun _ _ _ hs ↦ hs)
    fun _ hh ↦ hh ▸ .inl hs) fun t ↦ ?_
  refine Triple.modify fun s hh ↦ ?_
  have hcore := updateTransceiver_core h.pc.transceivers t.ref
    (f := fun t ↦ { t with hasTrack := track }) fun _ ↦ rfl
  rw [hh]
  exact hs.of_core (hs.pc.congr hcore rfl rfl rfl rfl le_rfl le_rfl) hs.mirror rfl hcore le_rfl

private theorem stopSending (hs : Stray h₀) (localId : String) :
    Triple (· = h₀) (SendHandler.stopSending env localId) (fun _ _ ↦ False) (fun _ ↦ Stuck) := by
  refine Triple.bind_get fun h hh ↦ ?_
  obtain rfl : h = h₀ := hh
  refine Triple.bind (attempt_triple (Q := fun _ ↦ (· = h)) (fun _ _ _ hs ↦ hs)
    fun _ hh ↦ hh ▸ .inl hs) fun t ↦ ?_
  have hcore : ((h.pc.clearTrack t.ref).removeTrack t.ref).transceivers.map RtpTransceiver.core =
      h.pc.transceivers.map RtpTransceiver.core :=
    (removeTrack_core _ _).trans (clearTrack_core _ _)
  set h₁ : Handler := { h with pc := (h.pc.clearTrack t.ref).removeTrack t.ref } with hh₁
  have hs₁ : Stray h₁ :=
    hs.of_core (hs.pc.congr hcore rfl rfl rfl rfl le_rfl le_rfl) hs.mirror rfl hcore le_rfl
  refine Triple.bind (Q := fun _ ↦ (· = h₁)) (Triple.modify fun s hh ↦ by rw [hh]; rfl) fun _ ↦ ?_
  split
  · exact Triple.raise fun s hh ↦ hh ▸ .inl hs₁
  · next mid hmid =>
    refine Triple.bind (attempt_triple (Q := fun r s ↦ s = h₁ ∧ r.Mirrors ∧
        r.docMids = h.remoteSdp.docMids)
      (fun r s hr hh ↦ ⟨hh, hs.mirror.closeMediaSection hr⟩) fun _ hh ↦ hh ▸ .inl hs₁) fun r ↦ ?_
    refine Triple.of_eq ?_
    rintro h₂ ⟨hh₂, hmirror, hmids⟩
    refine Triple.bind (Q := fun _ ↦ (· = { h₁ with remoteSdp := r })) (Triple.modify fun s hh ↦ by
      rw [hh, hh₂]; rfl) fun _ ↦ ?_
    exact renegotiate (hs₁.of_core hs₁.pc hmirror hmids rfl le_rfl)

/-- The section for data channels does not help. -/
theorem offerData (hs : Stray h₀) :
    Triple (· = h₀) (SendHandler.offerData env) (fun _ _ ↦ False) (fun _ ↦ Stuck) := by
  unfold SendHandler.offerData
  refine Triple.bind ((createOffer_spec hs.pc).except fun _ _ ↦ False.elim) fun offer ↦ ?_
  refine Triple.of_eq ?_
  rintro h₁ ⟨hoffer, hh₁⟩
  have hs₁ : Stray h₁ := hh₁ ▸ hs.offering
  split
  · exact Triple.raise fun _ hh ↦ hh ▸ .inl hs₁
  · next c hfind =>
    refine Triple.bind ((ensureTransport_spec "server").except fun _ _ hc ↦
      .inl (hs₁.connecting hc.2)) fun _ ↦ ?_
    refine Triple.of_eq fun h₂ hc ↦ ?_
    refine Triple.bind ((setLocalDescription_spec hs.pc hoffer (by rw [hc.pc, hh₁])).except
      fun _ _ hf ↦ (hs₁.connecting hc).declined hf.2) fun _ ↦ ?_
    refine Triple.bind_get fun h₃ hh₃ ↦ ?_
    have hs₃ : Stray h₃ := by
      have hstart : Stray { h₀ with pc := h₀.pc.withOffer offer } := hs.withOffer hoffer
      refine hh₃ ▸ hstart.connecting ⟨rfl, ?_, ?_, ?_⟩
      · rw [hc.map, hh₁]
      · rw [hc.data, hh₁]
      · have hr := hc.remote
        rw [hh₁] at hr
        exact hr
    have hpc : h₃.pc = h₀.pc.withOffer offer := by rw [hh₃]
    refine Triple.bind (attempt_triple (Q := fun r s ↦ s = h₃ ∧ Stray { h₃ with remoteSdp := r })
      (fun r s hr hh ↦ ⟨hh, ?_⟩) fun _ hh ↦ hh ▸ .inl hs₃) fun r ↦ ?_
    · obtain ⟨m, hm, rfl⟩ := RemoteSdp.sendSctpAssociation_eq_ok hr
      obtain ⟨hmirror, hmids⟩ := hs₃.mirror.addMediaSection m
      have hcmem := List.mem_of_find?_eq_some hfind
      have happ : c.type = .application := by simpa using List.find?_some hfind
      refine ⟨hs₃.pc, hmirror, fun mid hmid ↦ ?_, ?_⟩
      · rw [hmids, List.mem_append, List.mem_singleton, hm.mid_eq] at hmid
        rcases hmid with hmid | rfl
        · exact hs₃.generated mid hmid
        · have hours : h₃.pc.ours = offer := by rw [hpc]; rfl
          exact hs₃.pc.generated c (hours ▸ hcmem)
      · -- no transceiver owns the section for data channels
        obtain ⟨t, ht, hstray⟩ := hs₃.stray
        refine ⟨t, ht, fun mid hmid hmem ↦ ?_⟩
        rw [hmids, List.mem_append, List.mem_singleton, hm.mid_eq] at hmem
        rcases hmem with hmem | rfl
        · exact hstray mid hmid hmem
        · have hours : h₃.pc.ours = offer := by rw [hpc]; rfl
          have hty := hs₃.pc.type_eq ht (hours ▸ hcmem) hmid
          exact hs₃.pc.media t ht (hty.symm.trans happ)
    · refine Triple.of_eq ?_
      rintro h₄ ⟨hh₄, hs₄⟩
      refine Triple.bind (Q := fun _ ↦ (· = { h₃ with remoteSdp := r }))
        (Triple.modify fun s hh ↦ by
        rw [hh, hh₄]; rfl) fun _ ↦ ?_
      exact Triple.bind ((setRemoteDescription hs₄ hs.pc hoffer hpc).except fun _ _ ↦ .inl) fun _ ↦
        fun _ ↦ False.elim

private theorem sendDataChannel (hs : Stray h₀) (init : SendHandler.DataChannelInit) :
    Triple (· = h₀) (SendHandler.sendDataChannel env init)
      (fun _ h ↦ Stray h ∧ h₀.hasDataChannelMediaSection = true) (fun _ ↦ Stuck) := by
  unfold SendHandler.sendDataChannel
  refine Triple.bind_get fun h hh ↦ ?_
  obtain rfl : h = h₀ := hh
  refine Triple.bind (attempt_triple (Q := fun _ ↦ (· = h)) (fun _ _ _ hs ↦ hs)
    fun _ hh ↦ hh ▸ .inl hs) fun parameters ↦ ?_
  split
  · exact Triple.raise fun _ hh ↦ hh ▸ .inl hs
  · next pc hpc =>
    obtain ⟨a, rfl, -⟩ := Aligned.hasDataChannels_createDataChannel hpc
    set h₁ : Handler := { h with
      pc := { h.pc with sidAllocator := a }
      nextSendSctpStreamId := (h.nextSendSctpStreamId + 1) % SendHandler.sctpNumStreamsMis }
      with hh₁
    have hs₁ : Stray h₁ :=
      hs.of_core (hs.pc.congr rfl rfl rfl rfl rfl le_rfl le_rfl) hs.mirror rfl rfl le_rfl
    refine Triple.bind (Q := fun _ ↦ (· = h₁)) (Triple.modify fun s hh ↦ by rw [hh]) fun _ ↦ ?_
    split
    · next hhas => exact Triple.ret fun s hh ↦ ⟨hh ▸ hs₁, hhas⟩
    · exact Triple.bind hs₁.offerData fun _ ↦ fun _ ↦ False.elim

private theorem adding (hs : Stray h₀) {kind : MediaType} (hk : kind ≠ .application) :
    Stray (adding h₀ kind) := by
  obtain ⟨t, ht, hstray⟩ := hs.stray
  exact ⟨hs.pc.addTransceiver hk, hs.mirror, hs.generated, t, List.mem_append_left _ ht, hstray⟩

private theorem undo (hs : Stray h₀) (ref : Nat) : Stray (onPc (SendHandler.undo ref) h₀) := by
  have hcore : (SendHandler.undo ref h₀.pc).transceivers.map RtpTransceiver.core =
      h₀.pc.transceivers.map RtpTransceiver.core :=
    (clearTrack_core _ ref).trans (deactivate_core h₀.pc ref)
  exact hs.of_core (hs.pc.congr hcore rfl rfl rfl rfl le_rfl le_rfl) hs.mirror rfl hcore le_rfl

/-- There are two transceivers without a section now, and the remote description gets one
section. -/
theorem of_answerTrack {p : SendHandler.Parameters} {kind : Kind}
    {encodings : List RtpEncodingParameters} {options : Option ProducerCodecOptions}
    {codecs remoteCodecs : List (Option RtpCodecParameters)} {localId reuseMid : String} {idx : Nat}
    {hackVp9Svc : Bool} (hs : Stray h₀)
    (hd : (Sdp.adding h₀ (mediaTypeOf kind)).pc.Offered d)
    (hc : Connecting { Sdp.adding h₀ (mediaTypeOf kind) with
      pc := (Sdp.adding h₀ (mediaTypeOf kind)).pc.withOffer d } h)
    {r : RemoteSdp} {rtp : RtpParameters}
    (hr : SendHandler.answerTrack env p kind encodings options codecs remoteCodecs idx reuseMid
      localId hackVp9Svc h = .ok (r, rtp)) : Stray { h with remoteSdp := r } := by
  have hk : mediaTypeOf kind ≠ .application := by cases kind <;> simp [mediaTypeOf]
  have hs₁ := hs.adding hk
  have hs₂ := (hs₁.withOffer hd).connecting hc
  have hdoc : h.remoteSdp.docMids = h₀.remoteSdp.docMids :=
    (mirrors_connecting (hs₁.withOffer hd).mirror hc).2
  obtain ⟨offer, m, hoffer, hm, hput⟩ := SendHandler.answerTrack_ok hr
  obtain ⟨hmirror, hmids⟩ := hs₂.mirror.put hput
  rw [hm.mid_eq] at hmids
  refine ⟨hs₂.pc, hmirror, fun mid hmid ↦ ?_, ?_⟩
  · rcases hmids mid hmid with hmid | rfl
    · exact hs₂.generated mid hmid
    · exact hs₂.pc.generated offer (List.mem_of_getElem? hoffer)
  · -- the old one and the new one have different mids
    obtain ⟨t, ht, hstray⟩ := hs.stray
    obtain ⟨t', ht', hrt, a, ha, hna⟩ := hs₁.withOffer_stray hd (List.mem_append_left _ ht) hstray
    obtain ⟨u', hu', hru, b, hb, hnb⟩ := hs₁.withOffer_stray hd
      (t := (h₀.pc.addTransceiver (mediaTypeOf kind)).1)
      (by simp [Sdp.adding, PeerConnection.addTransceiver]) (fun mid hmid ↦ by cases hmid)
    have hab : a ≠ b := by
      rintro rfl
      have heq := (hs₁.pc.withOffer hd).mids t' ht' u' hu' a ha hb
      have hlt : t.ref < h₀.pc.nextRef := hs.pc.fresh t ht
      have hnew : u'.ref = h₀.pc.nextRef := hru
      rw [← heq, hrt] at hnew
      omega
    have hpc := hc.pc
    have hout {mid : String} (hn : mid ∉ h₀.remoteSdp.docMids) (hne : mid ≠ offer.mid) :
        mid ∉ r.docMids := fun hmem ↦ by
      rcases hmids mid hmem with hmem | he
      · exact hn (hdoc ▸ hmem)
      · exact hne he
    by_cases hao : a = offer.mid
    · refine ⟨u', hpc ▸ hu', fun mid hmid ↦ ?_⟩
      rw [hb] at hmid
      obtain rfl := Option.some.inj hmid
      exact hout hnb fun he ↦ hab (hao.trans he.symm)
    · refine ⟨t', hpc ▸ ht', fun mid hmid ↦ ?_⟩
      rw [ha] at hmid
      obtain rfl := Option.some.inj hmid
      exact hout hna hao

private theorem send {p : SendHandler.Parameters} {kind : Kind}
    {encodings : List RtpEncodingParameters}
    {options : Option ProducerCodecOptions} {codec : Option CodecKey} (hs : Stray h₀) :
    Triple (· = h₀) (SendHandler.send env p kind encodings options codec)
      (fun _ _ ↦ False) (fun _ ↦ Stuck) := by
  have hk : mediaTypeOf kind ≠ .application := by cases kind <;> simp [mediaTypeOf]
  have hs₁ := hs.adding hk
  unfold SendHandler.send
  refine Triple.bind (attempt_triple (Q := fun _ ↦ (· = h₀)) (fun _ _ _ hs ↦ hs)
    fun _ hh ↦ hh ▸ .inl hs) fun codecs ↦ ?_
  refine Triple.bind (attempt_triple (Q := fun _ ↦ (· = h₀)) (fun _ _ _ hs ↦ hs)
    fun _ hh ↦ hh ▸ .inl hs) fun remoteCodecs ↦ ?_
  refine Triple.bind_get fun h hh ↦ ?_
  obtain rfl : h = h₀ := hh
  refine Triple.bind (attempt_triple (Q := fun _ ↦ (· = h)) (fun _ _ _ hs ↦ hs)
    fun _ hh ↦ hh ▸ .inl hs) fun _ ↦ ?_
  refine Triple.bind (Q := fun _ ↦ (· = Sdp.adding h (mediaTypeOf kind)))
    (Triple.modify fun s hh ↦ by rw [hh]; rfl) fun _ ↦ ?_
  have hmem : h.pc.nextRef ∈
      (Sdp.adding h (mediaTypeOf kind)).pc.transceivers.map RtpTransceiver.ref := by
    simp [Sdp.adding, PeerConnection.addTransceiver]
  refine Triple.bind
    (Triple.tryCatch (SendHandler.offerTrack_spec hs₁.pc hmem) fun e ↦ ?_) fun res ↦ ?_
  · refine Triple.bind (Q := fun _ ↦ Stuck) (Triple.modify fun s hf ↦ ?_) fun _ ↦
      Triple.raise fun _ hs ↦ hs
    rcases hf.2 with hc | herror
    · exact .inl ((hs₁.offering.connecting hc).undo _)
    · exact .inr herror
  refine Triple.bind_get ?_
  rintro h₁ ⟨offer, hoffer, hc, -⟩
  have hs₂ := (hs₁.withOffer hoffer).connecting hc
  refine Triple.bind (attempt_triple (Q := fun r s ↦ s = h₁ ∧ Stray { h₁ with remoteSdp := r.1 })
    (fun r s hr hh ↦ ⟨hh, hs.of_answerTrack hoffer hc hr⟩) fun s hh ↦ hh ▸ .inl hs₂) fun r ↦ ?_
  refine Triple.of_eq ?_
  rintro h₂ ⟨hh₂, hs₃⟩
  refine Triple.bind (Q := fun _ ↦ (· = { h₁ with remoteSdp := r.1 }))
    (Triple.modify fun s hh ↦ by rw [hh, hh₂]; rfl) fun _ ↦ ?_
  exact Triple.bind ((setRemoteDescription hs₃ hs₁.pc hoffer hc.pc).except fun _ _ ↦ .inl) fun _ ↦
    fun _ ↦ False.elim

/-- A call that returns has not had to negotiate. -/
theorem perform (hs : Stray h₀) (p : SendHandler.Parameters) (rq : SendRequest) :
    Triple (· = h₀) (SendHandler.perform p rq) (fun _ h ↦ Stray h ∧ ¬rq.call.Negotiates h₀)
      (fun _ ↦ Stuck) := by
  unfold SendHandler.perform SendCall.Negotiates
  cases rq.call with
  | send kind encodings options codec =>
    exact Triple.bind hs.send fun _ ↦ fun _ ↦ False.elim
  | sendDataChannel init =>
    exact Triple.bind (hs.sendDataChannel init) fun _ ↦
      Triple.ret fun _ hh ↦ ⟨hh.1, by simp [hh.2]⟩
  | stopSending localId => exact (hs.stopSending localId).post fun _ _ ↦ False.elim
  | replaceTrack localId track =>
    exact (hs.replaceTrack localId track).post fun _ _ h ↦ ⟨h, id⟩
  | restartIce ice => exact (hs.restartIce ice).post fun _ _ h ↦ ⟨h.1, by simp [h.2]⟩

end Stray

namespace Errored

variable {h₀ : Handler} {env : Surroundings}

/-- It makes no offer. -/
theorem createOffer :
    Triple Errored (Handler.createOffer env) (fun _ _ ↦ False) (fun _ ↦ Errored) := by
  refine Triple.bind_get fun h hh ↦ ?_
  have hh : h.pc.sessionError = true := hh
  rw [if_pos hh]
  exact Triple.raise fun s hs ↦ hs ▸ hh

private theorem attempt {α : Type} (x : Except Failure α) :
    Triple Errored (Handler.attempt x) (fun _ ↦ Errored) (fun _ ↦ Errored) :=
  attempt_triple (fun _ _ _ h ↦ h) fun _ h ↦ h

private theorem renegotiate :
    Triple Errored (SendHandler.renegotiate env) (fun _ _ ↦ False) (fun _ ↦ Errored) :=
  Triple.bind createOffer fun _ _ ↦ False.elim

private theorem send {p : SendHandler.Parameters} {kind : Kind}
    {encodings : List RtpEncodingParameters}
    {options : Option ProducerCodecOptions} {codec : Option CodecKey} :
    Triple Errored (SendHandler.send env p kind encodings options codec) (fun _ _ ↦ False)
      (fun _ ↦ Errored) := by
  unfold SendHandler.send
  refine Triple.bind (attempt _) fun codecs ↦ ?_
  refine Triple.bind (attempt _) fun remoteCodecs ↦ ?_
  refine Triple.bind_get fun h hh ↦ ?_
  refine Triple.pre (P := Errored) ?_ fun s hs ↦ hs ▸ hh
  refine Triple.bind (attempt _) fun _ ↦ ?_
  refine Triple.bind (Q := fun _ ↦ Errored) (Triple.modify fun s hs ↦ hs) fun _ ↦ ?_
  refine Triple.bind (Q := fun _ _ ↦ False) (Triple.tryCatch (F := fun _ ↦ Errored) ?_ fun e ↦ ?_)
    fun _ _ ↦ False.elim
  · exact Triple.bind createOffer fun _ _ ↦ False.elim
  · exact Triple.bind (Q := fun _ ↦ Errored) (Triple.modify fun s hs ↦ hs) fun _ ↦
      Triple.raise fun _ hs ↦ hs

private theorem sendDataChannel (he : Errored h₀) (init : SendHandler.DataChannelInit) :
    Triple (· = h₀) (SendHandler.sendDataChannel env init)
      (fun _ h ↦ Errored h ∧ h₀.hasDataChannelMediaSection = true) (fun _ ↦ Errored) := by
  unfold SendHandler.sendDataChannel
  refine Triple.bind_get fun h hh ↦ ?_
  obtain rfl : h = h₀ := hh
  refine Triple.bind ((attempt _).pre fun _ hs ↦ hs ▸ he) fun parameters ↦ ?_
  split
  · exact Triple.raise fun _ hs ↦ hs
  · next pc hpc =>
    obtain ⟨a, rfl, -⟩ := Aligned.hasDataChannels_createDataChannel hpc
    refine Triple.bind (Q := fun _ ↦ Errored) (Triple.modify fun s hs ↦ he) fun _ ↦ ?_
    split
    · next hhas => exact Triple.ret fun s hs ↦ ⟨hs, hhas⟩
    · exact Triple.bind (Triple.bind createOffer fun _ _ ↦ False.elim) fun _ _ ↦ False.elim

private theorem stopSending (he : Errored h₀) (localId : String) :
    Triple (· = h₀) (SendHandler.stopSending env localId) (fun _ _ ↦ False) (fun _ ↦ Errored) := by
  refine Triple.bind_get fun h hh ↦ ?_
  obtain rfl : h = h₀ := hh
  refine Triple.bind ((attempt _).pre fun _ hs ↦ hs ▸ he) fun t ↦ ?_
  refine Triple.bind (Q := fun _ ↦ Errored) (Triple.modify fun s hs ↦ hs) fun _ ↦ ?_
  split
  · exact Triple.raise fun _ hs ↦ hs
  · refine Triple.bind (attempt _) fun r ↦ ?_
    exact Triple.bind (Q := fun _ ↦ Errored) (Triple.modify fun s hs ↦ hs) fun _ ↦ renegotiate

private theorem restartIce (he : Errored h₀) (ice : IceParameters) :
    Triple (· = h₀) (SendHandler.restartIce env ice)
      (fun _ h ↦ Errored h ∧ h₀.transportReady = false) (fun _ ↦ Errored) := by
  set h₁ : Handler := { h₀ with remoteSdp := h₀.remoteSdp.updateIceParameters ice } with hh₁
  refine Triple.bind (Q := fun _ ↦ (· = h₁)) (Triple.modify fun s hs ↦ by rw [hs]; rfl) fun _ ↦ ?_
  refine Triple.bind_get fun h hh ↦ ?_
  obtain rfl : h = h₁ := hh
  split
  · exact renegotiate.conseq (fun _ hs ↦ hs ▸ he) (fun _ _ ↦ False.elim) fun _ _ h ↦ h
  · next hready => exact Triple.ret fun s hs ↦ ⟨hs ▸ he, Bool.eq_false_iff.mpr hready⟩

private theorem replaceTrack (he : Errored h₀) (localId : String) (track : Bool) :
    Triple (· = h₀) (SendHandler.replaceTrack localId track) (fun _ ↦ Errored)
      (fun _ ↦ Errored) := by
  refine Triple.bind_get fun h hh ↦ ?_
  obtain rfl : h = h₀ := hh
  exact Triple.bind ((attempt _).pre fun _ hs ↦ hs ▸ he) fun t ↦ Triple.modify fun s hs ↦ hs

/-- A call that returns has not had to negotiate. -/
theorem perform (he : Errored h₀) (p : SendHandler.Parameters) (rq : SendRequest) :
    Triple (· = h₀) (SendHandler.perform p rq) (fun _ h ↦ Errored h ∧ ¬rq.call.Negotiates h₀)
      (fun _ ↦ Errored) := by
  unfold SendHandler.perform SendCall.Negotiates
  cases rq.call with
  | send kind encodings options codec =>
    exact Triple.bind (send.pre fun _ hs ↦ hs ▸ he) fun _ _ ↦ False.elim
  | sendDataChannel init =>
    exact Triple.bind (he.sendDataChannel init) fun _ ↦
      Triple.ret fun _ hh ↦ ⟨hh.1, by simp [hh.2]⟩
  | stopSending localId => exact (he.stopSending localId).post fun _ _ ↦ False.elim
  | replaceTrack localId track =>
    exact (he.replaceTrack localId track).post fun _ _ h ↦ ⟨h, id⟩
  | restartIce ice => exact (he.restartIce ice).post fun _ _ h ↦ ⟨h.1, by simp [h.2]⟩

end Errored

namespace Stuck

open SendHandler

variable {h : Handler}

private theorem perform (hs : Stuck h) (p : SendHandler.Parameters) (rq : SendRequest) :
    Triple (· = h) (SendHandler.perform p rq) (fun _ h' ↦ Stuck h' ∧ ¬rq.call.Negotiates h)
      (fun _ ↦ Stuck) := by
  rcases hs with hs | he
  · exact (hs.perform p rq).post fun _ _ h ↦ ⟨.inl h.1, h.2⟩
  · exact (Errored.perform he p rq).conseq (fun _ h ↦ h) (fun _ _ h ↦ ⟨.inr h.1, h.2⟩)
      fun _ _ ↦ .inr

/-- No call helps. -/
theorem step (hs : Stuck h) (p : SendHandler.Parameters) (rq : SendRequest) :
    Stuck (SendHandler.step p h rq) := by
  rcases (hs.perform p rq).outcome rfl with ⟨-, hs, -⟩ | ⟨e, -, hs⟩
  · exact hs
  · exact hs

end Stuck

end RtcClient.Sdp
