import RtcClient.Sdp.Agreement

/-!
# Calls of a send handler

What `Send`, `SendDataChannel`, `StopSending`, `ReplaceTrack` and `RestartIce`
(`deps/libmediasoupclient/src/Handler.cpp`) do to the two sides of a transport. As long as no
call is interrupted after it has begun to change the peer connection, the sides stay aligned
and WebRTC refuses a description only for its contents.
-/

namespace RtcClient.Sdp

open RtcClient.Ortc RtcClient.Lib RtcClient.Native

/-- The errors of WebRTC that the contents of a description account for. -/
def Surroundings.Refuses (env : Surroundings) : DescriptionError → Prop
  | .contents => env.localContents = .refused ∨ env.remoteContents = .refused
  | .notApplied => env.localContents = .notApplied ∨ env.remoteContents = .notApplied
  | _ => False

/-- WebRTC accepts the contents of both descriptions. -/
def Surroundings.Accepts (env : Surroundings) : Prop :=
  env.localContents = .accepted ∧ env.remoteContents = .accepted

/-- A peer connection on which a description could not be applied. -/
def Errored (h : Handler) : Prop := h.pc.sessionError = true

namespace Handler

open PeerConnection (SdpType)

variable {h₀ : Handler} {env : Surroundings} {pc : PeerConnection} {d : List MediaObject}

/-- A failure in a state with `E`; WebRTC refuses nothing but contents. -/
def Fails (env : Surroundings) (E : Handler → Prop) (e : CallFailure) (h : Handler) : Prop :=
  (∀ r, e = .refused r → env.Refuses r) ∧ E h

/-- No failure. -/
def Never (_ : CallFailure) (_ : Handler) : Prop := False

/-- The state is described by something weaker. -/
theorem Fails.imp {E E' : Handler → Prop} {e : CallFailure} {h : Handler} (hf : Fails env E e h)
    (hE : E h → E' h) : Fails env E' e h :=
  ⟨hf.1, hE hf.2⟩

private theorem Fails.of_refuses {E : Handler → Prop} {e : DescriptionError} {h : Handler}
    (he : env.Refuses e) (hE : E h) : Fails env E (.refused e) h :=
  ⟨fun _ hr ↦ CallFailure.refused.inj hr ▸ he, hE⟩

/-- What is thrown is not a refusal. -/
theorem fails_thrown {E : Handler → Prop} {h : Handler} (f : Failure) (hE : E h) :
    Fails env E (.thrown f) h :=
  ⟨fun _ hr ↦ (by cases hr), hE⟩

section Attempt

variable {α : Type} {x : Except Failure α} {P E : Handler → Prop} {Q : α → Handler → Prop}

/-- A computation outside of WebRTC leaves the state alone. -/
theorem attempt_spec (hok : ∀ a h, x = .ok a → P h → Q a h) (herror : ∀ h, P h → E h) :
    Triple P (attempt x) Q (Fails env E) := by
  refine Triple.lift (fun a h ha hP ↦ ?_) (fun e h he hP ↦ ?_)
  · cases x with
    | ok a' =>
      obtain rfl : a' = a := Except.ok.inj ha
      exact hok a' h rfl hP
    | error e => cases ha
  · cases x with
    | ok a => cases he
    | error f => exact Except.error.inj he ▸ fails_thrown f (herror h hP)

/-- The same, where it does not matter what is thrown. -/
theorem attempt_triple (hok : ∀ a h, x = .ok a → P h → Q a h) (herror : ∀ h, P h → E h) :
    Triple P (attempt x) Q (fun _ ↦ E) := by
  have hx : Triple P (attempt x) Q (Fails {} E) := attempt_spec hok herror
  exact hx.except fun _ _ hf ↦ hf.2

/-- A computation that succeeds. -/
theorem attempt_ok (a : α) : attempt (.ok a) = pure a := rfl

end Attempt

/-- An offer is made, and only what is offered changes. -/
theorem createOffer_spec (hw : h₀.pc.WF) :
    Triple (· = h₀) (createOffer env)
      (fun offer h ↦ h₀.pc.Offered offer ∧ h = { h₀ with pc := h₀.pc.offering }) Never := by
  refine Triple.bind_get fun h hh ↦ ?_
  obtain rfl : h = h₀ := hh
  rw [if_neg (by simp [hw.noError])]
  refine Triple.bind (Q := fun _ s ↦ s = { h with pc := h.pc.offering }) ?_ fun _ ↦ ?_
  · exact Triple.modify fun s hs ↦ by rw [hs]; rfl
  · exact Triple.ret fun s hs ↦ ⟨PeerConnection.offered_createOffer env.describe h.pc, hs⟩

section Set

variable {type : SdpType} {pc' : PeerConnection} {e : DescriptionError}

/-- The handler as it was, or with a session error, after WebRTC has declined the contents of a
local description. -/
def DeclinedLocal (env : Surroundings) (h₀ h : Handler) : Prop :=
  (env.localContents = .refused ∧ h = h₀) ∨ (env.localContents = .notApplied ∧ Errored h)

/-- The handler after WebRTC has declined the contents of a remote description. -/
def DeclinedRemote (env : Surroundings) (h : Handler) : Prop :=
  env.remoteContents = .refused ∨ (env.remoteContents = .notApplied ∧ Errored h)

/-- Contents that are accepted are not declined. -/
theorem DeclinedLocal.not_accepts {h : Handler} (hd : DeclinedLocal env h₀ h) : ¬env.Accepts := by
  rintro ⟨hlocal, -⟩
  rcases hd with ⟨hc, -⟩ | ⟨hc, -⟩
  · cases hlocal.symm.trans hc
  · cases hlocal.symm.trans hc

/-- Contents that are accepted are not declined. -/
theorem DeclinedRemote.not_accepts {h : Handler} (hd : DeclinedRemote env h) : ¬env.Accepts := by
  rintro ⟨-, hremote⟩
  rcases hd with hc | ⟨hc, -⟩
  · cases hremote.symm.trans hc
  · cases hremote.symm.trans hc

private theorem ofExcept_refused {r : Except DescriptionError Unit} :
    Triple (· = h₀) (ofExcept (r.mapError .refused) : HandlerM Unit)
      (fun _ h ↦ r = .ok () ∧ h = h₀)
      (fun e h ↦ ∃ e', e = .refused e' ∧ r = .error e' ∧ h = h₀) := by
  refine Triple.lift (fun _ s hr hs ↦ ?_) fun e s hr hs ↦ ?_
  · cases r with
    | ok => exact ⟨rfl, hs⟩
    | error => cases hr
  · cases r with
    | ok => cases hr
    | error e' => exact ⟨e', (Except.error.inj hr).symm, rfl, hs⟩

private theorem setLocalDescription_result {r : Except DescriptionError Unit}
    (hset : h₀.pc.setLocalDescription type d env.localContents = (r, pc')) :
    Triple (· = h₀) (setLocalDescription env type d)
      (fun _ h ↦ r = .ok () ∧ h = { h₀ with pc := pc' })
      (fun e h ↦ ∃ e', e = .refused e' ∧ r = .error e' ∧ h = { h₀ with pc := pc' }) := by
  refine Triple.bind_get fun h hh ↦ ?_
  obtain rfl : h = h₀ := hh
  refine Triple.bind (Q := fun _ s ↦ s = { h with pc := pc' }) ?_ fun _ ↦ ?_
  · exact Triple.modify fun s hs ↦ by rw [hs, onPc, hset]
  · rw [hset]
    exact ofExcept_refused

private theorem setRemoteDescription_result {r : Except DescriptionError Unit}
    (hset : h₀.pc.setRemoteDescription type h₀.remoteSdp.sdpObject.media env.remoteContents =
      (r, pc')) :
    Triple (· = h₀) (setRemoteDescription env type)
      (fun _ h ↦ r = .ok () ∧ h = { h₀ with pc := pc', remoteSdp := h₀.remoteSdp.getSdp.2 })
      (fun e h ↦ ∃ e', e = .refused e' ∧ r = .error e' ∧
        h = { h₀ with pc := pc', remoteSdp := h₀.remoteSdp.getSdp.2 }) := by
  refine Triple.bind (Q := fun _ s ↦ s = { h₀ with remoteSdp := h₀.remoteSdp.getSdp.2 })
    (Triple.modify fun s hs ↦ by rw [hs, onRemote]) fun _ ↦ ?_
  refine Triple.bind_get fun h hh ↦ ?_
  have heq : h.pc.setRemoteDescription type h.remoteSdp.sdpObject.media env.remoteContents =
      (r, pc') := by
    rw [hh]
    exact hset
  refine Triple.bind (Q := fun _ s ↦ s = { h₀ with
    pc := pc', remoteSdp := h₀.remoteSdp.getSdp.2 }) (Triple.modify fun s hs ↦ ?_) fun _ ↦ ?_
  · rw [hs, onPc, heq, hh]
  · rw [heq]
    exact ofExcept_refused

/-- A local description whose mids and m= lines are right is set, unless its contents are
declined. -/
theorem setLocalDescription_ok (hset : h₀.pc.setLocalDescription type d = (.ok (), pc')) :
    Triple (· = h₀) (setLocalDescription env type d) (fun _ h ↦ h = { h₀ with pc := pc' })
      (Fails env (DeclinedLocal env h₀)) := by
  cases hc : env.localContents with
  | accepted =>
    refine (setLocalDescription_result (hc ▸ hset)).conseq (fun _ h ↦ h) (fun _ _ h ↦ h.2) ?_
    rintro _ _ ⟨e', -, he', -⟩
    cases he'
  | refused =>
    have hset' := PeerConnection.setLocalDescription_refused hset
    refine (setLocalDescription_result (hc ▸ hset')).conseq (fun _ h ↦ h)
      (fun _ _ h ↦ by cases h.1) ?_
    rintro _ h ⟨e', rfl, he', hh⟩
    cases he'
    exact Fails.of_refuses (.inl hc) (.inl ⟨hc, hh⟩)
  | notApplied =>
    obtain ⟨pc₁, hset', herror⟩ := PeerConnection.setLocalDescription_notApplied hset
    refine (setLocalDescription_result (hc ▸ hset')).conseq (fun _ h ↦ h)
      (fun _ _ h ↦ by cases h.1) ?_
    rintro _ h ⟨e', rfl, he', hh⟩
    cases he'
    exact Fails.of_refuses (.inl hc) (.inr ⟨hc, hh ▸ herror⟩)

/-- A remote description whose mids and m= lines are right is set, unless its contents are
declined. -/
theorem setRemoteDescription_ok
    (hset : h₀.pc.setRemoteDescription type h₀.remoteSdp.sdpObject.media = (.ok (), pc')) :
    Triple (· = h₀) (setRemoteDescription env type)
      (fun _ h ↦ h = { h₀ with pc := pc', remoteSdp := h₀.remoteSdp.getSdp.2 })
      (Fails env (DeclinedRemote env)) := by
  cases hc : env.remoteContents with
  | accepted =>
    refine (setRemoteDescription_result (hc ▸ hset)).conseq (fun _ h ↦ h) (fun _ _ h ↦ h.2) ?_
    rintro _ _ ⟨e', -, he', -⟩
    cases he'
  | refused =>
    have hset' := PeerConnection.setRemoteDescription_refused hset
    refine (setRemoteDescription_result (hc ▸ hset')).conseq (fun _ h ↦ h)
      (fun _ _ h ↦ by cases h.1) ?_
    rintro _ h ⟨e', rfl, he', hh⟩
    cases he'
    exact Fails.of_refuses (.inr hc) (.inl hc)
  | notApplied =>
    obtain ⟨pc₁, hset', herror⟩ := PeerConnection.setRemoteDescription_notApplied hset
    refine (setRemoteDescription_result (hc ▸ hset')).conseq (fun _ h ↦ h)
      (fun _ _ h ↦ by cases h.1) ?_
    rintro _ h ⟨e', rfl, he', hh⟩
    cases he'
    exact Fails.of_refuses (.inr hc) (.inr ⟨hc, hh ▸ herror⟩)

/-- A remote description that is refused. -/
theorem setRemoteDescription_refused
    (hset : h₀.pc.setRemoteDescription type h₀.remoteSdp.sdpObject.media env.remoteContents =
      (.error e, pc')) :
    Triple (· = h₀) (setRemoteDescription env type) (fun _ _ ↦ False)
      (fun _ h ↦ h = { h₀ with pc := pc', remoteSdp := h₀.remoteSdp.getSdp.2 }) :=
  (setRemoteDescription_result hset).conseq (fun _ h ↦ h) (fun _ _ h ↦ by cases h.1)
    fun _ _ ⟨_, _, _, hh⟩ ↦ hh

end Set

/-- The offer becomes the local description. -/
theorem setLocalDescription_spec (hw : pc.WF) (hd : pc.Offered d) (hpc : h₀.pc = pc.offering) :
    Triple (· = h₀) (setLocalDescription env .offer d)
      (fun _ h ↦ h = { h₀ with pc := pc.withOffer d }) (Fails env (DeclinedLocal env h₀)) :=
  setLocalDescription_ok (hpc ▸ hw.setLocalDescription_offer hd)

/-- The answer becomes the remote description. -/
theorem setRemoteDescription_spec (hw : pc.WF) (hd : pc.Offered d) (hpc : h₀.pc = pc.withOffer d)
    (ha : pc.Answers d h₀.remoteSdp.sdpObject.media) :
    Triple (· = h₀) (setRemoteDescription env .answer)
      (fun _ h ↦ ∃ nextRef, pc.nextRef ≤ nextRef ∧ h = { h₀ with
        pc := (pc.withOffer d).answered h₀.remoteSdp.sdpObject.media nextRef
        remoteSdp := h₀.remoteSdp.getSdp.2 })
      (Fails env (DeclinedRemote env)) := by
  obtain ⟨nextRef, hn, hset⟩ := hw.exchange hd ha
  exact (setRemoteDescription_ok (hpc ▸ hset)).post fun _ _ hh ↦ ⟨nextRef, hn, hh⟩

/-- The handler after `SetupTransport`, if it was called: the remote role may be another one. -/
structure Connecting (h₀ h : Handler) : Prop where
  pc : h.pc = h₀.pc
  map : h.mapMidTransceiver = h₀.mapMidTransceiver
  data : h.hasDataChannelMediaSection = h₀.hasDataChannelMediaSection
  remote : h.remoteSdp = h₀.remoteSdp ∨
    ∃ role ∈ RemoteSdp.dtlsRoles, h.remoteSdp = h₀.remoteSdp.updateDtlsRole role

private theorem Connecting.refl (h : Handler) : Connecting h h := ⟨rfl, rfl, rfl, .inl rfl⟩

/-- The transport is ready afterwards, or the listener has thrown. -/
theorem ensureTransport_ready (role : String) :
    Triple (· = h₀) (ensureTransport env role)
      (fun _ h ↦ Connecting h₀ h ∧ h.transportReady = true)
      (Fails env fun h ↦ Connecting h₀ h ∧ h₀.transportReady = false ∧ h.transportReady = false ∧
        env.connect.isOk = false) := by
  refine Triple.bind_get fun h hh ↦ ?_
  obtain rfl : h = h₀ := hh
  split
  · next hready =>
    refine Triple.ret fun s hs ↦ ?_
    obtain rfl : s = h := hs
    exact ⟨Connecting.refl s, hready⟩
  · next hready =>
    have hready : h.transportReady = false := Bool.eq_false_iff.mpr hready
    unfold setupTransport
    refine Triple.bind (Q := fun _ s ↦ Connecting h s ∧ s.transportReady = false) ?_ fun _ ↦ ?_
    · refine Triple.modify fun s hs ↦ ?_
      obtain rfl : s = h := hs
      refine ⟨⟨rfl, rfl, rfl, .inr ⟨_, ?_, rfl⟩⟩, hready⟩
      unfold oppositeRole
      split <;> simp [RemoteSdp.dtlsRoles]
    · refine Triple.bind (Q := fun _ s ↦ Connecting h s ∧ s.transportReady = false) ?_ fun _ ↦ ?_
      · exact Triple.modify fun s hs ↦ ⟨⟨hs.1.pc, hs.1.map, hs.1.data, hs.1.remote⟩, hs.2⟩
      · cases hconnect : env.connect with
        | ok _ =>
          refine Triple.bind (Q := fun _ ↦ Connecting h) ?_ fun _ ↦ ?_
          · exact Triple.ret fun s hs ↦ hs.1
          · exact Triple.modify fun s hs ↦ ⟨⟨hs.pc, hs.map, hs.data, hs.remote⟩, rfl⟩
        | error text =>
          refine Triple.bind (Q := fun _ _ ↦ False) ?_ fun _ ↦ fun _ ↦ False.elim
          exact Triple.raise fun s hs ↦ fails_thrown _ ⟨hs.1, hready, hs.2, rfl⟩

/-- Whether the transport is connected or not, only the remote role may change. -/
theorem ensureTransport_spec (role : String) :
    Triple (· = h₀) (ensureTransport env role) (fun _ ↦ Connecting h₀)
      (Fails env (Connecting h₀)) :=
  (ensureTransport_ready role).conseq (fun _ h ↦ h) (fun _ _ h ↦ h.1) fun _ _ h ↦
    h.imp fun h ↦ h.1

/-- The remote description stays well-formed. -/
theorem Connecting.wf {h : Handler} (hc : Connecting h₀ h) (hw : h₀.remoteSdp.WF) :
    h.remoteSdp.WF := by
  rcases hc.remote with hr | ⟨role, hrole, hr⟩
  · exact hr ▸ hw
  · exact hr ▸ hw.updateDtlsRole hrole

/-- The m= lines stay. -/
theorem Connecting.lines {h : Handler} (hc : Connecting h₀ h) (hw : h₀.remoteSdp.WF) :
    h.remoteSdp.lines = h₀.remoteSdp.lines := by
  rcases hc.remote with hr | ⟨role, hrole, hr⟩
  · rw [hr]
  · rw [hr, hw.lines_updateDtlsRole hrole]

end Handler

section Legacy

private theorem line_addLegacySimulcast {m m' : MediaObject} {n : Nat}
    (h : addLegacySimulcast m n = .ok m') : m'.line = m.line := by
  by_cases hn : n ≤ 1
  · rw [addLegacySimulcast, if_pos hn] at h
    rw [Except.ok.inj h]
  · obtain ⟨line, rtxSsrc, cname, msid, -, -, rfl⟩ := addLegacySimulcast_eq_ok (by omega) h
    rfl

private theorem lines_withLegacySimulcast {offer offer' : List MediaObject} {idx n : Nat}
    (h : SendHandler.withLegacySimulcast offer idx n = .ok offer') :
    offer'.map MediaObject.line = offer.map MediaObject.line := by
  unfold SendHandler.withLegacySimulcast at h
  split at h
  · cases h
  · next m hm =>
    obtain ⟨m', hm', h⟩ := bind_eq_ok.mp h
    rw [← pure_eq_ok.mp h, List.map_set, line_addLegacySimulcast hm']
    apply List.ext_getElem?
    intro i
    rw [List.getElem?_set]
    split
    · next hi =>
      subst hi
      obtain ⟨hlt, rfl⟩ := List.getElem?_eq_some_iff.mp hm
      simp [hlt]
    · rfl

end Legacy

namespace SendHandler

open Handler

variable {h₀ : Handler} {env : Surroundings} {p : Parameters} {kind : Kind}
  {encodings : List RtpEncodingParameters} {codecs : List (Option RtpCodecParameters)}

/-- The `try` block of `Send` either makes an offer that becomes the local description, or
throws and leaves the offer that was made, unless WebRTC could not apply it. -/
theorem offerTrack_spec {idx ref : Nat} (hw : h₀.pc.WF)
    (href : ref ∈ h₀.pc.transceivers.map RtpTransceiver.ref) :
    Triple (· = h₀) (offerTrack env encodings codecs idx ref)
      (fun res h ↦ ∃ offer, h₀.pc.Offered offer ∧
        Connecting { h₀ with pc := h₀.pc.withOffer offer } h ∧
        ∃ t ∈ (h₀.pc.withOffer offer).transceivers, t.ref = ref ∧ t.mid = some res.1)
      (Fails env fun h ↦ Connecting { h₀ with pc := h₀.pc.offering } h ∨ Errored h) := by
  unfold offerTrack
  refine Triple.bind ((createOffer_spec hw).except fun _ _ ↦ False.elim) fun offer ↦ ?_
  refine Triple.of_eq ?_
  rintro h₁ ⟨hoffer, hh₁⟩
  refine Triple.bind (Q := fun _ ↦ Connecting { h₀ with pc := h₀.pc.offering })
    (hh₁ ▸ (ensureTransport_spec "server").except fun _ _ h ↦ h.imp .inl) fun _ ↦ ?_
  refine Triple.bind (attempt_spec (Q := fun _ ↦ Connecting { h₀ with pc := h₀.pc.offering })
    (fun _ _ _ hs ↦ hs) fun _ hs ↦ .inl hs) fun mimeType ↦ ?_
  refine Triple.bind (attempt_spec (Q := fun offer' h ↦ h₀.pc.Offered offer' ∧
    Connecting { h₀ with pc := h₀.pc.offering } h)
    (fun offer' h hoffer' hc ↦ ⟨?_, hc⟩) fun _ hs ↦ .inl hs) fun offer' ↦ ?_
  · split at hoffer'
    · exact (lines_withLegacySimulcast hoffer').trans hoffer
    · exact Except.ok.inj hoffer' ▸ hoffer
  refine Triple.of_eq ?_
  rintro h₂ ⟨hoffer', hc⟩
  refine Triple.bind ((setLocalDescription_spec hw hoffer' hc.pc).except fun _ h hf ↦
    hf.imp fun hdeclined ↦ ?_) fun _ ↦ ?_
  · rcases hdeclined with ⟨-, rfl⟩ | ⟨-, herror⟩
    · exact .inl hc
    · exact .inr herror
  refine Triple.bind_get fun h₃ hh₃ ↦ ?_
  have hpc : h₃.pc = h₀.pc.withOffer offer' := by rw [hh₃]
  -- the transceiver is still there, and has the mid of its section
  obtain ⟨t, ht⟩ : ∃ t, h₃.pc.transceivers.find? (fun t ↦ t.ref == ref) = some t := by
    rw [hpc, ← Option.isSome_iff_exists, List.find?_isSome]
    rw [← hw.withOffer_refs offer'] at href
    obtain ⟨t, ht, hr⟩ := List.mem_map.mp href
    exact ⟨t, ht, by simp [hr]⟩
  have hmem := List.mem_of_find?_eq_some ht
  have hr : t.ref = ref := by simpa using List.find?_some ht
  rw [hpc] at hmem
  obtain ⟨i, c, -, -, hmid, -⟩ := hw.withOffer_section hoffer' hmem
  rw [ht, Option.bind_some, hmid]
  refine Triple.ret fun s hs ↦ ⟨offer', hoffer', ?_, t, hmem, hr, hmid⟩
  obtain rfl : s = h₃ := hs
  exact hh₃ ▸ ⟨rfl, hc.map, hc.data, hc.remote⟩

end SendHandler

open Handler PeerConnection

/-- A change of m= lines that closes some of them. -/
structure Closes (f : Line → Line) : Prop where
  mid : ∀ l, (f l).mid = l.mid
  type : ∀ l, (f l).type = l.type
  rejected : ∀ l, l.rejected = true → (f l).rejected = true

/-- Nothing is closed. -/
theorem closes_id : Closes id := ⟨fun _ ↦ rfl, fun _ ↦ rfl, fun _ h ↦ h⟩

/-- One section is closed. -/
theorem closes_closeLine (first mid : String) : Closes (RemoteSdp.closeLine first mid) :=
  ⟨fun _ ↦ rfl, fun _ ↦ rfl, fun l h ↦ by simp [RemoteSdp.closeLine, h]⟩

/-- The two sides of a sending transport agree: the remote description has the m= lines of the
next offer, all transceivers have their section, and nothing waits to be negotiated. -/
structure Aligned (h : Handler) : Prop where
  pc : h.pc.WF
  remote : h.remoteSdp.WF
  stable : h.pc.pendingLocal = none
  placed : h.pc.AllPlaced
  lines : h.remoteSdp.lines = h.pc.lines
  data : h.pc.DataSettled
  idle : h.pc.needsData = false
  hasData : h.hasDataChannelMediaSection = h.pc.dataMid.isSome

/-- A transceiver has no section in the remote description, and cannot get one: all mids there
are older than the next one. -/
structure Stray (h : Handler) : Prop where
  pc : h.pc.WF
  mirror : h.remoteSdp.Mirrors
  generated : ∀ mid ∈ h.remoteSdp.docMids, ∃ k < h.pc.midGenerator, mid = toString k
  stray : ∃ t ∈ h.pc.transceivers, ∀ mid, t.mid = some mid → mid ∉ h.remoteSdp.docMids

/-- Nothing can be negotiated any more. -/
def Stuck (h : Handler) : Prop := Stray h ∨ Errored h

namespace Aligned

variable {h h₀ : Handler} {env : Surroundings} {d : List MediaObject} {m : Option String}

private theorem congr (ha : Aligned h₀) (hpc : h.pc = h₀.pc) (hr : h.remoteSdp = h₀.remoteSdp)
    (hd : h.hasDataChannelMediaSection = h₀.hasDataChannelMediaSection) : Aligned h :=
  ⟨hpc ▸ ha.pc, hr ▸ ha.remote, hpc ▸ ha.stable, hpc ▸ ha.placed, by rw [hr, hpc, ha.lines],
    hpc ▸ ha.data, hpc ▸ ha.idle, by rw [hd, hpc, ha.hasData]⟩

/-- The state after an offer of `pc` and the answer in the remote description, which may close
sections of the offer. -/
theorem of_exchange (env : Surroundings) (h₀ : Handler) {pc : PeerConnection} (hw : pc.WF)
    (hd : pc.Offered d)
    (hr : h₀.remoteSdp.WF) {f : Line → Line} (hf : Closes f)
    (hlines : h₀.remoteSdp.lines = (d.map MediaObject.line).map f)
    (hdata : DataAgree m (d.map MediaObject.line)) (hdata' : DataAgree m h₀.remoteSdp.lines)
    (hstart : pc.dataMid = m ∨ pc.dataMid = none) (hpc : h₀.pc = pc.withOffer d)
    (hidle : pc.hasDataChannels = true → m ≠ none) :
    Triple (· = h₀) (setRemoteDescription env .answer)
      (fun _ h ↦ h.hasDataChannelMediaSection = h₀.hasDataChannelMediaSection ∧
        Aligned { h with hasDataChannelMediaSection := m.isSome })
      (Fails env (DeclinedRemote env)) := by
  have hkeys : h₀.remoteSdp.sdpObject.media.map MediaObject.key = d.map MediaObject.key := by
    have he := congrArg (List.map fun l : Line ↦ (l.mid, l.type)) hlines
    rw [RemoteSdp.lines, List.map_map, List.map_map, List.map_map] at he
    refine Eq.trans he (List.map_congr_left fun c _ ↦ ?_)
    exact Prod.ext (hf.mid c.line) (hf.type c.line)
  have hnodup : (d.map MediaObject.mid).Nodup := hd.mids ▸ hw.laid.mids
  have ha : pc.Answers d h₀.remoteSdp.sdpObject.media := by
    refine hw.answers hd hkeys fun c hc c' hc' hmid hrej ↦ ?_
    have hmem : c'.line ∈ (d.map MediaObject.line).map f := hlines ▸ List.mem_map_of_mem hc'
    obtain ⟨l, hl, hline⟩ := List.mem_map.mp hmem
    obtain ⟨c₂, hc₂, rfl⟩ := List.mem_map.mp hl
    have hmid₂ : c₂.mid = c'.mid := (hf.mid c₂.line).symm.trans (congrArg Line.mid hline)
    obtain rfl := List.inj_on_of_nodup_map hnodup hc₂ hc (hmid₂.trans hmid.symm)
    exact (congrArg Line.rejected hline).symm.trans (hf.rejected _ hrej)
  refine (setRemoteDescription_spec hw hd hpc ha).post ?_
  rintro _ _ ⟨nextRef, hn, rfl⟩
  obtain ⟨hmid, hsettled⟩ := hw.exchanged_data nextRef hd ha hdata hdata' hstart
  refine ⟨rfl, hw.exchanged hd ha hn, hr.getSdp, rfl, hw.exchanged_allPlaced hd, ?_,
    hsettled, ?_, ?_⟩
  · exact (hw.exchanged_lines hd ha hdata').symm
  · change (_ && pc.hasDataChannels) = false
    rw [hmid]
    cases hh : pc.hasDataChannels with
    | false => simp
    | true => simp [Option.isSome_iff_ne_none.mpr (hidle hh)]
  · exact congrArg Option.isSome hmid.symm

/-- The mids of the remote description are those of the sections of ours. -/
theorem docMids_eq (ha : Aligned h) : h.remoteSdp.docMids = h.pc.ours.map MediaObject.mid := by
  have he := congrArg (List.map Line.mid) ha.lines
  rw [RemoteSdp.lines, PeerConnection.lines, List.map_map, List.map_map] at he
  exact he

private theorem generated (ha : Aligned h) :
    ∀ mid ∈ h.remoteSdp.docMids, ∃ k < h.pc.midGenerator, mid = toString k := by
  intro mid hmid
  rw [ha.docMids_eq] at hmid
  obtain ⟨c, hc, rfl⟩ := List.mem_map.mp hmid
  exact ha.pc.generated c hc

end Aligned

/-- The mids of a remote description depend on its lines. -/
theorem RemoteSdp.docMids_of_lines {r r' : RemoteSdp} (h : r'.lines = r.lines) :
    r'.docMids = r.docMids := by
  have he := congrArg (List.map Line.mid) h
  rw [RemoteSdp.lines, RemoteSdp.lines, List.map_map, List.map_map] at he
  exact he

section Interrupted

variable {h h₀ : Handler} {kind : MediaType} {d : List MediaObject}

/-- The handler with a new transceiver. -/
def adding (h : Handler) (kind : MediaType) : Handler :=
  { h with pc := (h.pc.addTransceiver kind).2 }

/-- `Send` gives up before its offer is the local description. -/
theorem Aligned.stray_undo (ha : Aligned h₀) (hk : kind ≠ .application)
    (hc : Connecting { adding h₀ kind with pc := (adding h₀ kind).pc.offering } h) (ref : Nat) :
    Stray (onPc (SendHandler.undo ref) h) := by
  have hw : (adding h₀ kind).pc.WF := ha.pc.addTransceiver hk
  have hpc : h.pc = (adding h₀ kind).pc.offering := hc.pc
  have hr := hc.wf ha.remote
  have hdoc := RemoteSdp.docMids_of_lines (hc.lines ha.remote)
  have hundo : (SendHandler.undo ref h.pc).transceivers.map RtpTransceiver.core =
      h.pc.transceivers.map RtpTransceiver.core :=
    (clearTrack_core _ ref).trans (deactivate_core h.pc ref)
  have hcore := hundo.trans (hpc ▸ hw.offering_core)
  refine ⟨?_, hr.mirror, ?_, ?_⟩
  · exact (hpc ▸ hw.offering : h.pc.WF).congr hundo rfl rfl rfl rfl le_rfl le_rfl
  · intro mid hmid
    obtain ⟨k, hlt, hk⟩ := ha.generated mid (hdoc ▸ hmid)
    have hgen : (onPc (SendHandler.undo ref) h).pc.midGenerator =
        (adding h₀ kind).pc.offering.midGenerator := by
      rw [← hpc]
      rfl
    exact ⟨k, hgen ▸ hlt.trans_le hw.laid.later, hk⟩
  · -- the new transceiver has no mid
    have hmem : (h₀.pc.addTransceiver kind).1.core ∈
        (SendHandler.undo ref h.pc).transceivers.map RtpTransceiver.core := by
      rw [hcore]
      exact List.mem_map_of_mem (by simp [adding, PeerConnection.addTransceiver])
    obtain ⟨t, ht, he⟩ := List.mem_map.mp hmem
    refine ⟨t, ht, fun mid hmid ↦ ?_⟩
    simp only [RtpTransceiver.core, Prod.mk.injEq] at he
    rw [he.2.2.1] at hmid
    cases hmid

/-- `Send` gives up when its offer is the local description. -/
theorem Aligned.stray_offer (ha : Aligned h₀) (hk : kind ≠ .application)
    (hd : (adding h₀ kind).pc.Offered d)
    (hc : Connecting { adding h₀ kind with pc := (adding h₀ kind).pc.withOffer d } h) :
    Stray h := by
  have hw : (adding h₀ kind).pc.WF := ha.pc.addTransceiver hk
  have hpc : h.pc = (adding h₀ kind).pc.withOffer d := hc.pc
  have hr := hc.wf ha.remote
  have hdoc := RemoteSdp.docMids_of_lines (hc.lines ha.remote)
  refine ⟨hpc ▸ hw.withOffer hd, hr.mirror, ?_, ?_⟩
  · intro mid hmid
    obtain ⟨k, hlt, hk⟩ := ha.generated mid (hdoc ▸ hmid)
    refine ⟨k, ?_, hk⟩
    rw [hpc]
    exact hlt.trans_le hw.laid.later
  · -- the new transceiver has a mid that is newer than all mids of the remote description
    have hmem : (h₀.pc.addTransceiver kind).1 ∈ (adding h₀ kind).pc.transceivers := by
      simp [adding, PeerConnection.addTransceiver]
    obtain ⟨t, ht, -, -, -, hnew⟩ := hw.withOffer_transceiver hd hmem
    obtain ⟨k, hle, hmid⟩ := hnew rfl
    refine ⟨t, hpc ▸ ht, fun mid hm hdocmid ↦ ?_⟩
    obtain ⟨k', hlt, hk'⟩ := ha.generated mid (hdoc ▸ hdocmid)
    have heq : toString k = toString k' := by
      rw [← hk']
      exact Option.some.inj (hmid.symm.trans hm)
    have hkk := toString_injective heq
    have hle : h₀.pc.midGenerator ≤ k := hle
    omega

end Interrupted

namespace SendHandler

variable {h : Handler} {env : Surroundings} {p : Parameters} {kind : Kind}
  {encodings : List RtpEncodingParameters} {options : Option ProducerCodecOptions}
  {codecs remoteCodecs : List (Option RtpCodecParameters)} {idx : Nat} {reuseMid localId : String}
  {hackVp9Svc : Bool} {r' : RemoteSdp} {rtp : RtpParameters}

/-- The section that answers the track is made for the section of the offer at the position
that was chosen before. -/
theorem answerTrack_ok (h₁ : answerTrack env p kind encodings options codecs remoteCodecs idx
      reuseMid localId hackVp9Svc h = .ok (r', rtp)) :
    ∃ (offer : MediaObject) (m : MediaSection), h.pc.ours[idx]? = some offer ∧
      m.MadeFor h.remoteSdp.transport offer.mid offer.type ∧
      (if reuseMid.isEmpty then .ok (h.remoteSdp.addMediaSection m)
        else h.remoteSdp.replaceMediaSection m reuseMid) = .ok r' := by
  unfold answerTrack at h₁
  split at h₁
  · cases h₁
  · next offer hoffer =>
    obtain ⟨encodings', -, h₁⟩ := bind_eq_ok.mp h₁
    obtain ⟨mimeType, -, h₁⟩ := bind_eq_ok.mp h₁
    obtain ⟨answerCodecs, -, h₁⟩ := bind_eq_ok.mp h₁
    obtain ⟨m, hm, hput⟩ := RemoteSdp.send_eq_ok h₁
    exact ⟨offer, m, hoffer, hm, hput⟩

end SendHandler

namespace PeerConnection.DataAgree

variable {m : Option String} {ls : List Line}

/-- The section of a track is none for the data channels. -/
theorem place (h : DataAgree m ls) {l : Line} (hl : l.type ≠ .application) :
    DataAgree m (place Line.rejected l ls) where
  used l' hl' happ := by
    rcases mem_place hl' with rfl | hl'
    · exact absurd happ hl
    · exact h.used l' hl' happ
  known mid hmid := by
    obtain ⟨l', hl', happ, hm⟩ := h.known mid hmid
    exact ⟨l', mem_place_of_not_free hl' (h.used l' hl' happ).2, happ, hm⟩

/-- Nor is the closed section of a track. -/
theorem close (h : DataAgree m ls) {first mid : String}
    (hne : ∀ l ∈ ls, l.type = .application → l.mid ≠ mid) :
    DataAgree m (ls.map (RemoteSdp.closeLine first mid)) where
  used l' hl' happ := by
    obtain ⟨l, hl, rfl⟩ := List.mem_map.mp hl'
    obtain ⟨hm, hrej⟩ := h.used l hl happ
    exact ⟨hm, by simp [RemoteSdp.closeLine, hrej, hne l hl happ]⟩
  known mid' hmid := by
    obtain ⟨l, hl, happ, hm⟩ := h.known mid' hmid
    exact ⟨_, List.mem_map_of_mem hl, happ, hm⟩

/-- The section for data channels comes last. -/
theorem append (h : DataAgree none ls) (mid : String) :
    DataAgree (some mid) (ls ++ [⟨mid, .application, false⟩]) where
  used l hl happ := by
    rcases List.mem_append.mp hl with hl | hl
    · exact absurd (h.used l hl happ).1 (by simp)
    · obtain rfl := List.mem_singleton.mp hl
      exact ⟨rfl, rfl⟩
  known mid' hmid := by
    obtain rfl := Option.some.inj hmid
    exact ⟨⟨mid, .application, false⟩, by simp, rfl, rfl⟩

end PeerConnection.DataAgree

namespace Aligned

variable {h h₀ : Handler} {env : Surroundings} {d : List MediaObject}

private theorem hidle (ha : Aligned h) (hd : h.pc.hasDataChannels = true) :
    h.pc.dataMid ≠ none := by
  intro hnone
  have := ha.idle
  simp [needsData, hnone, hd] at this

/-- The answer to a new track. -/
theorem of_answerTrack {p : SendHandler.Parameters} {kind : Kind}
    {encodings : List RtpEncodingParameters} {options : Option ProducerCodecOptions}
    {codecs remoteCodecs : List (Option RtpCodecParameters)} {localId : String} {hackVp9Svc : Bool}
    (ha : Aligned h₀) (hd : (adding h₀ (mediaTypeOf kind)).pc.Offered d)
    (hc : Connecting { adding h₀ (mediaTypeOf kind) with
      pc := (adding h₀ (mediaTypeOf kind)).pc.withOffer d } h)
    {r : RemoteSdp} {rtp : RtpParameters}
    (hr : SendHandler.answerTrack env p kind encodings options codecs remoteCodecs
      h₀.remoteSdp.getNextMediaSectionIdx.1 h₀.remoteSdp.getNextMediaSectionIdx.2 localId
        hackVp9Svc h =
        .ok (r, rtp)) :
    r.WF ∧ r.lines = d.map MediaObject.line ∧ DataAgree h₀.pc.dataMid (d.map MediaObject.line) := by
  have hk : mediaTypeOf kind ≠ .application := by cases kind <;> simp [mediaTypeOf]
  have hlines := hd.trans (ha.pc.offer_lines_add ha.data ha.placed ha.idle hk)
  have hw := hc.wf ha.remote
  have hsame := hc.lines ha.remote
  have hnext : h.remoteSdp.getNextMediaSectionIdx = h₀.remoteSdp.getNextMediaSectionIdx := by
    rw [hw.getNextMediaSectionIdx_eq, ha.remote.getNextMediaSectionIdx_eq, hsame]
    rfl
  obtain ⟨offer, m, hoffer, hm, hput⟩ := SendHandler.answerTrack_ok hr
  -- the section at that position is the new one
  have hours : h.pc.ours = d := by rw [hc.pc]; rfl
  have hline : offer.line = ⟨toString h₀.pc.midGenerator, mediaTypeOf kind, false⟩ := by
    have hget := getElem?_place_findIdx Line.rejected
      (⟨toString h₀.pc.midGenerator, mediaTypeOf kind, false⟩ : Line) h₀.pc.lines
    rw [← hlines, List.getElem?_map, ← ha.lines] at hget
    rw [ha.remote.getNextMediaSectionIdx_eq, hours] at hoffer
    rw [hoffer, Option.map_some] at hget
    exact Option.some.inj hget
  simp only [MediaObject.line, Line.mk.injEq] at hline
  have hfresh : offer.mid ∉ h.remoteSdp.mids := by
    rw [hw.mids_eq, hsame, hline.1]
    exact ha.lines ▸ ha.pc.next_notMem_lines
  have hne : offer.mid ≠ "" := by
    rw [hline.1, Nat.toString_eq_repr]
    simp
  obtain ⟨hwf, hr⟩ := hw.lines_put hm hfresh hne (congrArg Prod.snd hnext.symm) hput
  have hresult : r.lines = d.map MediaObject.line := by
    rw [hr, hlines, hsame, hline.1, hline.2.1]
    exact congrArg _ ha.lines
  exact ⟨hwf, hresult, hlines ▸ ha.data.agree.place hk⟩

/-- A track is sent, or `Send` gives up before it has changed anything, or too late. -/
theorem send {p : SendHandler.Parameters} {kind : Kind} {encodings : List RtpEncodingParameters}
    {options : Option ProducerCodecOptions} {codec : Option CodecKey} (ha : Aligned h₀) :
    Triple (· = h₀) (SendHandler.send env p kind encodings options codec)
      (fun _ h ↦ Aligned h)
      (Fails env fun h ↦ h = h₀ ∨ Stuck h ∨ env.remoteContents = .refused) := by
  have hk : mediaTypeOf kind ≠ .application := by cases kind <;> simp [mediaTypeOf]
  have hw : (adding h₀ (mediaTypeOf kind)).pc.WF := ha.pc.addTransceiver hk
  unfold SendHandler.send
  refine Triple.bind (attempt_spec (Q := fun _ ↦ (· = h₀)) (fun _ _ _ hs ↦ hs)
    fun _ hs ↦ .inl hs) fun codecs ↦ ?_
  refine Triple.bind (attempt_spec (Q := fun _ ↦ (· = h₀)) (fun _ _ _ hs ↦ hs)
    fun _ hs ↦ .inl hs) fun remoteCodecs ↦ ?_
  refine Triple.bind_get fun h hh ↦ ?_
  obtain rfl : h = h₀ := hh
  refine Triple.bind (attempt_spec (Q := fun _ ↦ (· = h)) (fun _ _ _ hs ↦ hs)
    fun _ hs ↦ .inl hs) fun _ ↦ ?_
  refine Triple.bind (Q := fun _ ↦ (· = adding h (mediaTypeOf kind)))
    (Triple.modify fun s hs ↦ by rw [hs]; rfl) fun _ ↦ ?_
  -- the `try` block: on a failure the new transceiver stays behind
  have hmem :
      h.pc.nextRef ∈ (adding h (mediaTypeOf kind)).pc.transceivers.map RtpTransceiver.ref := by
    simp [adding, PeerConnection.addTransceiver]
  refine Triple.bind (Triple.tryCatch (SendHandler.offerTrack_spec hw hmem) fun e ↦ ?_) fun res ↦ ?_
  · refine Triple.bind (Q := fun _ ↦ Fails env _ e)
      (Triple.modify fun s hs ↦ ⟨hs.1, .inr (.inl ?_)⟩)
      fun _ ↦ Triple.raise fun _ hs ↦ hs
    rcases hs.2 with hc | herror
    · exact .inl (ha.stray_undo hk hc _)
    · exact .inr herror
  refine Triple.bind_get ?_
  rintro h₁ ⟨offer, hoffer, hc, hres⟩
  refine Triple.bind (attempt_spec (Q := fun r s ↦ s = h₁ ∧ r.1.WF ∧
      r.1.lines = offer.map MediaObject.line ∧ DataAgree h.pc.dataMid (offer.map MediaObject.line))
    (fun r s hr hs ↦ ⟨hs, ha.of_answerTrack hoffer hc hr⟩)
    fun s hs ↦ .inr (.inl (.inl (hs ▸ ha.stray_offer hk hoffer hc)))) fun r ↦ ?_
  refine Triple.of_eq ?_
  rintro h₂ ⟨hh₂, hr, hlines, hdata⟩
  refine Triple.bind (Q := fun _ ↦ (· = { h₁ with remoteSdp := r.1 }))
    (Triple.modify fun s hs ↦ by rw [hs, hh₂]; rfl) fun _ ↦ ?_
  have hexchange := of_exchange env { h₁ with remoteSdp := r.1 } hw hoffer hr closes_id
    (hlines.trans (List.map_id _).symm) hdata (hlines ▸ hdata) (.inl rfl) hc.pc ha.hidle
  refine Triple.bind (hexchange.except fun _ _ hf ↦ hf.imp fun hdeclined ↦ ?_) fun _ ↦ ?_
  · rcases hdeclined with hrefused | ⟨-, herror⟩
    · exact .inr (.inr hrefused)
    · exact .inr (.inl (.inr herror))
  refine Triple.bind (Q := fun _ ↦ Aligned) (Triple.modify fun s hs ↦ ?_) fun _ ↦
    Triple.ret fun _ hs ↦ hs
  refine hs.2.congr rfl rfl (hs.1.trans ?_)
  exact hc.data.trans ha.hasData

/-- Changes of transceivers that the negotiation does not see. -/
theorem of_core (ha : Aligned h) {ts : List RtpTransceiver}
    (hts : ts.map RtpTransceiver.core = h.pc.transceivers.map RtpTransceiver.core) :
    Aligned { h with pc := { h.pc with transceivers := ts } } := by
  have hmids : ts.map RtpTransceiver.mid = h.pc.transceivers.map RtpTransceiver.mid := by
    have he := congrArg (List.map fun c ↦ c.2.2.1) hts
    rwa [List.map_map, List.map_map] at he
  have hfind (mid : String) :
      (findByMid ts mid).isNone = (findByMid h.pc.transceivers mid).isNone := by
    have hsame (ts : List RtpTransceiver) : (findByMid ts mid).isNone =
        ((ts.map RtpTransceiver.mid).find? (· == some mid)).isNone := by
      rw [List.find?_map, Option.isNone_map]
      rfl
    rw [hsame, hsame, hmids]
  have hlines : PeerConnection.lines { h.pc with transceivers := ts } = h.pc.lines := by
    refine List.map_congr_left fun c _ ↦ ?_
    rw [lineOf, lineOf, hfind]
  refine ⟨ha.pc.congr hts rfl rfl rfl rfl le_rfl le_rfl, ha.remote, ha.stable, ?_,
    ha.lines.trans hlines.symm, ⟨hlines.symm ▸ ha.data.agree, ha.data.used⟩, ha.idle, ha.hasData⟩
  intro t ht
  obtain ⟨t₀, ht₀, he⟩ := List.mem_map.mp (hmids ▸ List.mem_map_of_mem ht)
  exact he ▸ ha.placed t₀ ht₀

/-- An offer without anything new, and an answer that may close sections. -/
theorem renegotiate (ha : Aligned h₀) {r : RemoteSdp} (hr : r.WF) {f : Line → Line} (hf : Closes f)
    (hlines : r.lines = h₀.pc.lines.map f) (hdata : DataAgree h₀.pc.dataMid r.lines) :
    Triple (· = { h₀ with remoteSdp := r }) (SendHandler.renegotiate env) (fun _ ↦ Aligned)
      (Fails env fun _ ↦ True) := by
  unfold SendHandler.renegotiate
  have hcreate : Triple (· = { h₀ with remoteSdp := r }) (Handler.createOffer env) _ Never :=
    createOffer_spec ha.pc
  refine Triple.bind (hcreate.except fun _ _ ↦ False.elim) fun offer ↦ ?_
  refine Triple.of_eq ?_
  rintro h₁ ⟨hoffer, hh₁⟩
  have hoffer : h₀.pc.Offered offer := hoffer
  have hl := hoffer.trans (ha.pc.offer_lines ha.data ha.placed ha.idle)
  refine Triple.bind ((setLocalDescription_spec ha.pc hoffer (by rw [hh₁])).except fun _ _ hf ↦
    hf.imp fun _ ↦ trivial) fun _ ↦ ?_
  refine Triple.of_eq fun h₂ hh₂ ↦ ?_
  have hremote : h₂.remoteSdp = r := by rw [hh₂, hh₁]
  have hagree : DataAgree h₀.pc.dataMid (offer.map MediaObject.line) := hl ▸ ha.data.agree
  refine (of_exchange env h₂ ha.pc hoffer (hremote ▸ hr) hf (by rw [hremote, hlines, hl]) hagree
    (hremote ▸ hdata) (.inl rfl) (by rw [hh₂]) ha.hidle).conseq (fun _ h ↦ h) (fun _ h hs ↦ ?_)
    fun _ _ hf ↦ hf.imp fun _ ↦ trivial
  refine hs.2.congr rfl rfl (hs.1.trans ?_)
  rw [hh₂, hh₁]
  exact ha.hasData

/-- New credentials are negotiated once the transport is ready. -/
theorem restartIce (ha : Aligned h₀) (ice : IceParameters) :
    Triple (· = h₀) (SendHandler.restartIce env ice) (fun _ ↦ Aligned)
      (Fails env fun _ ↦ True) := by
  have hw := ha.remote.updateIceParameters ice
  have hl := ha.remote.lines_updateIceParameters ice
  refine Triple.bind
    (Q := fun _ ↦ (· = { h₀ with remoteSdp := h₀.remoteSdp.updateIceParameters ice }))
    (Triple.modify fun s hs ↦ by rw [hs]; rfl) fun _ ↦ ?_
  refine Triple.bind_get fun h hh ↦ ?_
  split
  · refine (ha.renegotiate hw closes_id (hl.trans (ha.lines.trans (List.map_id _).symm)) ?_).pre
      fun s hs ↦ hs.trans hh
    rw [hl, ha.lines]
    exact ha.data.agree
  · refine Triple.ret fun s hs ↦ ?_
    rw [hs, hh]
    exact ⟨ha.pc, hw, ha.stable, ha.placed, hl.trans ha.lines, ha.data, ha.idle, ha.hasData⟩

/-- The transceiver of a local id is one of the peer connection. -/
theorem findTransceiver_mem {localId : String} {t : RtpTransceiver}
    (h₁ : SendHandler.findTransceiver localId h = .ok t) : t ∈ h.pc.transceivers := by
  unfold SendHandler.findTransceiver at h₁
  split at h₁
  · cases h₁
  · split at h₁
    · cases h₁
    · next hf =>
      obtain rfl := Except.ok.inj h₁
      exact List.mem_of_find?_eq_some hf

/-- A track is replaced without a negotiation. -/
theorem replaceTrack (ha : Aligned h₀) (localId : String) (track : Bool) :
    Triple (· = h₀) (SendHandler.replaceTrack localId track) (fun _ ↦ Aligned)
      (Fails env fun _ ↦ True) := by
  refine Triple.bind_get fun h hh ↦ ?_
  obtain rfl : h = h₀ := hh
  refine Triple.bind (attempt_spec (Q := fun _ ↦ (· = h)) (fun _ _ _ hs ↦ hs) fun _ _ ↦ trivial)
    fun t ↦ ?_
  refine Triple.modify fun s hs ↦ ?_
  rw [hs]
  exact ha.of_core
    (updateTransceiver_core _ _ (f := fun t ↦ { t with hasTrack := track }) fun _ ↦ rfl)

/-- A sender is stopped, and its section closed. -/
theorem stopSending (ha : Aligned h₀) (localId : String) :
    Triple (· = h₀) (SendHandler.stopSending env localId) (fun _ ↦ Aligned)
      (Fails env fun _ ↦ True) := by
  refine Triple.bind_get fun h hh ↦ ?_
  obtain rfl : h = h₀ := hh
  refine Triple.bind (attempt_spec (Q := fun t s ↦ t ∈ h.pc.transceivers ∧ s = h)
    (fun t _ ht hs ↦ ⟨findTransceiver_mem ht, hs⟩) fun _ _ ↦ trivial) fun t ↦ ?_
  refine Triple.of_eq ?_
  rintro h₁ ⟨ht, hh₁⟩
  obtain ⟨mid, hmid⟩ := Option.ne_none_iff_exists'.mp (ha.placed t ht)
  obtain ⟨c, hc, hcmid, hty⟩ := ha.pc.placed t ht mid hmid
  -- the track is taken off the sender, which the negotiation does not see
  set pc := (h.pc.clearTrack t.ref).removeTrack t.ref with hpc
  have hcore :
      pc.transceivers.map RtpTransceiver.core = h.pc.transceivers.map RtpTransceiver.core :=
    (removeTrack_core _ _).trans (clearTrack_core _ _)
  have ha' : Aligned { h with pc := pc } := ha.of_core hcore
  have hmem : mid ∈ h.remoteSdp.mids := by
    have hdoc : h.remoteSdp.docMids = h.remoteSdp.mids :=
      RemoteSdp.Mirrors.docMids_eq ha.remote.mirror
    rw [← hdoc, ha.docMids_eq, ← hcmid]
    exact List.mem_map_of_mem hc
  obtain ⟨r, hclose, hr, hlines⟩ := ha.remote.lines_closeMediaSection hmem
  refine Triple.bind (Q := fun _ ↦ (· = { h with pc := pc })) (Triple.modify fun s hs ↦ by
    rw [hs, hh₁]; rfl) fun _ ↦ ?_
  simp only [hmid, hclose]
  refine Triple.bind (Q := fun r' s ↦ r' = r ∧ s = { h with pc := pc })
    (Triple.lift (fun r' s hr' hs ↦ ⟨(Except.ok.inj hr').symm, hs⟩) fun e s he ↦ by cases he)
      fun r' ↦ ?_
  refine Triple.of_eq ?_
  rintro h₂ ⟨hr', hh₂⟩
  refine Triple.bind (Q := fun _ ↦ (· = { h with pc := pc, remoteSdp := r }))
    (Triple.modify fun s hs ↦ by
    rw [hs, hh₂, hr']; rfl) fun _ ↦ ?_
  have hl : r.lines = pc.lines.map (RemoteSdp.closeLine h.remoteSdp.firstMid mid) := by
    rw [hlines]
    exact congrArg _ ha'.lines
  refine ha'.renegotiate hr (closes_closeLine _ mid) hl ?_
  rw [hl]
  refine ha'.data.agree.close fun l hline happ hlmid ↦ ?_
  obtain ⟨c', hc', rfl⟩ := List.mem_map.mp hline
  obtain rfl := ha.pc.section_eq hc' hc (hlmid.trans hcmid.symm)
  exact ha.pc.media t ht (hty.symm.trans happ)

/-- The data channel has been created. -/
theorem hasDataChannels_createDataChannel {pc pc' : PeerConnection} {sid : Nat}
    (h : pc.createDataChannel sid = some pc') : ∃ a : Native.Jni.SctpSidAllocator,
      pc' = { pc with sidAllocator := a } ∧ pc'.hasDataChannels = true := by
  obtain ⟨a, ha, rfl⟩ := Option.map_eq_some_iff.mp h
  refine ⟨a, rfl, ?_⟩
  unfold Native.Jni.SctpSidAllocator.reserveSid at ha
  split at ha
  · obtain rfl := Option.some.inj ha
    simp [hasDataChannels]
  · cases ha

/-- The negotiation of the first data channel. -/
theorem offerData (hw : h₀.pc.WF) (hr : h₀.remoteSdp.WF) (hp : h₀.pc.AllPlaced)
    (hlines : h₀.remoteSdp.lines = h₀.pc.lines) (hs : h₀.pc.DataSettled)
    (hneeds : h₀.pc.needsData = true) :
    Triple (· = h₀) (SendHandler.offerData env) (fun _ ↦ Aligned) (Fails env fun _ ↦ True) := by
  have hnone : h₀.pc.dataMid = none := by
    simp only [needsData, Bool.and_eq_true, Option.isNone_iff_eq_none] at hneeds
    exact hneeds.1
  have hagree : DataAgree none h₀.pc.lines := hnone ▸ hs.agree
  unfold SendHandler.offerData
  refine Triple.bind ((createOffer_spec hw).except fun _ _ ↦ False.elim) fun offer ↦ ?_
  refine Triple.of_eq ?_
  rintro h₁ ⟨hoffer, hh₁⟩
  set new : Line := ⟨toString h₀.pc.midGenerator, .application, false⟩ with hnew
  have hl : offer.map MediaObject.line = h₀.pc.lines ++ [new] :=
    hoffer.trans (hw.offer_lines_data hs hp hneeds)
  split
  · exact Triple.raise fun _ _ ↦ fails_thrown _ trivial
  · next c hfind =>
    have hline : c.line = new := by
      have hmem : c.line ∈ offer.map MediaObject.line :=
        List.mem_map_of_mem (List.mem_of_find?_eq_some hfind)
      have happ : c.type = .application := by simpa using List.find?_some hfind
      rw [hl] at hmem
      rcases List.mem_append.mp hmem with hmem | hmem
      · exact absurd (hagree.of_mem hmem happ).1 (by simp)
      · exact List.mem_singleton.mp hmem
    refine Triple.bind ((ensureTransport_spec "server").except fun _ _ hf ↦
      hf.imp fun _ ↦ trivial) fun _ ↦ ?_
    refine Triple.of_eq fun h₂ hc ↦ ?_
    refine Triple.bind ((setLocalDescription_spec hw hoffer (by rw [hc.pc, hh₁])).except
      fun _ _ hf ↦ hf.imp fun _ ↦ trivial) fun _ ↦ ?_
    refine Triple.bind_get fun h₃ hh₃ ↦ ?_
    have hr₃ : h₃.remoteSdp.WF := by
      rw [hh₃]
      exact hc.wf (by rw [hh₁]; exact hr)
    have hl₃ : h₃.remoteSdp.lines = h₀.pc.lines := by
      rw [hh₃]
      refine (hc.lines (by rw [hh₁]; exact hr)).trans ?_
      rw [hh₁]
      exact hlines
    refine Triple.bind (attempt_spec (Q := fun r s ↦ s = h₃ ∧ r.WF ∧ r.lines = h₀.pc.lines ++ [new])
      (fun r s hsend hs ↦ ⟨hs, ?_⟩) fun _ _ ↦ trivial) fun r ↦ ?_
    · obtain ⟨m, hm, rfl⟩ := RemoteSdp.sendSctpAssociation_eq_ok hsend
      simp only [MediaObject.line, hnew, Line.mk.injEq] at hline
      rw [hline.1, hline.2.1] at hm
      have hfresh : toString h₀.pc.midGenerator ∉ h₃.remoteSdp.mids := by
        rw [hr₃.mids_eq, hl₃]
        exact hw.next_notMem_lines
      have hne : toString h₀.pc.midGenerator ≠ "" := by
        rw [Nat.toString_eq_repr]
        simp
      exact hl₃ ▸ hr₃.lines_addMediaSection hm hfresh hne
    refine Triple.of_eq ?_
    rintro h₄ ⟨hh₄, hr₄, hl₄⟩
    refine Triple.bind (Q := fun _ ↦ (· = { h₃ with remoteSdp := r })) (Triple.modify fun s hs ↦ by
      rw [hs, hh₄]; rfl) fun _ ↦ ?_
    have hexchange := of_exchange env { h₃ with remoteSdp := r } hw hoffer hr₄ closes_id
      (hl₄.trans (hl.symm.trans (List.map_id _).symm)) (hl ▸ hagree.append _)
      (hl₄ ▸ hagree.append _)
      (.inr hnone) (by rw [hh₃]) (by simp)
    refine Triple.bind (hexchange.except fun _ _ hf ↦ hf.imp fun _ ↦ trivial) fun _ ↦ ?_
    exact Triple.modify fun s hs ↦ hs.2.congr rfl rfl rfl

/-- A data channel is sent, and the first one gets its section. -/
theorem sendDataChannel (ha : Aligned h₀) (init : SendHandler.DataChannelInit) :
    Triple (· = h₀) (SendHandler.sendDataChannel env init) (fun _ ↦ Aligned)
      (Fails env fun _ ↦ True) := by
  unfold SendHandler.sendDataChannel
  refine Triple.bind_get fun h hh ↦ ?_
  obtain rfl : h = h₀ := hh
  refine Triple.bind (attempt_spec (Q := fun _ ↦ (· = h)) (fun _ _ _ hs ↦ hs)
    fun _ _ ↦ trivial) fun parameters ↦ ?_
  split
  · exact Triple.raise fun _ _ ↦ fails_thrown _ trivial
  · next pc hpc =>
    obtain ⟨a, rfl, hdata⟩ := hasDataChannels_createDataChannel hpc
    have hw : PeerConnection.WF { h.pc with sidAllocator := a } :=
      ha.pc.congr rfl rfl rfl rfl rfl le_rfl le_rfl
    set h₁ : Handler := { h with
      pc := { h.pc with sidAllocator := a }
      nextSendSctpStreamId := (h.nextSendSctpStreamId + 1) % SendHandler.sctpNumStreamsMis }
      with hh₁
    refine Triple.bind (Q := fun _ ↦ (· = h₁)) (Triple.modify fun s hs ↦ by rw [hs]) fun _ ↦ ?_
    split
    · next hhas =>
      refine Triple.ret fun s hs ↦ ?_
      rw [hs]
      have hnot : h.pc.dataMid.isNone = false := by
        rw [Option.isNone_eq_false_iff]
        exact ha.hasData ▸ hhas
      refine ⟨hw, ha.remote, ha.stable, ha.placed, ha.lines, ⟨ha.data.agree, ha.data.used⟩, ?_,
        ha.hasData⟩
      change (h.pc.dataMid.isNone && _) = false
      rw [hnot, Bool.false_and]
    · next hhas =>
      have hnone : h.pc.dataMid.isNone = true := by
        rw [ha.hasData] at hhas
        simpa using hhas
      have hneeds : h₁.pc.needsData = true := by
        change (h.pc.dataMid.isNone && _) = true
        rw [hnone, hdata, Bool.and_self]
      exact Triple.bind
        (offerData hw ha.remote ha.placed ha.lines ⟨ha.data.agree, ha.data.used⟩ hneeds)
        fun _ ↦ Triple.ret fun _ hs ↦ hs

end Aligned

end RtcClient.Sdp
