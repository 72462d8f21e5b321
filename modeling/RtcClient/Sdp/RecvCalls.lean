import RtcClient.Sdp.SendCalls
import RtcClient.Sdp.RemoteOffers

/-!
# Calls of a receive handler

What `Receive`, `ReceiveDataChannel`, `StopReceiving` and `RestartIce`
(`deps/libmediasoupclient/src/Handler.cpp`) do to the two sides of a receiving transport. The
remote description offers and WebRTC answers, so that a call that stops half-way leaves an offer
without its answer, and the next call offers again: nothing is out of step, as long as a new
section has a new mid.
-/

namespace RtcClient.Sdp

open RtcClient.Ortc RtcClient.Lib RtcClient.Native Handler PeerConnection

section Lines

variable {ls : List Line} {mid : String} {type : MediaType}

private theorem Closes.follows {f : Line → Line} (hf : Closes f)
    (hnodup : (ls.map Line.mid).Nodup) :
    Follows ls (ls.map f) where
  length := by simp
  place i l l' hl hl' := by
    rw [List.getElem?_map, hl, Option.map_some, Option.some.injEq] at hl'
    subst hl'
    exact .inl ⟨hf.mid l, hf.type l⟩
  origin l' hl' := by
    obtain ⟨l, hl, rfl⟩ := List.mem_map.mp hl'
    exact .inl ⟨l, hl, hf.mid l, hf.type l, hf.rejected l⟩
  nodup := by
    rw [List.map_map]
    exact (List.map_congr_left fun l _ ↦ hf.mid l) ▸ hnodup

private theorem follows_place (hnew : mid ∉ ls.map Line.mid)
    (hnodup : ((place Line.rejected ⟨mid, type, false⟩ ls).map Line.mid).Nodup) :
    Follows ls (place Line.rejected ⟨mid, type, false⟩ ls) where
  length := length_place_le _ _ _
  place i l l' hl hl' := by
    rw [getElem?_place] at hl'
    split at hl'
    · next hi =>
      obtain rfl := Option.some.inj hl'
      subst hi
      obtain ⟨hlt, rfl⟩ := List.getElem?_eq_some_iff.mp hl
      exact .inr ⟨List.findIdx_getElem, rfl⟩
    · rw [hl] at hl'
      obtain rfl := Option.some.inj hl'
      exact .inl ⟨rfl, rfl⟩
  origin l' hl' := by
    rcases mem_place hl' with rfl | hl'
    · exact .inr ⟨hnew, rfl⟩
    · exact .inl ⟨l', hl', rfl, rfl, id⟩
  nodup := hnodup

private theorem follows_append (hnew : mid ∉ ls.map Line.mid)
    (hnodup : ((ls ++ [(⟨mid, type, false⟩ : Line)]).map Line.mid).Nodup) :
    Follows ls (ls ++ [⟨mid, type, false⟩]) where
  length := by simp
  place i l l' hl hl' := by
    obtain ⟨hlt, -⟩ := List.getElem?_eq_some_iff.mp hl
    rw [List.getElem?_append_left hlt, hl] at hl'
    obtain rfl := Option.some.inj hl'
    exact .inl ⟨rfl, rfl⟩
  origin l' hl' := by
    rcases List.mem_append.mp hl' with hl' | hl'
    · exact .inl ⟨l', hl', rfl, rfl, id⟩
    · obtain rfl := List.mem_singleton.mp hl'
      exact .inr ⟨hnew, rfl⟩
  nodup := hnodup

end Lines

/-- Before the transport is ready nothing has been answered, no receiver is known and no section
has been closed. -/
structure Early (h : Handler) : Prop where
  unanswered : h.pc.currentLocal = none
  unmapped : h.mapMidTransceiver = ∅
  noData : h.hasDataChannelMediaSection = false
  opened : ∀ l ∈ h.remoteSdp.lines, l.rejected = false

/-- The two sides of a receiving transport agree: the sections of the remote description are
those that WebRTC has been offered. -/
structure RecvAligned (h : Handler) : Prop where
  pc : h.pc.Answerer
  remote : h.remoteSdp.WF
  lines : h.remoteSdp.lines = h.pc.theirs.map MediaObject.line
  dataMid : ∀ l ∈ h.remoteSdp.lines, l.type = .application → l.mid = "datachannel"
  early : h.transportReady = false → Early h

/-- The remote description of a receiving transport has been changed and is to be offered; `m`
is the mid of the data channels in it. -/
structure ToOffer (h : Handler) (m : Option String) : Prop where
  pc : h.pc.Answerer
  remote : h.remoteSdp.WF
  follows : Follows (h.pc.theirs.map MediaObject.line) h.remoteSdp.lines
  data : DataAgree m h.remoteSdp.lines
  start : h.pc.dataMid = m ∨ h.pc.dataMid = none
  dataMid : ∀ l ∈ h.remoteSdp.lines, l.type = .application → l.mid = "datachannel"
  early : h.transportReady = false → Early h

namespace ToOffer

variable {h h₀ : Handler} {env : Surroundings} {m : Option String}

private theorem validMids (ho : ToOffer h₀ m) :
    PeerConnection.validMids h₀.remoteSdp.sdpObject.media = true := by
  have hmids : h₀.remoteSdp.sdpObject.media.map MediaObject.mid = h₀.remoteSdp.mids := by
    rw [ho.remote.mids_eq, RemoteSdp.lines, List.map_map]
    rfl
  simp only [PeerConnection.validMids, hmids, Bool.and_eq_true, decide_eq_true_eq, List.all_eq_true]
  refine ⟨ho.remote.nodup, fun c hc ↦ ?_⟩
  simpa using ho.remote.nonempty c.mid (hmids ▸ List.mem_map_of_mem hc)

/-- The handler when WebRTC has taken the offer. -/
def offered (h : Handler) : Handler :=
  { h with
    pc := h.pc.offeredBy h.remoteSdp.sdpObject.media
    remoteSdp := h.remoteSdp.getSdp.2 }

private theorem hasOffer (ho : ToOffer h₀ m) :
    (offered h₀).pc.HasOffer h₀.remoteSdp.sdpObject.media :=
  ho.pc.hasOffer ho.follows ho.validMids ho.data ho.start

private theorem createAnswer_lines (ho : ToOffer h₀ m) (env : Surroundings) :
    ((offered h₀).pc.createAnswer env.describe).map MediaObject.line = h₀.remoteSdp.lines :=
  ho.hasOffer.createAnswer_lines env.describe

private theorem setRemoteDescription (ho : ToOffer h₀ m) :
    Triple (· = h₀) (Handler.setRemoteDescription env .offer) (fun _ ↦ (· = offered h₀))
      (Fails env (DeclinedRemote env)) :=
  setRemoteDescription_ok (ho.pc.setRemoteDescription_offer ho.follows ho.validMids)

/-- The answer is accepted, and the two sides agree. -/
theorem setLocalDescription (ho : ToOffer h₀ m) (hpc : h.pc = (offered h₀).pc)
    (hw : h.remoteSdp.WF) (hlines : h.remoteSdp.lines = h₀.remoteSdp.lines)
    (hready : h.transportReady = true) :
    Triple (· = h)
      (Handler.setLocalDescription env .answer ((offered h₀).pc.createAnswer env.describe))
      (fun _ h' ↦ RecvAligned h' ∧ h'.transportReady = true ∧
        h'.remoteSdp.lines = h₀.remoteSdp.lines)
      (Fails env (DeclinedLocal env h)) := by
  have hanswer := ho.createAnswer_lines env
  generalize (offered h₀).pc.createAnswer env.describe = answer at hanswer ⊢
  have hoffer : h.pc.HasOffer h₀.remoteSdp.sdpObject.media := hpc ▸ ho.hasOffer
  have htheirs : h.pc.pendingRemote = some h₀.remoteSdp.sdpObject.media := hoffer.pending
  refine (setLocalDescription_ok (hoffer.setLocalDescription_answer hanswer)).post
    fun _ h' hh' ↦ ?_
  rw [hh']
  refine ⟨⟨hoffer.answerer hanswer, hw, ?_, hlines ▸ ho.dataMid, fun hnot ↦ ?_⟩, hready, hlines⟩
  · rw [theirs, remoteDescription, answeredBy, htheirs]
    exact hlines
  · rw [hready] at hnot
    cases hnot

private theorem renegotiate (ho : ToOffer h₀ m) (hready : h₀.transportReady = true) :
    Triple (· = h₀) (RecvHandler.renegotiate env) (fun _ ↦ RecvAligned)
      (Fails env fun h ↦ env.Accepts → RecvAligned h) := by
  unfold RecvHandler.renegotiate
  refine Triple.bind (ho.setRemoteDescription.except fun _ _ hf ↦
    hf.imp fun hd haccepts ↦ absurd haccepts hd.not_accepts) fun _ ↦ ?_
  refine Triple.bind_get fun h hh ↦ ?_
  obtain rfl : h = offered h₀ := hh
  exact (ho.setLocalDescription rfl ho.remote.getSdp rfl hready).conseq (fun _ h ↦ h)
    (fun _ _ h ↦ h.1) fun _ _ hf ↦ hf.imp fun hd haccepts ↦ absurd haccepts hd.not_accepts

/-- The offer waits for its answer. -/
theorem waiting (ho : ToOffer h₀ m) (hearly : h₀.transportReady = false)
    (hc : Connecting (offered h₀) h) : RecvAligned h := by
  obtain ⟨hfirst, hmap, hdata, hopen⟩ := ho.early hearly
  have hlines : h.remoteSdp.lines = h₀.remoteSdp.lines := hc.lines ho.remote.getSdp
  have hpc : h.pc = h₀.pc.offeredBy h₀.remoteSdp.sdpObject.media := hc.pc
  refine ⟨?_, hc.wf ho.remote.getSdp, ?_, hlines ▸ ho.dataMid, fun _ ↦ ⟨?_, ?_, ?_, hlines ▸ hopen⟩⟩
  · rw [hpc]
    refine ho.hasOffer.answerer_pending (fun c hc ↦ ?_) hfirst
    exact hopen c.line (List.mem_map_of_mem hc)
  · rw [hlines, hpc]
    rfl
  · rw [hpc]
    exact hfirst
  · exact hc.map.trans hmap
  · exact hc.data.trans hdata

/-- The offer is answered, unless its contents or those of the answer are declined, or the
transport has to be connected and is not. -/
theorem answer (ho : ToOffer h₀ m) {localId : Option String}
    (hid : ∀ mid, localId = some mid → mid ∈ h₀.remoteSdp.lines.map Line.mid) :
    Triple (· = h₀) (RecvHandler.answer env localId)
      (fun _ h ↦ RecvAligned h ∧ h.transportReady = true ∧
        h.remoteSdp.lines = h₀.remoteSdp.lines)
      (Fails env fun h ↦ env.Accepts →
        RecvAligned h ∧ h₀.transportReady = false ∧ env.connect.isOk = false) := by
  unfold RecvHandler.answer
  refine Triple.bind (ho.setRemoteDescription.except fun _ _ hf ↦
    hf.imp fun hd haccepts ↦ absurd haccepts hd.not_accepts) fun _ ↦ ?_
  refine Triple.bind_get fun h hh ↦ ?_
  obtain rfl : h = offered h₀ := hh
  have hanswer := ho.createAnswer_lines env
  have hfound (mid : String) (hlocal : localId = some mid) :
      ((offered h₀).pc.createAnswer env.describe).any (fun m ↦ m.mid == mid) = true := by
    obtain ⟨l, hl, hmid⟩ := List.mem_map.mp (hid mid hlocal)
    obtain ⟨c, hc, hline⟩ := List.mem_map.mp (hanswer ▸ hl)
    rw [List.any_eq_true]
    refine ⟨c, hc, ?_⟩
    rw [beq_iff_eq, ← hmid, ← hline]
    rfl
  refine Triple.bind (Q := fun _ ↦ (· = offered h₀)) ?_ fun _ ↦ ?_
  · cases localId with
    | none => exact Triple.ret fun _ hs ↦ hs
    | some mid =>
      simp only [hfound mid rfl, if_true]
      exact Triple.ret fun _ hs ↦ hs
  · refine Triple.bind ((ensureTransport_ready "client").except fun _ h hf ↦
      hf.imp fun ht _ ↦ ⟨ho.waiting ht.2.1 ht.1, ht.2.1, ht.2.2.2⟩) fun _ ↦ ?_
    refine Triple.of_eq ?_
    rintro h ⟨hc, hready⟩
    exact (ho.setLocalDescription hc.pc (hc.wf ho.remote.getSdp) (hc.lines ho.remote.getSdp)
      hready).except fun _ _ hf ↦ hf.imp fun hd haccepts ↦ absurd haccepts hd.not_accepts

end ToOffer

namespace RecvAligned

variable {h h₀ : Handler} {env : Surroundings}

private theorem docMids_eq (ha : RecvAligned h) : h.remoteSdp.docMids = h.remoteSdp.mids :=
  RemoteSdp.Mirrors.docMids_eq ha.remote.mirror

private theorem nodup (ha : RecvAligned h) : (h.remoteSdp.lines.map Line.mid).Nodup :=
  ha.remote.mids_eq ▸ ha.remote.nodup

/-- The remote description has become `r`. -/
theorem toOffer (ha : RecvAligned h) {r : RemoteSdp} {m : Option String} (hr : r.WF)
    (hf : Follows h.remoteSdp.lines r.lines) (hdata : DataAgree m r.lines)
    (hstart : h.pc.dataMid = m ∨ h.pc.dataMid = none)
    (hmid : ∀ l ∈ r.lines, l.type = .application → l.mid = "datachannel")
    (hearly : h.transportReady = false → ∀ l ∈ r.lines, l.rejected = false) :
    ToOffer { h with remoteSdp := r } m where
  pc := ha.pc
  remote := hr
  follows := ha.lines ▸ hf
  data := hdata
  start := hstart
  dataMid := hmid
  early hready := ⟨(ha.early hready).unanswered, (ha.early hready).unmapped,
    (ha.early hready).noData, hearly hready⟩

private theorem dataAgree (ha : RecvAligned h) : DataAgree h.pc.dataMid h.remoteSdp.lines :=
  ha.lines ▸ ha.pc.data

private theorem localIdOf_ne_empty (rtp : RtpParameters) (h : Handler) :
    RecvHandler.localIdOf rtp h ≠ "" := by
  unfold RecvHandler.localIdOf
  have hsize : toString h.mapMidTransceiver.size ≠ "" := by
    rw [Nat.toString_eq_repr]
    simp
  split
  · split
    · exact hsize
    · assumption
  · exact hsize

private theorem lines_offerTrack (ha : RecvAligned h) {id : String} {kind : Kind}
    {rtp : RtpParameters}
    {r : RemoteSdp} (hnew : RecvHandler.localIdOf rtp h ∉ h.remoteSdp.mids)
    (hr : RecvHandler.offerTrack env id kind rtp h = .ok r) :
    r.WF ∧ r.lines = place Line.rejected ⟨RecvHandler.localIdOf rtp h, mediaTypeOf kind, false⟩
      h.remoteSdp.lines := by
  unfold RecvHandler.offerTrack at hr
  split at hr
  · cases hr
  · obtain ⟨m, hm, hput⟩ := RemoteSdp.receive_eq_ok hr ha.remote.nonempty
    exact ha.remote.lines_put hm hnew (localIdOf_ne_empty rtp h) rfl hput

/-- A track with a new mid is received, unless its section cannot be made, the transport cannot
be connected, or WebRTC declines the contents of a description. -/
theorem receive (ha : RecvAligned h₀) (id : String) (kind : Kind) (rtp : RtpParameters)
    (hnew : RecvHandler.localIdOf rtp h₀ ∉ h₀.remoteSdp.docMids) :
    Triple (· = h₀) (RecvHandler.receive env id kind rtp) (fun _ ↦ RecvAligned)
      (Fails env fun h ↦ env.Accepts →
        RecvAligned h ∧ ((RecvHandler.offerTrack env id kind rtp h₀).isOk = false ∨
          (h₀.transportReady = false ∧ env.connect.isOk = false))) := by
  unfold RecvHandler.receive
  refine Triple.bind_get fun h hh ↦ ?_
  obtain rfl : h = h₀ := hh
  rw [ha.docMids_eq] at hnew
  have hnew' : RecvHandler.localIdOf rtp h ∉ h.remoteSdp.lines.map Line.mid :=
    ha.remote.mids_eq ▸ hnew
  have hkind : mediaTypeOf kind ≠ .application := by cases kind <;> simp [mediaTypeOf]
  cases hsection : RecvHandler.offerTrack env id kind rtp h with
  | error f =>
    refine Triple.bind (Q := fun _ _ ↦ False) (Triple.raise fun s hs ↦ ?_) fun _ _ ↦ False.elim
    exact fails_thrown f fun _ ↦ ⟨hs ▸ ha, .inl rfl⟩
  | ok r =>
    obtain ⟨hw, hlines⟩ := ha.lines_offerTrack hnew hsection
    rw [attempt_ok, pure_bind]
    have hto : ToOffer { h with remoteSdp := r } h.pc.dataMid := by
      refine ha.toOffer hw ?_ ?_ (.inl rfl) ?_ ?_
      · rw [hlines]
        exact follows_place hnew' (hlines ▸ hw.mids_eq ▸ hw.nodup)
      · rw [hlines]
        exact ha.dataAgree.place hkind
      · intro l hl happ
        rcases mem_place (hlines ▸ hl) with rfl | hl
        · exact absurd happ hkind
        · exact ha.dataMid l hl happ
      · intro hready l hl
        rcases mem_place (hlines ▸ hl) with rfl | hl
        · rfl
        · exact (ha.early hready).opened l hl
    refine Triple.bind (Q := fun _ ↦ (· = { h with remoteSdp := r })) (Triple.modify fun s hs ↦ by
      rw [hs]; rfl) fun _ ↦ ?_
    have hmem : (⟨RecvHandler.localIdOf rtp h, mediaTypeOf kind, false⟩ : Line) ∈ r.lines :=
      hlines ▸ mem_place_self _ _ _
    refine Triple.bind ((hto.answer fun mid hmid ↦ ?_).except fun _ _ hf ↦
      hf.imp fun ht haccepts ↦ ⟨(ht haccepts).1, .inr (ht haccepts).2⟩) fun _ ↦ ?_
    · obtain rfl := Option.some.inj hmid
      exact List.mem_map_of_mem (f := Line.mid) hmem
    · refine Triple.bind_get fun h₂ hh₂ ↦ ?_
      obtain ⟨ha₂, hready, hlines₂⟩ := hh₂
      -- the new section is open, so that it has a transceiver
      obtain ⟨c, hc, hline⟩ := List.mem_map.mp (ha₂.lines ▸ hlines₂ ▸ hmem)
      simp only [MediaObject.line, Line.mk.injEq] at hline
      have hopen : findByMid h₂.pc.transceivers (RecvHandler.localIdOf rtp h) ≠ none := by
        intro hnone
        have := (ha₂.pc.owner c hc (hline.2.1 ▸ hkind)).mpr (hline.1 ▸ hnone)
        rw [hline.2.2] at this
        cases this
      obtain ⟨t, ht⟩ := Option.ne_none_iff_exists'.mp hopen
      rw [ht]
      refine Triple.bind (Q := fun _ ↦ RecvAligned) (Triple.modify fun s hs ↦ ?_) fun _ ↦
        Triple.ret fun _ hs ↦ hs
      rw [hs]
      refine ⟨ha₂.pc, ha₂.remote, ha₂.lines, ha₂.dataMid, fun hnot ↦ ?_⟩
      have hnot : h₂.transportReady = false := hnot
      rw [hready] at hnot
      cases hnot

/-- The section of the data channels. -/
theorem lines_recvSctpAssociation (ha : RecvAligned h) {r : RemoteSdp}
    (hnew : "datachannel" ∉ h.remoteSdp.mids)
    (hr : h.remoteSdp.recvSctpAssociation env.showFloat = .ok r) :
    r.WF ∧ r.lines = h.remoteSdp.lines ++ [⟨"datachannel", .application, false⟩] := by
  obtain ⟨m, hm, rfl⟩ := RemoteSdp.recvSctpAssociation_eq_ok hr
  exact ha.remote.lines_addMediaSection hm hnew (by simp)

private theorem dataMid_eq_none (ha : RecvAligned h) (hnew : "datachannel" ∉ h.remoteSdp.mids) :
    h.pc.dataMid = none := by
  cases hm : h.pc.dataMid with
  | none => rfl
  | some mid =>
    obtain ⟨l, hl, happ, -⟩ := ha.dataAgree.known mid hm
    refine absurd ?_ hnew
    rw [ha.remote.mids_eq, ← ha.dataMid l hl happ]
    exact List.mem_map_of_mem hl

/-- Nothing of what is negotiated is touched. -/
theorem congr (ha : RecvAligned h₀) (hpc : h.pc = { h₀.pc with sidAllocator := h.pc.sidAllocator })
    (hr : h.remoteSdp = h₀.remoteSdp) (hready : h.transportReady = h₀.transportReady)
    (hmap : h.mapMidTransceiver = h₀.mapMidTransceiver)
    (hdata : h.transportReady = false →
      h.hasDataChannelMediaSection = h₀.hasDataChannelMediaSection) : RecvAligned h := by
  have hold := ha.pc
  refine ⟨?_, hr ▸ ha.remote, ?_, hr ▸ ha.dataMid, ?_⟩
  · rw [hpc]
    exact ⟨hold.listed, hold.live, hold.owned, hold.owner, hold.nodup, hold.ours, hold.data,
      hold.noError, hold.noLocalOffer⟩
  · rw [hr, hpc]
    exact ha.lines
  · intro hnot
    obtain ⟨hfirst, hempty, hno, hopen⟩ := ha.early (hready ▸ hnot)
    refine ⟨?_, hmap.trans hempty, (hdata hnot).trans hno, hr ▸ hopen⟩
    rw [hpc]
    exact hfirst

/-- A data channel is received, and the first one gets its section. -/
theorem receiveDataChannel (ha : RecvAligned h₀) (streamId : Nat) (ordered : Bool)
    (hnew : h₀.hasDataChannelMediaSection = false → "datachannel" ∉ h₀.remoteSdp.docMids) :
    Triple (· = h₀) (RecvHandler.receiveDataChannel env streamId ordered) (fun _ ↦ RecvAligned)
      (Fails env fun h ↦ env.Accepts → RecvAligned h) := by
  unfold RecvHandler.receiveDataChannel
  refine Triple.bind_get fun h hh ↦ ?_
  obtain rfl : h = h₀ := hh
  refine Triple.bind (attempt_spec (Q := fun _ ↦ (· = h)) (fun _ _ _ hs ↦ hs)
    fun _ hs _ ↦ hs ▸ ha) fun parameters ↦ ?_
  split
  · exact Triple.raise fun s hs ↦ fails_thrown _ fun _ ↦ hs ▸ ha
  · next pc hpc =>
    obtain ⟨a, -, rfl⟩ := Option.map_eq_some_iff.mp hpc
    set h₁ : Handler := { h with pc := { h.pc with sidAllocator := a } } with hh₁
    have ha₁ : RecvAligned h₁ := ha.congr rfl rfl rfl rfl fun _ ↦ rfl
    refine Triple.bind (Q := fun _ ↦ (· = h₁)) (Triple.modify fun s hs ↦ by rw [hs]; rfl) fun _ ↦ ?_
    split
    · exact Triple.ret fun s hs ↦ hs ▸ ha₁
    · next hhas =>
      have hnew : "datachannel" ∉ h₁.remoteSdp.mids :=
        ha₁.docMids_eq ▸ hnew (Bool.eq_false_iff.mpr hhas)
      refine Triple.bind (attempt_spec (Q := fun r s ↦ s = h₁ ∧ r.WF ∧
          r.lines = h.remoteSdp.lines ++ [⟨"datachannel", .application, false⟩])
        (fun r s hr hs ↦ ⟨hs, ha₁.lines_recvSctpAssociation hnew hr⟩)
        fun _ hs _ ↦ hs ▸ ha₁) fun r ↦ ?_
      refine Triple.of_eq ?_
      rintro h₂ ⟨hh₂, hw, hlines⟩
      have hto : ToOffer { h₁ with remoteSdp := r } (some "datachannel") := by
        have hnone := ha₁.dataMid_eq_none hnew
        have hagree := ha₁.dataAgree
        rw [hnone] at hagree
        refine ha₁.toOffer hw ?_ ?_ (.inr hnone) ?_ ?_
        · rw [hlines]
          exact follows_append (ha₁.remote.mids_eq ▸ hnew) (hlines ▸ hw.mids_eq ▸ hw.nodup)
        · rw [hlines]
          exact hagree.append "datachannel"
        · intro l hl happ
          rw [hlines, List.mem_append, List.mem_singleton] at hl
          rcases hl with hl | rfl
          · exact ha₁.dataMid l hl happ
          · rfl
        · intro hready l hl
          rw [hlines, List.mem_append, List.mem_singleton] at hl
          rcases hl with hl | rfl
          · exact (ha₁.early hready).opened l hl
          · rfl
      refine Triple.bind (Q := fun _ ↦ (· = { h₁ with remoteSdp := r }))
        (Triple.modify fun s hs ↦ by
        rw [hs, hh₂]; rfl) fun _ ↦ ?_
      refine Triple.bind ((hto.answer fun mid hmid ↦ by cases hmid).except fun _ _ hf ↦
        hf.imp fun ht haccepts ↦ (ht haccepts).1) fun _ ↦ ?_
      refine Triple.bind (Q := fun _ ↦ RecvAligned) (Triple.modify fun s hs ↦ ?_) fun _ ↦
        Triple.ret fun _ hs ↦ hs
      refine hs.1.congr rfl rfl rfl rfl fun hnot ↦ ?_
      have hnot : s.transportReady = false := hnot
      rw [hs.2.1] at hnot
      cases hnot

/-- A receiver is stopped, and its section closed. -/
theorem stopReceiving (ha : RecvAligned h₀) (localId : String) :
    Triple (· = h₀) (RecvHandler.stopReceiving env localId) (fun _ ↦ RecvAligned)
      (Fails env fun h ↦ env.Accepts → RecvAligned h) := by
  unfold RecvHandler.stopReceiving
  refine Triple.bind_get fun h hh ↦ ?_
  obtain rfl : h = h₀ := hh
  refine Triple.bind (attempt_spec (Q := fun t s ↦ s = h ∧ t ∈ h.pc.transceivers ∧
      h.transportReady = true) (fun t s ht hs ↦ ⟨hs, Aligned.findTransceiver_mem ht, ?_⟩)
    fun _ hs _ ↦ hs ▸ ha) fun t ↦ ?_
  · -- before the transport is ready there is nothing to stop
    by_contra hready
    have hmap := (ha.early (Bool.eq_false_iff.mpr hready)).unmapped
    rw [SendHandler.findTransceiver, hmap] at ht
    cases ht
  · refine Triple.of_eq ?_
    rintro h₁ ⟨hh₁, ht, hready⟩
    subst hh₁
    obtain ⟨c, hc, hmid, hty⟩ := ha.pc.owned t ht
    have hmem : c.mid ∈ h₁.remoteSdp.mids := by
      rw [ha.remote.mids_eq, ha.lines, List.map_map]
      exact List.mem_map_of_mem (f := MediaObject.mid) hc
    obtain ⟨r, hclose, hw, hlines⟩ := ha.remote.lines_closeMediaSection hmem
    have hcloses := closes_closeLine h₁.remoteSdp.firstMid c.mid
    have hto : ToOffer { h₁ with remoteSdp := r } h₁.pc.dataMid := by
      refine ha.toOffer hw ?_ ?_ (.inl rfl) ?_ ?_
      · rw [hlines]
        exact hcloses.follows ha.nodup
      · rw [hlines]
        refine ha.dataAgree.close fun l hl happ hm ↦ ?_
        obtain ⟨c', hc', rfl⟩ := List.mem_map.mp (ha.lines ▸ hl)
        obtain rfl : c' = c := List.inj_on_of_nodup_map ha.pc.nodup hc' hc hm
        exact ha.pc.listed.media t ht (hty.trans happ)
      · intro l' hl' happ
        obtain ⟨l, hl, rfl⟩ := List.mem_map.mp (hlines ▸ hl')
        exact ha.dataMid l hl happ
      · intro hnot
        rw [hready] at hnot
        cases hnot
    simp only [hmid, hclose]
    rw [attempt_ok, pure_bind]
    refine Triple.bind (Q := fun _ ↦ (· = { h₁ with remoteSdp := r })) (Triple.modify fun s hs ↦ by
      rw [hs]; rfl) fun _ ↦ ?_
    exact hto.renegotiate hready

/-- New credentials are offered once the transport is ready. -/
theorem restartIce (ha : RecvAligned h₀) (ice : IceParameters) :
    Triple (· = h₀) (RecvHandler.restartIce env ice) (fun _ ↦ RecvAligned)
      (Fails env fun h ↦ env.Accepts → RecvAligned h) := by
  have hw := ha.remote.updateIceParameters ice
  have hlines := ha.remote.lines_updateIceParameters ice
  set h₁ : Handler := { h₀ with remoteSdp := h₀.remoteSdp.updateIceParameters ice } with hh₁
  refine Triple.bind (Q := fun _ ↦ (· = h₁)) (Triple.modify fun s hs ↦ by rw [hs]; rfl) fun _ ↦ ?_
  refine Triple.bind_get fun h hh ↦ ?_
  obtain rfl : h = h₁ := hh
  split
  · next hready =>
    have hto : ToOffer h₁ h₀.pc.dataMid := by
      refine ha.toOffer hw ?_ (hlines ▸ ha.dataAgree) (.inl rfl) (hlines ▸ ha.dataMid) ?_
      · rw [hlines]
        have hsame := closes_id.follows ha.nodup
        rwa [List.map_id] at hsame
      · intro hnot
        have hnot : h₁.transportReady = false := hnot
        rw [hready] at hnot
        cases hnot
    exact hto.renegotiate hready
  · refine Triple.ret fun s hs ↦ ?_
    obtain rfl : s = h₁ := hs
    refine ⟨ha.pc, hw, hlines.trans ha.lines, hlines ▸ ha.dataMid, fun hready ↦ ?_⟩
    obtain ⟨hfirst, hmap, hdata, hopen⟩ := ha.early hready
    exact ⟨hfirst, hmap, hdata, hlines ▸ hopen⟩

end RecvAligned

end RtcClient.Sdp
