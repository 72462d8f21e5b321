import RtcClient.Sdp.Offers

/-!
# How descriptions are applied

An offer that a peer connection has made is always accepted back as its local description, and
gives every transceiver its section (`WF.setLocalDescription`). An answer is accepted exactly when
its m= lines are those of the offer; it removes the transceivers whose section it rejects
(`WF.setRemoteDescription`).
-/

namespace RtcClient.Sdp

open RtcClient.Ortc RtcClient.Lib

/-- What two descriptions have in common when one answers the other, and what is rejected. -/
structure Line where
  mid : String
  type : MediaType
  rejected : Bool
  deriving DecidableEq, Repr

/-- The m= line of a section. -/
def MediaObject.line (m : MediaObject) : Line := ⟨m.mid, m.type, m.rejected⟩

/-- What an answer must have in common with the offer, section by section. -/
def MediaObject.key (m : MediaObject) : String × MediaType := (m.mid, m.type)

/-- The m= line that is made from options. -/
def MediaDescriptionOptions.line (o : MediaDescriptionOptions) : Line := ⟨o.mid, o.type, o.stopped⟩

namespace PeerConnection

/-- The factory keeps the line of the options. -/
theorem describeSection_line (describe : Option Nat → LocalMedia) (o : MediaDescriptionOptions) :
    (describeSection describe o).line = o.line := by
  cases h : o.stopped <;>
    simp [describeSection, MediaObject.line, MediaDescriptionOptions.line, MediaObject.rejected, h]

section Contents

variable {pc pc' : PeerConnection} {type : SdpType} {expected : Bool}
  {counterpart : Option (List MediaObject)} {d : List MediaObject}

private theorem validate_refused (h : pc.validate type expected counterpart d = .ok ()) :
    pc.validate type expected counterpart d .refused = .error .contents := by
  unfold validate at h ⊢
  split at h
  · cases h
  · next hs =>
    split at h
    · cases h
    · next he =>
      split at h
      · cases h
      · next hm => rw [if_neg hs, if_neg he, if_neg hm, if_pos rfl]

private theorem validate_notApplied :
    pc.validate type expected counterpart d .notApplied = pc.validate type expected counterpart d :=
  rfl

/-- A local description that would be accepted, but for its contents, changes nothing. -/
theorem setLocalDescription_refused (h : pc.setLocalDescription type d = (.ok (), pc')) :
    pc.setLocalDescription type d .refused = (.error .contents, pc) := by
  unfold setLocalDescription at h ⊢
  dsimp only at h ⊢
  split at h
  · cases h
  · next hv => rw [validate_refused hv]

/-- A local description that could not be applied leaves a session error. -/
theorem setLocalDescription_notApplied (h : pc.setLocalDescription type d = (.ok (), pc')) :
    ∃ pc₁, pc.setLocalDescription type d .notApplied = (.error .notApplied, pc₁) ∧
      pc₁.sessionError = true := by
  unfold setLocalDescription at h ⊢
  dsimp only at h ⊢
  split at h
  · cases h
  · next hv =>
    rw [validate_notApplied, hv]
    exact ⟨_, if_neg (by simp), rfl⟩

/-- A remote description that would be accepted, but for its contents, changes nothing. -/
theorem setRemoteDescription_refused (h : pc.setRemoteDescription type d = (.ok (), pc')) :
    pc.setRemoteDescription type d .refused = (.error .contents, pc) := by
  unfold setRemoteDescription at h ⊢
  dsimp only at h ⊢
  split at h
  · cases h
  · next hv => rw [validate_refused hv]

/-- A remote description that could not be applied leaves a session error. -/
theorem setRemoteDescription_notApplied (h : pc.setRemoteDescription type d = (.ok (), pc')) :
    ∃ pc₁, pc.setRemoteDescription type d .notApplied = (.error .notApplied, pc₁) ∧
      pc₁.sessionError = true := by
  unfold setRemoteDescription at h ⊢
  dsimp only at h ⊢
  split at h
  · cases h
  · next hv =>
    rw [validate_notApplied, hv]
    exact ⟨_, if_neg (by simp), rfl⟩

end Contents

variable {pc : PeerConnection} {d : List MediaObject}

/-- A description with the m= lines of the offer. -/
def Offered (pc : PeerConnection) (d : List MediaObject) : Prop :=
  d.map MediaObject.line = pc.getOptionsForOffer.options.map MediaDescriptionOptions.line

/-- What `CreateOffer` returns. -/
theorem offered_createOffer (describe : Option Nat → LocalMedia) (pc : PeerConnection) :
    pc.Offered (pc.createOffer describe).1 := by
  simp only [Offered, createOffer, List.map_map]
  exact List.map_congr_left fun o _ ↦ describeSection_line describe o

section Offered

variable {i : Nat}

private theorem Offered.getElem? (hd : pc.Offered d) (i : Nat) :
    d[i]?.map MediaObject.line =
      pc.getOptionsForOffer.options[i]?.map MediaDescriptionOptions.line := by
  rw [← List.getElem?_map, hd, List.getElem?_map]

private theorem Offered.options (hd : pc.Offered d) {c : MediaObject} (hc : d[i]? = some c) :
    ∃ opt, pc.getOptionsForOffer.options[i]? = some opt ∧ opt.mid = c.mid ∧ opt.type = c.type ∧
      opt.stopped = c.rejected := by
  have h := hd.getElem? i
  rw [hc, Option.map_some, eq_comm, Option.map_eq_some_iff] at h
  obtain ⟨opt, hopt, hline⟩ := h
  simp only [MediaDescriptionOptions.line, MediaObject.line, Line.mk.injEq] at hline
  exact ⟨opt, hopt, hline⟩

private theorem Offered.section (hd : pc.Offered d) {opt : MediaDescriptionOptions}
    (hopt : pc.getOptionsForOffer.options[i]? = some opt) :
    ∃ c, d[i]? = some c ∧ c.mid = opt.mid ∧ c.type = opt.type ∧ c.rejected = opt.stopped := by
  have h := hd.getElem? i
  rw [hopt, Option.map_some, Option.map_eq_some_iff] at h
  obtain ⟨c, hc, hline⟩ := h
  simp only [MediaDescriptionOptions.line, MediaObject.line, Line.mk.injEq] at hline
  exact ⟨c, hc, hline⟩

/-- The mids of an offer. -/
theorem Offered.mids (hd : pc.Offered d) :
    d.map MediaObject.mid = pc.getOptionsForOffer.options.map MediaDescriptionOptions.mid := by
  have h := congrArg (List.map Line.mid) hd
  rw [List.map_map, List.map_map] at h
  exact h

end Offered

/-- The state when an offer has been made and its options recorded. -/
def offering (pc : PeerConnection) : PeerConnection :=
  { pc with
    midGenerator := pc.getOptionsForOffer.midGenerator
    transceivers := pc.getOptionsForOffer.transceivers }

/-- A section keeps its place, or is a new one in the place of a rejected one. -/
theorem inSameOrder_offer {current : List MediaObject} {secondary : Option (List MediaObject)}
    (hlen : current.length ≤ d.length)
    (hstep : ∀ (i : Nat) (c n : MediaObject), current[i]? = some c → d[i]? = some n →
      (n.mid = c.mid ∧ n.type = c.type) ∨
        (n.rejected = false ∧ (c.rejected = true ∨ rejectedAt secondary i = true))) :
    inSameOrder .offer current secondary d = true := by
  simp only [PeerConnection.inSameOrder, Bool.and_eq_true, decide_eq_true_eq, List.all_eq_true]
  refine ⟨hlen, ?_⟩
  rintro ⟨⟨c, n⟩, i⟩ hmem
  have hmem := List.mk_mem_zipIdx_iff_getElem?.mp hmem
  rw [List.getElem?_zip_eq_some] at hmem
  rcases hstep i c n hmem.1 hmem.2 with ⟨hm, ht⟩ | ⟨hopen, hrejected⟩
  · simp [hm, ht]
  · have hrem : rejectedAt secondary i = (secondary.bind (·[i]?)).any MediaObject.rejected := by
      unfold rejectedAt
      cases secondary.bind (·[i]?) <;> rfl
    rw [hrem] at hrejected
    simp only [isBeingRecycled, hopen, Option.any_some, Bool.or_eq_true]
    left
    rcases hrejected with hr | hr <;> simp [hr]

/-- The offer keeps the order of what exists. -/
theorem WF.inSameOrder (h : pc.WF) (hd : pc.Offered d) :
    inSameOrder .offer pc.ours pc.remoteDescription d = true := by
  have hl := h.laid
  refine inSameOrder_offer ?_ fun i c n hc hn ↦ ?_
  · by_contra hlen
    have hlt : d.length < pc.ours.length := by omega
    obtain ⟨opt, hopt, -⟩ := hl.old d.length _ (List.getElem?_eq_getElem hlt)
    obtain ⟨c, hc, -⟩ := hd.section hopt
    simp at hc
  · obtain ⟨opt, hopt, hold⟩ := hl.old i c hc
    obtain ⟨n', hn', hmid, hty, hrej⟩ := hd.section hopt
    obtain rfl : n' = n := Option.some.inj (hn'.symm.trans hn)
    rcases hold with ⟨hm, ht⟩ | ⟨hs, happ, hf⟩
    · exact .inl ⟨hmid.trans hm, hty.trans ht⟩
    · exact .inr ⟨hrej.trans hs, h.gone i c hc happ hf⟩

private theorem WF.validMids (h : pc.WF) (hd : pc.Offered d) : validMids d = true := by
  have hl := h.laid
  simp only [PeerConnection.validMids, Bool.and_eq_true, decide_eq_true_eq, List.all_eq_true]
  refine ⟨hd.mids ▸ hl.mids, fun c hc ↦ ?_⟩
  obtain ⟨i, hi⟩ := List.mem_iff_getElem?.mp hc
  obtain ⟨opt, hopt, hmid, -⟩ := hd.options hi
  obtain ⟨k, -, hk⟩ := hl.generated opt (List.mem_of_getElem? hopt)
  rw [← hmid, hk, Nat.toString_eq_repr]
  simp

private theorem WF.validate_offer (h : pc.WF) (hd : pc.Offered d) :
    pc.offering.validate .offer pc.offering.pendingRemote.isNone pc.offering.remoteDescription d =
      .ok () := by
  have horder := h.inSameOrder hd
  have herr : pc.offering.sessionError = false := h.noError
  have hpend : pc.offering.pendingRemote = none := h.noRemoteOffer
  have hlocal : pc.offering.localDescription = pc.localDescription := rfl
  have hremote : pc.offering.remoteDescription = pc.remoteDescription := rfl
  simp only [validate, herr, hpend, hlocal, hremote, h.validMids hd, Option.isNone_none,
    Bool.not_true, Bool.false_eq_true, if_false]
  cases hL : pc.localDescription with
  | some current =>
    have hours : pc.ours = current := by simp [ours, hL]
    rw [hours] at horder
    simp [horder]
  | none =>
    cases hR : pc.remoteDescription with
    | none => simp
    | some current =>
      have hcov := h.covers
      simp only [ours, hL, hR, Option.getD_some, Option.getD_none, List.length_nil,
        Nat.le_zero, List.length_eq_zero_iff] at hcov
      simp [hcov, PeerConnection.inSameOrder]

/-- The mid of the data channels after the sections of a description. -/
def dataMidAfter (d : List MediaObject) (dataMid : Option String) : Option String :=
  d.foldl (fun m c ↦ if c.type = .application then updateDataMid m c else m) dataMid

/-- One more section. -/
theorem dataMidAfter_concat (l : List MediaObject) (c : MediaObject) (m : Option String) :
    dataMidAfter (l ++ [c]) m =
      if c.type = .application then updateDataMid (dataMidAfter l m) c else dataMidAfter l m := by
  simp [dataMidAfter, List.foldl_append]

section Local

/-- A transceiver with the mid of its section in a prefix of the offer. -/
def settle (l : List MediaObject) (t : RtpTransceiver) : RtpTransceiver :=
  match t.mlineIndex.bind fun i ↦ l[i]? with
  | some c => { t with mid := some c.mid }
  | none => t

private theorem settle_of_some {l : List MediaObject} {t : RtpTransceiver} {i : Nat}
    {c : MediaObject}
    (ht : t.mlineIndex = some i) (hc : l[i]? = some c) :
    settle l t = { t with mid := some c.mid } := by
  simp [settle, ht, hc]

private theorem settle_of_none {l : List MediaObject} {t : RtpTransceiver} {i : Nat}
    (ht : t.mlineIndex = some i) (hc : l[i]? = none) : settle l t = t := by
  simp [settle, ht, hc]

/-- The transceiver stays the same. -/
@[simp] theorem settle_ref (l : List MediaObject) (t : RtpTransceiver) :
    (settle l t).ref = t.ref := by
  unfold settle
  split <;> rfl

/-- Its position stays. -/
@[simp] theorem settle_mlineIndex (l : List MediaObject) (t : RtpTransceiver) :
    (settle l t).mlineIndex = t.mlineIndex := by
  unfold settle
  split <;> rfl

/-- Its media type stays. -/
@[simp] theorem settle_mediaType (l : List MediaObject) (t : RtpTransceiver) :
    (settle l t).mediaType = t.mediaType := by
  unfold settle
  split <;> rfl

/-- It is not stopped. -/
@[simp] theorem settle_stopped (l : List MediaObject) (t : RtpTransceiver) :
    (settle l t).stopped = t.stopped := by
  unfold settle
  split <;> rfl

private theorem settle_concat_of_ne {l : List MediaObject} {c : MediaObject} {t : RtpTransceiver}
    (ht : t.mlineIndex ≠ some l.length) : settle (l ++ [c]) t = settle l t := by
  unfold settle
  cases hi : t.mlineIndex with
  | none => rfl
  | some i =>
    have hne : i ≠ l.length := fun he ↦ ht (by rw [hi, he])
    have hget : (l ++ [c])[i]? = l[i]? := by
      rw [List.getElem?_append]
      split
      · rfl
      · rw [List.getElem?_eq_none (by simp; omega), List.getElem?_eq_none (by omega)]
    simp only [Option.bind_some, hget]

variable {t : RtpTransceiver}

/-- The section of a transceiver in the offer. -/
theorem WF.offered_section (h : pc.WF) (hd : pc.Offered d)
    (ht : t ∈ pc.getOptionsForOffer.transceivers) :
    ∃ i c, t.mlineIndex = some i ∧ d[i]? = some c ∧ c.type = t.mediaType ∧ c.rejected = false ∧
      (∀ mid, t.mid = some mid → c.mid = mid) ∧
      (t.mid = none → ∃ k, pc.midGenerator ≤ k ∧ c.mid = toString k) := by
  obtain ⟨i, opt, hi, hopt, -, hty, hs, hmid, hnew⟩ := h.laid.owner t ht
  obtain ⟨c, hc, hcmid, hcty, hcrej⟩ := hd.section hopt
  refine ⟨i, c, hi, hc, hcty.trans hty, hcrej.trans hs, fun mid hm ↦ hcmid.trans (hmid mid hm),
    fun hn ↦ ?_⟩
  rw [hcmid]
  exact hnew hn

private theorem WF.offered_refs (h : pc.WF) :
    (pc.getOptionsForOffer.transceivers.map RtpTransceiver.ref).Nodup := by
  have hun := congrArg (List.map RtpTransceiver.ref) h.unplaced_getOptionsForOffer
  rw [List.map_map, List.map_map] at hun
  exact hun ▸ h.refs

/-- A section has one owner. -/
theorem WF.offered_owner (h : pc.WF) {t' : RtpTransceiver}
    (ht : t ∈ pc.getOptionsForOffer.transceivers) (ht' : t' ∈ pc.getOptionsForOffer.transceivers)
    (hi : t.mlineIndex = t'.mlineIndex) : t = t' := by
  obtain ⟨i, opt, hti, hopt, hown, -⟩ := h.laid.owner t ht
  obtain ⟨i', opt', hti', hopt', hown', -⟩ := h.laid.owner t' ht'
  obtain rfl : i = i' := Option.some.inj (hti.symm.trans (hi.trans hti'))
  obtain rfl : opt = opt' := Option.some.inj (hopt.symm.trans hopt')
  exact eq_of_ref_eq h.offered_refs ht ht' (Option.some.inj (hown.symm.trans hown'))

private theorem getElem?_of_prefix {l : List MediaObject} (h : l <+: d) {i : Nat} {x : MediaObject}
    (hx : l[i]? = some x) : d[i]? = some x := by
  obtain ⟨r, rfl⟩ := h
  rw [List.getElem?_append_left (List.getElem?_eq_some_iff.mp hx).1, hx]

-- A transceiver that has the mid of the next section owns it.
private theorem WF.index_of_settle_mid (h : pc.WF) (hd : pc.Offered d) {l : List MediaObject}
    {c : MediaObject} (hpre : l ++ [c] <+: d) (ht : t ∈ pc.getOptionsForOffer.transceivers)
    (hmid : (settle l t).mid = some c.mid) : t.mlineIndex = some l.length := by
  have hnodup : (d.map MediaObject.mid).Nodup := hd.mids ▸ h.laid.mids
  have hcd : d[l.length]? = some c := getElem?_of_prefix hpre (by simp)
  have hunique {i : Nat} {x : MediaObject} (hx : d[i]? = some x) (hm : x.mid = c.mid) :
      i = l.length := by
    have hi : (d.map MediaObject.mid)[i]? = (d.map MediaObject.mid)[l.length]? := by
      simp [hx, hcd, hm]
    exact (List.getElem?_inj (by simpa using (List.getElem?_eq_some_iff.mp hx).1) hnodup).mp hi
  obtain ⟨i, x, hi, hx, -, -, hold, -⟩ := h.offered_section hd ht
  rw [hi, Option.some.injEq]
  cases hl : l[i]? with
  | some y =>
    rw [settle_of_some hi hl] at hmid
    have hy := getElem?_of_prefix ((List.prefix_append l [c]).trans hpre) hl
    exact hunique hy (Option.some.inj hmid)
  | none =>
    rw [settle_of_none hi hl] at hmid
    exact hunique hx (hold c.mid hmid)

-- The step for the section behind a prefix of the offer.
private theorem WF.localStep_eq (h : pc.WF) (hd : pc.Offered d) {l : List MediaObject}
    {c : MediaObject} (hpre : l ++ [c] <+: d) (dataMid : Option String) (nextRef : Nat) :
    Associating.localStep
        ⟨pc.getOptionsForOffer.transceivers.map (settle l), dataMid, nextRef, true⟩ (c, l.length) =
      ⟨pc.getOptionsForOffer.transceivers.map (settle (l ++ [c])),
        if c.type = .application then updateDataMid dataMid c else dataMid, nextRef, true⟩ := by
  have hcd : d[l.length]? = some c := getElem?_of_prefix hpre (by simp)
  have hkeep (hnone : ∀ t ∈ pc.getOptionsForOffer.transceivers, t.mlineIndex ≠ some l.length) :
      pc.getOptionsForOffer.transceivers.map (settle (l ++ [c])) =
        pc.getOptionsForOffer.transceivers.map (settle l) :=
    List.map_congr_left fun t ht ↦ settle_concat_of_ne (hnone t ht)
  unfold Associating.localStep
  simp only [Bool.not_true, Bool.false_eq_true, if_false]
  by_cases happ : c.type = .application
  · -- no transceiver owns a section for data
    rw [if_pos happ, if_pos happ, hkeep]
    intro t ht hi
    obtain ⟨i, x, hti, hx, hty, -⟩ := h.offered_section hd ht
    obtain rfl : i = l.length := Option.some.inj (hti.symm.trans hi)
    obtain rfl : x = c := Option.some.inj (hx.symm.trans hcd)
    obtain ⟨t₀, ht₀, hun⟩ := List.mem_map.mp
      (h.unplaced_getOptionsForOffer ▸ List.mem_map_of_mem (f := RtpTransceiver.unplaced) ht)
    have hmedia := (RtpTransceiver.fields_of_unplaced_eq hun).2.1
    exact h.media t₀ ht₀ ((hmedia.trans hty.symm).trans happ)
  · rw [if_neg happ, if_neg happ]
    by_cases hown : ∃ t ∈ pc.getOptionsForOffer.transceivers, t.mlineIndex = some l.length
    · obtain ⟨t, ht, hi⟩ := hown
      have hself : settle l t = t := settle_of_none hi (by simp)
      have hmem : t ∈ pc.getOptionsForOffer.transceivers.map (settle l) :=
        List.mem_map.mpr ⟨t, ht, hself⟩
      -- whichever way the transceiver is found, it is the owner
      have hfound : (findByMid (pc.getOptionsForOffer.transceivers.map (settle l)) c.mid <|>
          findByMLineIndex (pc.getOptionsForOffer.transceivers.map (settle l)) l.length) =
            some t := by
        cases hf : findByMid (pc.getOptionsForOffer.transceivers.map (settle l)) c.mid with
        | some x =>
          obtain ⟨hx, hxmid⟩ := findByMid_eq_some hf
          obtain ⟨t', ht', rfl⟩ := List.mem_map.mp hx
          have hi' := h.index_of_settle_mid hd hpre ht' hxmid
          rw [h.offered_owner ht' ht (hi'.trans hi.symm), hself]
          rfl
        | none =>
          cases hg :
              findByMLineIndex (pc.getOptionsForOffer.transceivers.map (settle l)) l.length with
          | none =>
            have hall := List.find?_eq_none.mp hg t hmem
            simp [hi] at hall
          | some x =>
            obtain ⟨t', ht', rfl⟩ := List.mem_map.mp (List.mem_of_find?_eq_some hg)
            have hi' : t'.mlineIndex = some l.length := by simpa using List.find?_some hg
            rw [h.offered_owner ht' ht (hi'.trans hi.symm), hself]
            rfl
      obtain ⟨i, x, hti, hx, hty, -⟩ := h.offered_section hd ht
      obtain rfl : i = l.length := Option.some.inj (hti.symm.trans hi)
      obtain rfl : x = c := Option.some.inj (hx.symm.trans hcd)
      rw [hfound]
      simp only [hty, ne_eq, not_true_eq_false, if_false, updateTransceiver, List.map_map]
      congr 1
      refine List.map_congr_left fun t' ht' ↦ ?_
      by_cases hr : t'.ref = t.ref
      · obtain rfl := eq_of_ref_eq h.offered_refs ht' ht hr
        rw [Function.comp_apply, hself, if_pos rfl,
          settle_of_some (l := l ++ [x]) (c := x) hi (by simp), ← hi]
      · rw [Function.comp_apply, if_neg (by simpa using hr), settle_concat_of_ne]
        exact fun hi' ↦ hr (by rw [h.offered_owner ht' ht (hi'.trans hi.symm)])
    · have hnone : ∀ t ∈ pc.getOptionsForOffer.transceivers, t.mlineIndex ≠ some l.length :=
        fun t ht hi ↦ hown ⟨t, ht, hi⟩
      have hfound : (findByMid (pc.getOptionsForOffer.transceivers.map (settle l)) c.mid <|>
          findByMLineIndex (pc.getOptionsForOffer.transceivers.map (settle l)) l.length) =
            none := by
        have hf : findByMid (pc.getOptionsForOffer.transceivers.map (settle l)) c.mid = none := by
          refine findByMid_eq_none.mpr fun x hx hxmid ↦ ?_
          obtain ⟨t', ht', rfl⟩ := List.mem_map.mp hx
          exact hnone t' ht' (h.index_of_settle_mid hd hpre ht' hxmid)
        have hg : findByMLineIndex (pc.getOptionsForOffer.transceivers.map (settle l)) l.length =
            none := by
          refine List.find?_eq_none.mpr fun x hx ↦ ?_
          obtain ⟨t', ht', rfl⟩ := List.mem_map.mp hx
          simpa using hnone t' ht'
        rw [hf, hg]
        rfl
      obtain ⟨opt, hopt, -, hty, hstop⟩ := hd.options hcd
      have hrejected : c.rejected = true := by
        rcases h.laid.owned l.length opt hopt (hty ▸ happ) with hs | hs
        · exact hstop.symm.trans hs
        · exact absurd hs hown
      rw [hfound, hkeep hnone, hrejected]

/-- The loop over all sections of the offer. -/
theorem WF.localLoop (h : pc.WF) (hd : pc.Offered d) :
    d.zipIdx.foldl Associating.localStep pc.offering.associating =
      ⟨pc.getOptionsForOffer.transceivers.map (settle d), dataMidAfter d pc.dataMid, pc.nextRef,
        true⟩ := by
  have hall (l : List MediaObject) (hl : l <+: d) :
      l.zipIdx.foldl Associating.localStep pc.offering.associating =
        ⟨pc.getOptionsForOffer.transceivers.map (settle l), dataMidAfter l pc.dataMid, pc.nextRef,
          true⟩ := by
    induction l using List.reverseRecOn with
    | nil =>
      have hid : pc.getOptionsForOffer.transceivers.map (settle []) =
          pc.getOptionsForOffer.transceivers := by
        refine (List.map_congr_left fun t _ ↦ ?_).trans (List.map_id _)
        unfold settle
        cases t.mlineIndex <;> rfl
      rw [hid]
      rfl
    | append_singleton l c ih =>
      rw [List.zipIdx_append, List.foldl_append, ih ((List.prefix_append l [c]).trans hl)]
      simp only [List.zipIdx_cons, List.zipIdx_nil, List.foldl_cons, List.foldl_nil, Nat.zero_add]
      rw [h.localStep_eq hd hl, dataMidAfter_concat]
  exact hall d (List.prefix_refl _)

/-- The peer connection whose offer has become its pending local description. -/
def withOffer (pc : PeerConnection) (d : List MediaObject) : PeerConnection :=
  { pc.offering with
    pendingLocal := some d
    transceivers := pc.getOptionsForOffer.transceivers.map (settle d)
    dataMid := dataMidAfter d pc.dataMid }

/-- The offer is accepted back. -/
theorem WF.setLocalDescription_offer (h : pc.WF) (hd : pc.Offered d) :
    pc.offering.setLocalDescription .offer d = (.ok (), pc.withOffer d) := by
  simp only [setLocalDescription, h.validate_offer hd, h.localLoop hd]
  rfl

/-- The section of a transceiver after the offer. -/
theorem WF.withOffer_section (h : pc.WF) (hd : pc.Offered d)
    (ht : t ∈ (pc.withOffer d).transceivers) :
    ∃ (i : Nat) (c : MediaObject), t.mlineIndex = some i ∧ d[i]? = some c ∧ t.mid = some c.mid ∧
      c.type = t.mediaType ∧ c.rejected = false := by
  obtain ⟨t₀, ht₀, rfl⟩ := List.mem_map.mp ht
  obtain ⟨i, c, hi, hc, hty, hrej, -⟩ := h.offered_section hd ht₀
  exact ⟨i, c, by simpa using hi, hc, by rw [settle_of_some hi hc], by simpa using hty, hrej⟩

/-- A transceiver keeps its mid, or gets a new one. -/
theorem WF.withOffer_transceiver (h : pc.WF) (hd : pc.Offered d) (ht : t ∈ pc.transceivers) :
    ∃ t' ∈ (pc.withOffer d).transceivers, t'.ref = t.ref ∧ t'.mediaType = t.mediaType ∧
      (∀ mid, t.mid = some mid → t'.mid = some mid) ∧
      (t.mid = none → ∃ k, pc.midGenerator ≤ k ∧ t'.mid = some (toString k)) := by
  obtain ⟨t₀, ht₀, hun⟩ := List.mem_map.mp
    (h.unplaced_getOptionsForOffer ▸ List.mem_map_of_mem (f := RtpTransceiver.unplaced) ht)
  obtain ⟨hr, hty, hmid, -⟩ := RtpTransceiver.fields_of_unplaced_eq hun
  obtain ⟨i, c, hi, hc, -, -, hold, hnew⟩ := h.offered_section hd ht₀
  refine ⟨settle d t₀, List.mem_map_of_mem ht₀, ?_, ?_, ?_, ?_⟩
  · exact (settle_ref d t₀).trans hr
  · exact (settle_mediaType d t₀).trans hty
  · intro mid hm
    rw [settle_of_some hi hc]
    exact congrArg some (hold mid (hmid.trans hm))
  · intro hn
    obtain ⟨k, hk, hck⟩ := hnew (hmid.trans hn)
    exact ⟨k, hk, by rw [settle_of_some hi hc, hck]⟩

/-- An offer adds and removes no transceiver. -/
theorem WF.withOffer_refs (h : pc.WF) (d : List MediaObject) :
    (pc.withOffer d).transceivers.map RtpTransceiver.ref =
      pc.transceivers.map RtpTransceiver.ref := by
  have hun := congrArg (List.map RtpTransceiver.ref) h.unplaced_getOptionsForOffer
  rw [List.map_map, List.map_map] at hun
  simp only [withOffer, List.map_map]
  refine (List.map_congr_left fun t _ ↦ ?_).trans hun
  exact settle_ref d t

private theorem WF.of_withOffer_mem (h : pc.WF) (ht : t ∈ (pc.withOffer d).transceivers) :
    ∃ t₀ ∈ pc.transceivers, t₀.ref = t.ref ∧ t₀.mediaType = t.mediaType ∧
      t₀.stopped = t.stopped := by
  obtain ⟨t₁, ht₁, rfl⟩ := List.mem_map.mp ht
  obtain ⟨t₀, ht₀, hun⟩ := List.mem_map.mp
    (h.unplaced_getOptionsForOffer ▸ List.mem_map_of_mem (f := RtpTransceiver.unplaced) ht₁)
  obtain ⟨hr, hty, -, hs⟩ := RtpTransceiver.fields_of_unplaced_eq hun
  exact ⟨t₀, ht₀, by simpa using hr, by simpa using hty, by simpa using hs⟩

/-- A section for media is rejected exactly if no transceiver owns it. -/
theorem WF.withOffer_rejected (h : pc.WF) (hd : pc.Offered d) {c : MediaObject} (hc : c ∈ d)
    (happ : c.type ≠ .application) :
    c.rejected = true ↔ findByMid (pc.withOffer d).transceivers c.mid = none := by
  have hnodup : (d.map MediaObject.mid).Nodup := hd.mids ▸ h.laid.mids
  obtain ⟨i, hi⟩ := List.mem_iff_getElem?.mp hc
  rw [findByMid_eq_none]
  constructor
  · intro hrej t ht hmid
    obtain ⟨j, c', -, hc', hmid', -, hopen⟩ := h.withOffer_section hd ht
    have heq : c' = c := List.inj_on_of_nodup_map hnodup (List.mem_of_getElem? hc') hc
      (Option.some.inj (hmid'.symm.trans hmid))
    rw [heq, hrej] at hopen
    cases hopen
  · intro hnone
    obtain ⟨opt, hopt, hmid, hty, hstop⟩ := hd.options hi
    rcases h.laid.owned i opt hopt (hty ▸ happ) with hs | ⟨t, ht, hti⟩
    · exact hstop.symm.trans hs
    · refine absurd ?_ (hnone (settle d t) (List.mem_map_of_mem ht))
      rw [settle_of_some hti hi]

/-- The peer connection with its offer as the local description. -/
theorem WF.withOffer (h : pc.WF) (hd : pc.Offered d) : (pc.withOffer d).WF := by
  have hnodup : (d.map MediaObject.mid).Nodup := hd.mids ▸ h.laid.mids
  have hours : (pc.withOffer d).ours = d := rfl
  refine ⟨h.withOffer_refs d ▸ h.refs, ?_, ?_, ?_, ?_, ?_, hours ▸ hnodup, ?_, ?_, ?_, h.noError,
    h.noRemoteOffer⟩
  · intro t ht
    obtain ⟨t₀, ht₀, hr, -⟩ := h.of_withOffer_mem ht
    exact hr ▸ h.fresh t₀ ht₀
  · intro t ht
    obtain ⟨t₀, ht₀, -, -, hs⟩ := h.of_withOffer_mem ht
    exact hs ▸ h.live t₀ ht₀
  · intro t ht
    obtain ⟨t₀, ht₀, -, hm, -⟩ := h.of_withOffer_mem ht
    exact hm ▸ h.media t₀ ht₀
  · intro t ht t' ht' mid hm hm'
    obtain ⟨t₁, ht₁, rfl⟩ := List.mem_map.mp ht
    obtain ⟨t₂, ht₂, rfl⟩ := List.mem_map.mp ht'
    obtain ⟨i, c, hi, hc, -⟩ := h.offered_section hd ht₁
    obtain ⟨j, c', hj, hc', -⟩ := h.offered_section hd ht₂
    rw [settle_of_some hi hc] at hm
    rw [settle_of_some hj hc'] at hm'
    have hij : (d.map MediaObject.mid)[i]? = (d.map MediaObject.mid)[j]? := by
      simp only [List.getElem?_map, hc, hc', Option.map_some]
      exact hm.trans hm'.symm
    have hlt : i < (d.map MediaObject.mid).length := by
      simpa using (List.getElem?_eq_some_iff.mp hc).1
    obtain rfl : i = j := (List.getElem?_inj hlt hnodup).mp hij
    rw [h.offered_owner ht₁ ht₂ (hi.trans hj.symm)]
  · intro t ht mid hm
    obtain ⟨i, c, -, hc, hmid, hty, -⟩ := h.withOffer_section hd ht
    exact ⟨c, List.mem_of_getElem? hc, Option.some.inj (hmid.symm.trans hm), hty⟩
  · intro c hc
    obtain ⟨i, hi⟩ := List.mem_iff_getElem?.mp hc
    obtain ⟨opt, hopt, hmid, -⟩ := hd.options hi
    rw [← hmid]
    exact h.laid.generated opt (List.mem_of_getElem? hopt)
  · refine h.covers.trans ?_
    have horder := h.inSameOrder hd
    simp only [PeerConnection.inSameOrder, Bool.and_eq_true, decide_eq_true_eq] at horder
    exact horder.1
  · intro i c hc happ hf
    exact .inl ((h.withOffer_rejected hd (List.mem_of_getElem? hc) happ).mpr hf)

end Local

section Changes

variable {pc' : PeerConnection}

/-- Transceivers may go, if their sections are rejected. -/
theorem WF.of_sublist (h : pc.WF)
    (hcore : (pc'.transceivers.map RtpTransceiver.core).Sublist
      (pc.transceivers.map RtpTransceiver.core))
    (hours : pc'.ours = pc.ours)
    (hcovers : (pc'.remoteDescription.getD []).length ≤ pc'.ours.length)
    (hgone : ∀ i c, pc'.ours[i]? = some c → c.type ≠ .application →
      findByMid pc'.transceivers c.mid = none →
      c.rejected = true ∨ rejectedAt pc'.remoteDescription i = true)
    (hpending : pc'.pendingRemote = none) (herror : pc'.sessionError = false)
    (hgen : pc.midGenerator ≤ pc'.midGenerator) (href : pc.nextRef ≤ pc'.nextRef) : pc'.WF := by
  have hmem {t : RtpTransceiver} (ht : t ∈ pc'.transceivers) : ∃ t₀ ∈ pc.transceivers,
      t₀.ref = t.ref ∧ t₀.mediaType = t.mediaType ∧ t₀.mid = t.mid ∧ t₀.stopped = t.stopped := by
    obtain ⟨t₀, ht₀, he⟩ := List.mem_map.mp (hcore.subset (List.mem_map_of_mem ht))
    simp only [RtpTransceiver.core, Prod.mk.injEq] at he
    exact ⟨t₀, ht₀, he⟩
  have hrefs : (pc'.transceivers.map RtpTransceiver.ref).Nodup := by
    have he := hcore.map Prod.fst
    rw [List.map_map, List.map_map] at he
    exact h.refs.sublist he
  refine ⟨hrefs, ?_, ?_, ?_, ?_, ?_, hours ▸ h.nodup, ?_, hcovers, hgone, herror, hpending⟩
  · intro t ht
    obtain ⟨t₀, ht₀, hr, -⟩ := hmem ht
    exact (hr ▸ h.fresh t₀ ht₀).trans_le href
  · intro t ht
    obtain ⟨t₀, ht₀, -, -, -, hs⟩ := hmem ht
    exact hs ▸ h.live t₀ ht₀
  · intro t ht
    obtain ⟨t₀, ht₀, -, hm, -⟩ := hmem ht
    exact hm ▸ h.media t₀ ht₀
  · intro t ht t' ht' mid hm hm'
    obtain ⟨t₀, ht₀, hr, -, hm₀, -⟩ := hmem ht
    obtain ⟨t₁, ht₁, hr', -, hm₁, -⟩ := hmem ht'
    have heq := h.mids t₀ ht₀ t₁ ht₁ mid (hm₀.trans hm) (hm₁.trans hm')
    exact eq_of_ref_eq hrefs ht ht' (hr.symm.trans ((congrArg _ heq).trans hr'))
  · intro t ht mid hm
    obtain ⟨t₀, ht₀, -, hty, hm₀, -⟩ := hmem ht
    rw [hours, ← hty]
    exact h.placed t₀ ht₀ mid (hm₀.trans hm)
  · intro c hc
    obtain ⟨k, hk, hmid⟩ := h.generated c (hours ▸ hc)
    exact ⟨k, by omega, hmid⟩

/-- Changes of tracks, directions, positions and counters. -/
theorem WF.congr (h : pc.WF)
    (hcore : pc'.transceivers.map RtpTransceiver.core = pc.transceivers.map RtpTransceiver.core)
    (hlocal : pc'.localDescription = pc.localDescription)
    (hremote : pc'.remoteDescription = pc.remoteDescription)
    (hpending : pc'.pendingRemote = pc.pendingRemote) (herror : pc'.sessionError = pc.sessionError)
    (hgen : pc.midGenerator ≤ pc'.midGenerator) (href : pc.nextRef ≤ pc'.nextRef) : pc'.WF := by
  have hours : pc'.ours = pc.ours := by rw [ours, ours, hlocal]
  refine h.of_sublist (hcore ▸ List.Sublist.refl _) hours ?_ ?_ (hpending ▸ h.noRemoteOffer)
    (herror ▸ h.noError) hgen href
  · rw [hours, hremote]
    exact h.covers
  · intro i c hc happ hf
    rw [hours] at hc
    rw [hremote]
    refine h.gone i c hc happ (findByMid_eq_none.mpr fun t ht hm ↦ ?_)
    obtain ⟨t', ht', he⟩ := List.mem_map.mp (hcore ▸ List.mem_map_of_mem ht)
    simp only [RtpTransceiver.core, Prod.mk.injEq] at he
    exact findByMid_eq_none.mp hf t' ht' (he.2.2.1.trans hm)

/-- A change of one transceiver that the negotiation does not see. -/
theorem updateTransceiver_append (ts ts' : List RtpTransceiver) (ref : Nat)
    (f : RtpTransceiver → RtpTransceiver) :
    updateTransceiver (ts ++ ts') ref f =
      updateTransceiver ts ref f ++ updateTransceiver ts' ref f :=
  List.map_append

/-- A change of what the negotiation does not see. -/
theorem updateTransceiver_core (ts : List RtpTransceiver) (ref : Nat)
    {f : RtpTransceiver → RtpTransceiver} (hf : ∀ t, (f t).core = t.core) :
    (updateTransceiver ts ref f).map RtpTransceiver.core = ts.map RtpTransceiver.core := by
  rw [updateTransceiver, List.map_map]
  refine List.map_congr_left fun t _ ↦ ?_
  rw [Function.comp_apply]
  split
  · exact hf t
  · rfl

/-- Making an offer is such a change. -/
theorem WF.offering_core (h : pc.WF) :
    pc.offering.transceivers.map RtpTransceiver.core = pc.transceivers.map RtpTransceiver.core := by
  have hun := congrArg (List.map RtpTransceiver.core) h.unplaced_getOptionsForOffer
  rw [List.map_map, List.map_map] at hun
  exact hun

/-- The peer connection that has made an offer. -/
theorem WF.offering (h : pc.WF) : pc.offering.WF :=
  h.congr h.offering_core rfl rfl rfl rfl h.laid.later le_rfl

/-- Taking a track off is such a change. -/
theorem clearTrack_core (pc : PeerConnection) (ref : Nat) :
    (pc.clearTrack ref).transceivers.map RtpTransceiver.core =
      pc.transceivers.map RtpTransceiver.core :=
  updateTransceiver_core pc.transceivers ref (f := fun t ↦ { t with hasTrack := false }) fun _ ↦ rfl

/-- So is a change of the direction. -/
theorem deactivate_core (pc : PeerConnection) (ref : Nat) :
    (pc.deactivate ref).transceivers.map RtpTransceiver.core =
      pc.transceivers.map RtpTransceiver.core :=
  updateTransceiver_core pc.transceivers ref (f := fun t ↦ { t with direction := .inactive })
    fun _ ↦ rfl

/-- So is the removal of a track. -/
theorem removeTrack_core (pc : PeerConnection) (ref : Nat) :
    (pc.removeTrack ref).transceivers.map RtpTransceiver.core =
      pc.transceivers.map RtpTransceiver.core := by
  refine updateTransceiver_core pc.transceivers ref fun t ↦ ?_
  split
  · rfl
  · split <;> rfl

end Changes

section Answer

variable {l : List MediaObject}

/-- An answer has the mids and types of the offer, in the same order. -/
theorem inSameOrder_answer_iff (hlen : l.length = d.length) :
    PeerConnection.inSameOrder .answer l none d = true ↔
      d.map MediaObject.key = l.map MediaObject.key := by
  have hstep (c n : MediaObject) (i : Nat) :
      (isBeingRecycled .answer n (some c) ((none : Option (List MediaObject)).bind (·[i]?)) ||
        (n.mid == c.mid && n.type == c.type)) = true ↔ n.key = c.key := by
    simp [isBeingRecycled, MediaObject.key]
  simp only [PeerConnection.inSameOrder, hlen, le_refl, decide_true, Bool.true_and,
    List.all_eq_true]
  constructor
  · intro hall
    apply List.ext_getElem?
    intro i
    rw [List.getElem?_map, List.getElem?_map]
    cases hl : l[i]? with
    | none =>
      have hi := List.getElem?_eq_none_iff.mp hl
      rw [List.getElem?_eq_none (by omega)]
    | some c =>
      have hi : i < d.length := hlen ▸ (List.getElem?_eq_some_iff.mp hl).1
      have hd := List.getElem?_eq_getElem hi
      have hmem : ((c, d[i]), i) ∈ (l.zip d).zipIdx := by
        rw [List.mk_mem_zipIdx_iff_getElem?, List.getElem?_zip_eq_some]
        exact ⟨hl, hd⟩
      rw [hd, Option.map_some, Option.map_some, (hstep c d[i] i).mp (hall _ hmem)]
  · rintro hkeys ⟨⟨c, n⟩, i⟩ hmem
    rw [List.mk_mem_zipIdx_iff_getElem?, List.getElem?_zip_eq_some] at hmem
    have hi := congrArg (·[i]?) hkeys
    simp only [List.getElem?_map, hmem.1, hmem.2, Option.map_some, Option.some.injEq] at hi
    exact (hstep c n i).mpr hi

/-- An answer with other mids than the offer is refused, whatever else is in it, and nothing
changes. -/
theorem WF.setRemoteDescription_refused (h : pc.WF) (hL : pc.pendingLocal = some l)
    (hne : d.map MediaObject.mid ≠ l.map MediaObject.mid) (contents : Contents) :
    ∃ e, pc.setRemoteDescription .answer d contents = (.error e, pc) := by
  have hlocal : pc.localDescription = some l := by simp [localDescription, hL]
  have hordered :
      (l.length == d.length && PeerConnection.inSameOrder .answer l none d) = false := by
    rw [Bool.eq_false_iff, ne_eq, Bool.and_eq_true, beq_iff_eq]
    rintro ⟨hlen, horder⟩
    have heq := congrArg (List.map Prod.fst) ((inSameOrder_answer_iff hlen).mp horder)
    rw [List.map_map, List.map_map] at heq
    exact hne heq
  simp only [setRemoteDescription, validate, h.noError, hL, hlocal, Option.isSome_some,
    Option.getD_some, hordered, Bool.not_true, Bool.false_eq_true, if_false]
  by_cases hvalid : PeerConnection.validMids d = true
  · by_cases hcontents : contents = .refused
    · exact ⟨.contents, by simp [hvalid, hcontents]⟩
    · exact ⟨.mlineMismatch, by simp [hvalid, hcontents]⟩
  · exact ⟨.mids, by simp [hvalid]⟩

private theorem WF.validate_answer (h : pc.WF) (hL : pc.pendingLocal = some l)
    (hkeys : d.map MediaObject.key = l.map MediaObject.key) :
    pc.validate .answer pc.pendingLocal.isSome pc.localDescription d = .ok () := by
  have hlocal : pc.localDescription = some l := by simp [localDescription, hL]
  have hours : pc.ours = l := by simp [ours, hlocal]
  have hmids : d.map MediaObject.mid = l.map MediaObject.mid := by
    have heq := congrArg (List.map Prod.fst) hkeys
    rwa [List.map_map, List.map_map] at heq
  have hlen : l.length = d.length := by simpa using (congrArg List.length hkeys).symm
  have hvalid : PeerConnection.validMids d = true := by
    simp only [PeerConnection.validMids, Bool.and_eq_true, decide_eq_true_eq, List.all_eq_true]
    refine ⟨hmids ▸ hours ▸ h.nodup, fun c hc ↦ ?_⟩
    obtain ⟨c', hc', hmid⟩ := List.mem_map.mp (hmids ▸ List.mem_map_of_mem hc)
    obtain ⟨k, -, hk⟩ := h.generated c' (hours ▸ hc')
    rw [← hmid, hk, Nat.toString_eq_repr]
    simp
  simp [validate, h.noError, hL, hlocal, hvalid, hlen, (inSameOrder_answer_iff hlen).mpr hkeys]

/-- Nobody has the section of a medium. -/
def unowned (ts : List RtpTransceiver) (c : MediaObject) : Bool :=
  c.type != .application && (findByMid ts c.mid).isNone

/-- The transceivers that a remote description adds, one for each section that nobody has. -/
def newcomers (ts : List RtpTransceiver) (n : Nat) (d : List MediaObject) : List RtpTransceiver :=
  (d.zipIdx.filter fun ci ↦ unowned ts ci.1).mapIdx fun k ci ↦
    { ref := n + k, mediaType := ci.1.type, mid := some ci.1.mid, mlineIndex := some ci.2,
      direction := .recvonly }

section Newcomers

variable {ts : List RtpTransceiver} {n : Nat} {m : Option String} {c : MediaObject}
  {t : RtpTransceiver}

private theorem newcomers_concat_of_owned (hc : unowned ts c = false) :
    newcomers ts n (l ++ [c]) = newcomers ts n l := by
  simp [newcomers, List.zipIdx_append, hc]

private theorem newcomers_concat (hc : unowned ts c = true) :
    newcomers ts n (l ++ [c]) = newcomers ts n l ++
      [{ ref := n + (newcomers ts n l).length, mediaType := c.type, mid := some c.mid,
         mlineIndex := some l.length, direction := .recvonly }] := by
  simp [newcomers, List.zipIdx_append, hc, List.mapIdx_append]

/-- A newcomer belongs to a section that nobody has. -/
theorem mem_newcomers (ht : t ∈ newcomers ts n d) :
    n ≤ t.ref ∧ t.ref < n + (newcomers ts n d).length ∧ t.stopped = false ∧
      ∃ c ∈ d, unowned ts c = true ∧ t.mid = some c.mid ∧ t.mediaType = c.type := by
  obtain ⟨k, hk, rfl⟩ := List.mem_mapIdx.mp ht
  have hmem := List.mem_filter.mp (List.getElem_mem hk)
  refine ⟨Nat.le_add_right n k, ?_, rfl, _, List.fst_mem_of_mem_zipIdx hmem.1, hmem.2, rfl, rfl⟩
  simpa [newcomers] using hk

/-- Newcomers are numbered in their order. -/
theorem newcomers_refs (ts : List RtpTransceiver) (n : Nat) (d : List MediaObject) :
    (newcomers ts n d).map RtpTransceiver.ref = List.range' n (newcomers ts n d).length := by
  apply List.ext_getElem
  · simp
  · intro i hi hi'
    simp [newcomers]

/-- Newcomers have the mids of the sections nobody owns. -/
theorem newcomers_mids (ts : List RtpTransceiver) (n : Nat) (d : List MediaObject) :
    (newcomers ts n d).map RtpTransceiver.mid =
      (d.filter (unowned ts)).map (some ∘ MediaObject.mid) := by
  induction d using List.reverseRecOn with
  | nil => rfl
  | append_singleton l c ih =>
    rw [List.filter_append, List.map_append, ← ih]
    cases hc : unowned ts c with
    | true => simp [newcomers_concat hc, hc]
    | false => simp [newcomers_concat_of_owned hc, hc]

/-- A section that nobody owns gets a newcomer. -/
theorem exists_newcomer (n : Nat) (hc : c ∈ d) (hun : unowned ts c = true) :
    ∃ t ∈ newcomers ts n d, t.mid = some c.mid := by
  refine List.mem_map.mp ?_
  rw [newcomers_mids]
  exact List.mem_map.mpr ⟨c, List.mem_filter.mpr ⟨hc, hun⟩, rfl⟩

/-- Associating a section with the transceiver that has its mid marks this one. -/
theorem updateTransceiver_markIn (h : Listed ts n)
    (hnodup : ((l ++ [c]).map MediaObject.mid).Nodup) (ht : t ∈ ts) (hmid : t.mid = some c.mid) :
    updateTransceiver (ts.map (markIn l)) t.ref
        (fun t ↦ { t with mid := some c.mid, mlineIndex := some l.length }) =
      ts.map (markIn (l ++ [c])) := by
  simp only [updateTransceiver, List.map_map]
  refine List.map_congr_left fun t' ht' ↦ ?_
  rw [markIn_concat h hnodup ht hmid ht']
  simp only [Function.comp_apply, markIn_ref]
  split
  · next hr =>
    obtain rfl := eq_of_ref_eq h.refs ht' ht hr
    simp only [markIn_mid, hmid]
  · rfl

private theorem updateTransceiver_newcomers (ht : t.ref < n) (f : RtpTransceiver → RtpTransceiver) :
    updateTransceiver (newcomers ts n d) t.ref f = newcomers ts n d := by
  refine (List.map_congr_left fun t' ht' ↦ ?_).trans (List.map_id _)
  rw [if_neg (ht.trans_le (mem_newcomers ht').1).ne']
  rfl

-- The remote loop over the section behind a prefix.
private theorem remoteStep_concat (h : Listed ts n)
    (hnodup : ((l ++ [c]).map MediaObject.mid).Nodup)
    (htype : ∀ t ∈ ts, t.mid = some c.mid → t.mediaType = c.type) :
    Associating.remoteStep
        ⟨ts.map (markIn l) ++ newcomers ts n l, dataMidAfter l m,
          n + (newcomers ts n l).length, true⟩
        (c, l.length) =
      ⟨ts.map (markIn (l ++ [c])) ++ newcomers ts n (l ++ [c]), dataMidAfter (l ++ [c]) m,
        n + (newcomers ts n (l ++ [c])).length, true⟩ := by
  have hkeep (hf : findByMid ts c.mid = none) :
      ts.map (markIn (l ++ [c])) = ts.map (markIn l) :=
    List.map_congr_left fun t ht ↦ markIn_concat_of_ne (findByMid_eq_none.mp hf t ht)
  unfold Associating.remoteStep
  simp only [Bool.not_true, Bool.false_eq_true, if_false]
  by_cases happ : c.type = .application
  · have hf : findByMid ts c.mid = none := findByMid_eq_none.mpr fun t ht hmid ↦
      h.media t ht ((htype t ht hmid).trans happ)
    rw [if_pos happ, hkeep hf, newcomers_concat_of_owned (by simp [unowned, happ]),
      dataMidAfter_concat, if_pos happ]
  · rw [if_neg happ, dataMidAfter_concat, if_neg happ]
    -- the newcomers so far belong to other sections
    have hnew : findByMid (newcomers ts n l) c.mid = none :=
      findByMid_eq_none.mpr fun t ht hmid ↦ by
      obtain ⟨-, -, -, c', hc', -, hmid', -⟩ := mem_newcomers ht
      rw [List.map_append, List.nodup_append] at hnodup
      refine hnodup.2.2 c'.mid (List.mem_map_of_mem hc') c.mid (by simp) ?_
      exact Option.some.inj (hmid'.symm.trans hmid)
    have hfind : findByMid (ts.map (markIn l) ++ newcomers ts n l) c.mid =
        (findByMid ts c.mid).map (markIn l) := by
      rw [← findByMid_map_markIn]
      unfold findByMid at hnew ⊢
      rw [List.find?_append, hnew, Option.or_none]
    rw [hfind]
    cases hf : findByMid ts c.mid with
    | none =>
      rw [hkeep hf, newcomers_concat (by simp [unowned, happ, hf])]
      simp [Nat.add_assoc]
    | some t =>
      obtain ⟨ht, hmid⟩ := findByMid_eq_some hf
      have hty : (markIn l t).mediaType = c.type :=
        (RtpTransceiver.fields_of_unplaced_eq (markIn_unplaced l t)).2.1.trans (htype t ht hmid)
      rw [newcomers_concat_of_owned (by simp [unowned, hf])]
      simp only [Option.map_some, hty, ne_eq, not_true_eq_false, if_false, markIn_ref]
      rw [updateTransceiver_append, updateTransceiver_markIn h hnodup ht hmid,
        updateTransceiver_newcomers (h.fresh t ht)]

/-- The remote loop over a description whose sections agree with the transceivers. -/
theorem remoteLoop (h : Listed ts n) (hnodup : (d.map MediaObject.mid).Nodup)
    (htype : ∀ c ∈ d, ∀ t ∈ ts, t.mid = some c.mid → t.mediaType = c.type) :
    d.zipIdx.foldl Associating.remoteStep ⟨ts, m, n, true⟩ =
      ⟨ts.map (markIn d) ++ newcomers ts n d, dataMidAfter d m, n + (newcomers ts n d).length,
        true⟩ := by
  have hall (l : List MediaObject) (hl : l <+: d) :
      l.zipIdx.foldl Associating.remoteStep ⟨ts, m, n, true⟩ =
        ⟨ts.map (markIn l) ++ newcomers ts n l, dataMidAfter l m, n + (newcomers ts n l).length,
          true⟩ := by
    induction l using List.reverseRecOn with
    | nil =>
      have hid : ts.map (markIn []) = ts :=
        (List.map_congr_left fun _ _ ↦ rfl).trans (List.map_id _)
      rw [hid]
      exact congrArg (fun ts' ↦ Associating.mk ts' m n true) (List.append_nil ts).symm
    | append_singleton l c ih =>
      rw [List.zipIdx_append, List.foldl_append, ih ((List.prefix_append l [c]).trans hl)]
      simp only [List.zipIdx_cons, List.zipIdx_nil, List.foldl_cons, List.foldl_nil, Nat.zero_add]
      exact remoteStep_concat h ((hl.map _).sublist.nodup hnodup) (htype c (hl.subset (by simp)))
  exact hall d (List.prefix_refl _)

end Newcomers

/-- A transceiver whose section is not rejected. -/
def survives (d : List MediaObject) (t : RtpTransceiver) : Bool :=
  !((d.find? fun c ↦ t.mid == some c.mid).any MediaObject.rejected)

/-- A transceiver survives if its section does. -/
theorem survives_eq (hnodup : (d.map MediaObject.mid).Nodup) {t : RtpTransceiver}
    {c : MediaObject} (hc : c ∈ d) (hmid : t.mid = some c.mid) :
    survives d t = !c.rejected := by
  have hfind : d.find? (fun c ↦ t.mid == some c.mid) = some c := by
    cases hf : d.find? fun c ↦ t.mid == some c.mid with
    | none => simpa [hmid] using List.find?_eq_none.mp hf c hc
    | some c' =>
      have hc' : t.mid = some c'.mid := by simpa using List.find?_some hf
      rw [List.inj_on_of_nodup_map hnodup (List.mem_of_find?_eq_some hf) hc
        (Option.some.inj (hc'.symm.trans hmid))]
  rw [survives, hfind, Option.any_some]

/-- Removing what is stopped by a description. -/
theorem filter_stopRejected (d : List MediaObject) (ts : List RtpTransceiver) :
    (stopRejected d ts).filter (fun t ↦ !t.stopped) =
      ts.filter fun t ↦ survives d t && !t.stopped := by
  induction ts with
  | nil => rfl
  | cons t ts ih =>
    simp only [stopRejected, List.map_cons] at ih ⊢
    rw [List.filter_cons, List.filter_cons, ih]
    cases hr : (d.find? fun c ↦ t.mid == some c.mid).any MediaObject.rejected <;>
      simp [survives, hr]

/-- The peer connection that has applied an answer. -/
def answered (pc : PeerConnection) (d : List MediaObject) (nextRef : Nat) : PeerConnection :=
  { pc with
    currentRemote := some d
    pendingRemote := none
    currentLocal := pc.pendingLocal
    pendingLocal := none
    transceivers := (pc.transceivers.filter (survives d)).map (markIn d)
    dataMid := dataMidAfter d pc.dataMid
    nextRef := nextRef }

private theorem WF.nodup_of_keys (h : pc.WF) (hL : pc.pendingLocal = some l)
    (hkeys : d.map MediaObject.key = l.map MediaObject.key) : (d.map MediaObject.mid).Nodup := by
  have hours : pc.ours = l := by simp [ours, localDescription, hL]
  have hmids : d.map MediaObject.mid = l.map MediaObject.mid := by
    have heq := congrArg (List.map Prod.fst) hkeys
    rwa [List.map_map, List.map_map] at heq
  exact hmids ▸ hours ▸ h.nodup

/-- An answer with the m= lines of the offer is accepted, and removes the transceivers whose
section it rejects. -/
theorem WF.setRemoteDescription_answer (h : pc.WF) (hL : pc.pendingLocal = some l)
    (hkeys : d.map MediaObject.key = l.map MediaObject.key)
    (hgone : ∀ c ∈ d, c.type ≠ .application → findByMid pc.transceivers c.mid = none →
      c.rejected = true) :
    ∃ nextRef, pc.nextRef ≤ nextRef ∧
      pc.setRemoteDescription .answer d = (.ok (), pc.answered d nextRef) := by
  have hours : pc.ours = l := by simp [ours, localDescription, hL]
  have hnodup := h.nodup_of_keys hL hkeys
  have htype (c : MediaObject) (hc : c ∈ d) (t : RtpTransceiver) (ht : t ∈ pc.transceivers)
      (hmid : t.mid = some c.mid) : t.mediaType = c.type := by
    obtain ⟨c', hc', hkey⟩ := List.mem_map.mp (hkeys ▸ List.mem_map_of_mem hc)
    simp only [MediaObject.key, Prod.mk.injEq] at hkey
    exact (h.type_eq ht (hours ▸ hc') (hkey.1 ▸ hmid)).symm.trans hkey.2
  have hloop : d.zipIdx.foldl Associating.remoteStep pc.associating = _ :=
    remoteLoop (m := pc.dataMid) h.listed hnodup htype
  have hkept : (stopRejected d (pc.transceivers.map (markIn d) ++
        newcomers pc.transceivers pc.nextRef d)).filter (fun t ↦ !t.stopped) =
      (pc.transceivers.filter (survives d)).map (markIn d) := by
    -- a newcomer belongs to a rejected section
    have hnew : (newcomers pc.transceivers pc.nextRef d).filter
        (fun t ↦ survives d t && !t.stopped) = [] := by
      refine List.filter_eq_nil_iff.mpr fun t ht ↦ ?_
      obtain ⟨-, -, -, c, hc, hun, hmid, -⟩ := mem_newcomers ht
      simp only [unowned, Bool.and_eq_true, bne_iff_ne, Option.isNone_iff_eq_none] at hun
      simp [survives_eq hnodup hc hmid, hgone c hc hun.1 hun.2]
    rw [filter_stopRejected, List.filter_append, hnew, List.append_nil, List.filter_map]
    refine congrArg (List.map (markIn d)) (List.filter_congr fun t ht ↦ ?_)
    have hs := (RtpTransceiver.fields_of_unplaced_eq (markIn_unplaced d t)).2.2.2
    simp [survives, hs, h.live t ht]
  refine ⟨_, Nat.le_add_right _ (newcomers pc.transceivers pc.nextRef d).length, ?_⟩
  simp only [setRemoteDescription, h.validate_answer hL hkeys, hloop, removeStopped,
    Associating.store, hkept]
  rfl

/-- Of the sections for media, those that the answer rejects have no transceiver. -/
theorem WF.answered_rejected (h : pc.WF) (hL : pc.pendingLocal = some l)
    (hkeys : d.map MediaObject.key = l.map MediaObject.key)
    (hgone : ∀ c ∈ d, c.type ≠ .application → findByMid pc.transceivers c.mid = none →
      c.rejected = true) (nextRef : Nat) {c : MediaObject} (hc : c ∈ d)
    (happ : c.type ≠ .application) :
    c.rejected = true ↔ findByMid (pc.answered d nextRef).transceivers c.mid = none := by
  have hnodup := h.nodup_of_keys hL hkeys
  simp only [answered, findByMid_map_markIn, Option.map_eq_none_iff]
  rw [findByMid_eq_none]
  constructor
  · intro hrej t ht hmid
    rw [List.mem_filter, survives_eq hnodup hc hmid, hrej] at ht
    simp at ht
  · intro hnone
    cases hf : findByMid pc.transceivers c.mid with
    | none => exact hgone c hc happ hf
    | some t =>
      obtain ⟨ht, hmid⟩ := findByMid_eq_some hf
      by_contra hrej
      refine hnone t (List.mem_filter.mpr ⟨ht, ?_⟩) hmid
      simpa [survives_eq hnodup hc hmid] using hrej

/-- The peer connection after an answer. -/
theorem WF.answered (h : pc.WF) (hL : pc.pendingLocal = some l)
    (hkeys : d.map MediaObject.key = l.map MediaObject.key)
    (hgone : ∀ c ∈ d, c.type ≠ .application → findByMid pc.transceivers c.mid = none →
      c.rejected = true) {nextRef : Nat} (hn : pc.nextRef ≤ nextRef) :
    (pc.answered d nextRef).WF := by
  have hl : pc.ours = l := by simp [ours, localDescription, hL]
  have hours : (pc.answered d nextRef).ours = pc.ours := by
    simp [ours, localDescription, PeerConnection.answered, hL]
  have hcore : (pc.answered d nextRef).transceivers.map RtpTransceiver.core =
      (pc.transceivers.filter (survives d)).map RtpTransceiver.core := by
    simp only [PeerConnection.answered, List.map_map]
    exact List.map_congr_left fun t _ ↦ markIn_core d t
  refine h.of_sublist (hcore ▸ List.filter_sublist.map _) hours ?_ ?_ rfl h.noError le_rfl hn
  · have hlen := congrArg List.length hkeys
    rw [hours, hl]
    simp only [List.length_map] at hlen
    exact hlen.le
  · intro i c hc happ hf
    right
    rw [hours, hl] at hc
    have hi := congrArg (·[i]?) hkeys
    simp only [List.getElem?_map, hc, Option.map_some, Option.map_eq_some_iff] at hi
    obtain ⟨c', hc', hkey⟩ := hi
    simp only [MediaObject.key, Prod.mk.injEq] at hkey
    have hrej := (h.answered_rejected hL hkeys hgone nextRef (List.mem_of_getElem? hc')
      (hkey.2 ▸ happ)).mpr (hkey.1 ▸ hf)
    have hrem : (pc.answered d nextRef).remoteDescription = some d := rfl
    simp only [hrem, rejectedAt, Option.bind_some, hc', hrej]

end Answer

end PeerConnection

end RtcClient.Sdp
