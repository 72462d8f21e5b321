import RtcClient.Sdp.Agreement

/-!
# How a remote offer is answered

On a receiving transport the offers come from the remote description, and WebRTC answers
(`deps/webrtc/src/pc/sdp_offer_answer.cc`). `Answerer` is what its peer connection keeps: a
section is open exactly if it has a transceiver. An offer may reject sections, put a new one in
the place of a rejected one or add new ones (`Follows`); it is accepted, and the answer has its
m= lines. An offer that is still without its answer may be followed by another one.
-/

namespace RtcClient.Sdp

open RtcClient.Ortc RtcClient.Lib

/-- The lines of an offer after those of the one before. -/
structure Follows (ls ls' : List Line) : Prop where
  length : ls.length ≤ ls'.length
  place : ∀ (i : Nat) (l l' : Line), ls[i]? = some l → ls'[i]? = some l' →
    (l'.mid = l.mid ∧ l'.type = l.type) ∨ (l.rejected = true ∧ l'.rejected = false)
  origin : ∀ l' ∈ ls', (∃ l ∈ ls, l'.mid = l.mid ∧ l'.type = l.type ∧
    (l.rejected = true → l'.rejected = true)) ∨ (l'.mid ∉ ls.map Line.mid ∧ l'.rejected = false)
  nodup : (ls'.map Line.mid).Nodup

namespace PeerConnection

/-- The sections of the remote description. -/
def theirs (pc : PeerConnection) : List MediaObject := pc.remoteDescription.getD []

/-- What a peer connection that only answers keeps. -/
structure Answerer (pc : PeerConnection) : Prop where
  listed : Listed pc.transceivers pc.nextRef
  live : ∀ t ∈ pc.transceivers, t.stopped = false
  owned : ∀ t ∈ pc.transceivers, ∃ c ∈ pc.theirs, t.mid = some c.mid ∧ t.mediaType = c.type
  owner : ∀ c ∈ pc.theirs, c.type ≠ .application →
    (c.rejected = true ↔ findByMid pc.transceivers c.mid = none)
  nodup : (pc.theirs.map MediaObject.mid).Nodup
  ours : ∀ l, pc.currentLocal = some l → l.map MediaObject.key = pc.theirs.map MediaObject.key
  data : DataAgree pc.dataMid (pc.theirs.map MediaObject.line)
  noError : pc.sessionError = false
  noLocalOffer : pc.pendingLocal = none

/-- The peer connection has an offer to answer: every section for media has its transceiver,
which is stopped if the section is rejected. -/
structure HasOffer (pc : PeerConnection) (d : List MediaObject) : Prop where
  listed : Listed pc.transceivers pc.nextRef
  owned : ∀ t ∈ pc.transceivers, ∃ c ∈ d, t.mid = some c.mid ∧ t.mediaType = c.type ∧
    t.stopped = c.rejected
  owner : ∀ c ∈ d, c.type ≠ .application → findByMid pc.transceivers c.mid ≠ none
  nodup : (d.map MediaObject.mid).Nodup
  valid : validMids d = true
  data : DataAgree pc.dataMid (d.map MediaObject.line)
  noError : pc.sessionError = false
  noLocalOffer : pc.pendingLocal = none
  pending : pc.pendingRemote = some d

variable {pc : PeerConnection} {d a : List MediaObject} {m : Option String}

section Offer

/-- The peer connection that has taken an offer. -/
def offeredBy (pc : PeerConnection) (d : List MediaObject) : PeerConnection :=
  { pc with
    pendingRemote := some d
    transceivers := stopRejected d (pc.transceivers.map (markIn d) ++
      newcomers pc.transceivers pc.nextRef d)
    dataMid := dataMidAfter d pc.dataMid
    nextRef := pc.nextRef + (newcomers pc.transceivers pc.nextRef d).length }

/-- The section of a transceiver goes on in an offer. -/
theorem Answerer.section_of_mem (h : pc.Answerer)
    (hf : Follows (pc.theirs.map MediaObject.line) (d.map MediaObject.line)) {t : RtpTransceiver}
    (ht : t ∈ pc.transceivers) : ∃ c ∈ d, t.mid = some c.mid ∧ t.mediaType = c.type := by
  obtain ⟨c, hc, hmid, hty⟩ := h.owned t ht
  have hopen : c.rejected ≠ true := fun hrej ↦
    findByMid_eq_none.mp ((h.owner c hc (hty ▸ h.listed.media t ht)).mp hrej) t ht hmid
  obtain ⟨i, hi⟩ := List.mem_iff_getElem?.mp hc
  obtain ⟨hlt, -⟩ := List.getElem?_eq_some_iff.mp hi
  have hlen := hf.length
  simp only [List.length_map] at hlen
  have hc' : d[i]? = some d[i] := List.getElem?_eq_getElem (by omega)
  have hplace := hf.place i c.line d[i].line (by simp [hi]) (by simp [hc'])
  rcases hplace with ⟨hm, ht⟩ | ⟨hrej, -⟩
  · exact ⟨d[i], List.mem_of_getElem? hc', hmid.trans (congrArg some hm.symm), hty.trans ht.symm⟩
  · exact absurd hrej hopen

/-- The section of a transceiver is of its type. -/
theorem Answerer.type_eq (h : pc.Answerer)
    (hf : Follows (pc.theirs.map MediaObject.line) (d.map MediaObject.line))
    (hnodup : (d.map MediaObject.mid).Nodup) {c : MediaObject} (hc : c ∈ d) {t : RtpTransceiver}
    (ht : t ∈ pc.transceivers) (hmid : t.mid = some c.mid) : t.mediaType = c.type := by
  obtain ⟨c', hc', hmid', hty⟩ := h.section_of_mem hf ht
  have hsame : c' = c :=
    List.inj_on_of_nodup_map hnodup hc' hc (Option.some.inj (hmid'.symm.trans hmid))
  exact hsame ▸ hty

/-- The section before, in whichever description it is looked for. -/
theorem inSameOrder_of_follows
    (hf : Follows (pc.theirs.map MediaObject.line) (d.map MediaObject.line))
    {current : List MediaObject} {secondary : Option (List MediaObject)}
    (hkeys : current.map MediaObject.key = pc.theirs.map MediaObject.key)
    (hsecond : current = pc.theirs ∨ secondary = pc.remoteDescription) :
    PeerConnection.inSameOrder .offer current secondary d = true := by
  have hlen := hf.length
  have hlen' := congrArg List.length hkeys
  simp only [List.length_map] at hlen hlen'
  refine inSameOrder_offer (by omega) fun i c n hc hn ↦ ?_
  have hi := congrArg (·[i]?) hkeys
  simp only [List.getElem?_map, hc, Option.map_some] at hi
  obtain ⟨c', hc', hkey⟩ := Option.map_eq_some_iff.mp hi.symm
  simp only [MediaObject.key, Prod.mk.injEq] at hkey
  rcases hf.place i c'.line n.line (by simp [hc']) (by simp [hn]) with ⟨hmid, hty⟩ | ⟨hrej, hopen⟩
  · exact .inl ⟨hmid.trans hkey.1, hty.trans hkey.2⟩
  · refine .inr ⟨hopen, ?_⟩
    rcases hsecond with rfl | rfl
    · obtain rfl : c' = c := Option.some.inj (hc'.symm.trans hc)
      exact .inl hrej
    · right
      have hat : pc.remoteDescription.bind (·[i]?) = some c' := by
        cases hR : pc.remoteDescription with
        | none => simp [theirs, hR] at hc'
        | some r => simpa [theirs, hR] using hc'
      simp only [rejectedAt, hat]
      exact hrej

private theorem Answerer.validate_offer (h : pc.Answerer)
    (hf : Follows (pc.theirs.map MediaObject.line) (d.map MediaObject.line))
    (hvalid : validMids d = true) (counterpart : Option (List MediaObject)) :
    pc.validate .offer pc.pendingLocal.isNone counterpart d = .ok () := by
  simp only [validate, h.noError, h.noLocalOffer, hvalid, Option.isNone_none, Bool.not_true,
    Bool.false_eq_true, if_false]
  cases hL : pc.localDescription with
  | none =>
    cases hR : pc.remoteDescription with
    | none => rfl
    | some current =>
      have htheirs : current = pc.theirs := by simp [theirs, hR]
      exact if_pos (inSameOrder_of_follows hf (htheirs ▸ rfl) (.inl htheirs))
  | some current =>
    have hcurrent : pc.currentLocal = some current := by
      simpa [localDescription, h.noLocalOffer] using hL
    exact if_pos (inSameOrder_of_follows hf (h.ours current hcurrent) (.inr rfl))

/-- An offer that follows the one before is accepted. -/
theorem Answerer.setRemoteDescription_offer (h : pc.Answerer)
    (hf : Follows (pc.theirs.map MediaObject.line) (d.map MediaObject.line))
    (hvalid : validMids d = true) :
    pc.setRemoteDescription .offer d = (.ok (), pc.offeredBy d) := by
  have hnodup : (d.map MediaObject.mid).Nodup := by
    have := hf.nodup
    rwa [List.map_map] at this
  have hloop : d.zipIdx.foldl Associating.remoteStep pc.associating = _ :=
    remoteLoop (m := pc.dataMid) h.listed hnodup fun c hc t ht hmid ↦ h.type_eq hf hnodup hc ht hmid
  simp only [setRemoteDescription, h.validate_offer hf hvalid, hloop, Associating.store]
  rfl

/-- A newcomer has the section of another mid than everybody else. -/
theorem listed_newcomers {ts : List RtpTransceiver} {n : Nat} (h : Listed ts n)
    (hnodup : (d.map MediaObject.mid).Nodup) :
    Listed (ts ++ newcomers ts n d) (n + (newcomers ts n d).length) := by
  have hmids : ((newcomers ts n d).map RtpTransceiver.mid).Nodup := by
    rw [newcomers_mids, ← List.map_map]
    refine List.Nodup.map (Option.some_injective _) ?_
    exact (List.filter_sublist.map MediaObject.mid).nodup hnodup
  have hother {t t' : RtpTransceiver} {mid : String} (ht : t ∈ ts)
      (ht' : t' ∈ newcomers ts n d) (hm : t.mid = some mid)
      (hm' : t'.mid = some mid) : False := by
    obtain ⟨-, -, -, c, -, hun, hmid, -⟩ := mem_newcomers ht'
    simp only [unowned, Bool.and_eq_true, Option.isNone_iff_eq_none] at hun
    exact findByMid_eq_none.mp hun.2 t ht (hm.trans (hm'.symm.trans hmid))
  refine ⟨?_, ?_, ?_, ?_⟩
  · rw [List.map_append, newcomers_refs]
    refine List.nodup_append.mpr ⟨h.refs, List.nodup_range', fun r hr r' hr' ↦ ?_⟩
    obtain ⟨t, ht, rfl⟩ := List.mem_map.mp hr
    have := h.fresh t ht
    rw [List.mem_range'_1] at hr'
    omega
  · intro t ht
    rcases List.mem_append.mp ht with ht | ht
    · exact (h.fresh t ht).trans_le (Nat.le_add_right _ _)
    · exact (mem_newcomers ht).2.1
  · intro t ht
    rcases List.mem_append.mp ht with ht | ht
    · exact h.media t ht
    · obtain ⟨-, -, -, c, -, hun, -, hty⟩ := mem_newcomers ht
      simp only [unowned, Bool.and_eq_true, bne_iff_ne] at hun
      exact hty ▸ hun.1
  · intro t ht t' ht' mid hm hm'
    rcases List.mem_append.mp ht with ht | ht <;> rcases List.mem_append.mp ht' with ht' | ht'
    · exact h.mids t ht t' ht' mid hm hm'
    · exact (hother ht ht' hm hm').elim
    · exact (hother ht' ht hm' hm).elim
    · exact List.inj_on_of_nodup_map hmids ht ht' (hm.trans hm'.symm)

private theorem mem_stopRejected {ts : List RtpTransceiver} {t : RtpTransceiver}
    (ht : t ∈ stopRejected d ts) :
    ∃ t₀ ∈ ts, t.identity = t₀.identity ∧ t.stopped = (t₀.stopped || !survives d t₀) := by
  obtain ⟨t₀, ht₀, rfl⟩ := List.mem_map.mp ht
  refine ⟨t₀, ht₀, ?_⟩
  rw [survives, Bool.not_not]
  split
  · next hrej => simp [RtpTransceiver.identity, hrej]
  · next hrej => simp [hrej]

private theorem stopRejected_identity (d : List MediaObject) (ts : List RtpTransceiver) :
    (stopRejected d ts).map RtpTransceiver.identity = ts.map RtpTransceiver.identity := by
  rw [stopRejected, List.map_map]
  refine List.map_congr_left fun t _ ↦ ?_
  simp only [Function.comp_apply]
  split <;> rfl

private theorem markIn_identity (d : List MediaObject) (ts : List RtpTransceiver) :
    (ts.map (markIn d)).map RtpTransceiver.identity = ts.map RtpTransceiver.identity := by
  rw [List.map_map]
  refine List.map_congr_left fun t _ ↦ ?_
  obtain ⟨-, hty, -, -⟩ := RtpTransceiver.fields_of_unplaced_eq (markIn_unplaced d t)
  simp [RtpTransceiver.identity, hty]

private theorem offeredBy_identity (pc : PeerConnection) (d : List MediaObject) :
    (pc.offeredBy d).transceivers.map RtpTransceiver.identity =
      (pc.transceivers ++ newcomers pc.transceivers pc.nextRef d).map RtpTransceiver.identity := by
  rw [offeredBy, stopRejected_identity, List.map_append, List.map_append, markIn_identity]

/-- The peer connection has taken the offer. -/
theorem Answerer.hasOffer (h : pc.Answerer)
    (hf : Follows (pc.theirs.map MediaObject.line) (d.map MediaObject.line))
    (hvalid : validMids d = true) (hdata : DataAgree m (d.map MediaObject.line))
    (hstart : pc.dataMid = m ∨ pc.dataMid = none) : (pc.offeredBy d).HasOffer d := by
  have hnodup : (d.map MediaObject.mid).Nodup := by
    have := hf.nodup
    rwa [List.map_map] at this
  have hmid : (pc.offeredBy d).dataMid = m := hdata.dataMidAfter_eq hstart
  refine ⟨(listed_newcomers h.listed hnodup).of_identity (offeredBy_identity pc d), ?_, ?_,
    hnodup, hvalid,
    hmid ▸ hdata, h.noError, h.noLocalOffer, rfl⟩
  · intro t ht
    obtain ⟨t₀, ht₀, hid, hstopped⟩ := mem_stopRejected ht
    simp only [RtpTransceiver.identity, Prod.mk.injEq] at hid
    have hsection : ∃ c ∈ d, t₀.mid = some c.mid ∧ t₀.mediaType = c.type ∧ t₀.stopped = false := by
      rcases List.mem_append.mp ht₀ with ht₀ | ht₀
      · obtain ⟨t₁, ht₁, rfl⟩ := List.mem_map.mp ht₀
        obtain ⟨-, hty, hmid, hst⟩ := RtpTransceiver.fields_of_unplaced_eq (markIn_unplaced d t₁)
        rw [hty, hmid, hst, h.live t₁ ht₁]
        obtain ⟨c, hc, hm, ht⟩ := h.section_of_mem hf ht₁
        exact ⟨c, hc, hm, ht, rfl⟩
      · obtain ⟨-, -, hst, c, hc, -, hm, hty⟩ := mem_newcomers ht₀
        exact ⟨c, hc, hm, hty, hst⟩
    obtain ⟨c, hc, hm, hty, hst⟩ := hsection
    refine ⟨c, hc, hid.2.2.trans hm, hid.2.1.trans hty, ?_⟩
    rw [hstopped, hst, survives_eq hnodup hc hm, Bool.not_not, Bool.false_or]
  · intro c hc happ hnone
    -- a section that nobody has gets a newcomer
    obtain ⟨t, ht, hm⟩ : ∃ t ∈ pc.transceivers ++ newcomers pc.transceivers pc.nextRef d,
        t.mid = some c.mid := by
      cases hf : findByMid pc.transceivers c.mid with
      | some t => exact
        ⟨t, List.mem_append_left _ (findByMid_eq_some hf).1, (findByMid_eq_some hf).2⟩
      | none =>
        have hun : unowned pc.transceivers c = true := by simp [unowned, happ, hf]
        obtain ⟨t, ht, hm⟩ := exists_newcomer pc.nextRef hc hun
        exact ⟨t, List.mem_append_right _ ht, hm⟩
    obtain ⟨t', ht', hid⟩ := List.mem_map.mp (offeredBy_identity pc d ▸ List.mem_map_of_mem ht)
    simp only [RtpTransceiver.identity, Prod.mk.injEq] at hid
    exact findByMid_eq_none.mp hnone t' ht' (hid.2.2.trans hm)

end Offer

section Answer

variable {ts : List RtpTransceiver} {n : Nat} {l : List MediaObject} {c : MediaObject}

-- The local loop over the section behind a prefix, which has its transceiver.
private theorem localStep_concat (h : Listed ts n)
    (hnodup : ((l ++ [c]).map MediaObject.mid).Nodup)
    (htype : ∀ t ∈ ts, t.mid = some c.mid → t.mediaType = c.type)
    (howner : c.type ≠ .application → findByMid ts c.mid ≠ none) :
    Associating.localStep ⟨ts.map (markIn l), dataMidAfter l m, n, true⟩ (c, l.length) =
      ⟨ts.map (markIn (l ++ [c])), dataMidAfter (l ++ [c]) m, n, true⟩ := by
  unfold Associating.localStep
  simp only [Bool.not_true, Bool.false_eq_true, if_false]
  by_cases happ : c.type = .application
  · have hkeep : ts.map (markIn (l ++ [c])) = ts.map (markIn l) :=
      List.map_congr_left fun t ht ↦ markIn_concat_of_ne fun hmid ↦
        h.media t ht ((htype t ht hmid).trans happ)
    rw [if_pos happ, hkeep, dataMidAfter_concat, if_pos happ]
  · obtain ⟨t, hf⟩ := Option.ne_none_iff_exists'.mp (howner happ)
    obtain ⟨ht, hmid⟩ := findByMid_eq_some hf
    have hty : (markIn l t).mediaType = c.type :=
      (RtpTransceiver.fields_of_unplaced_eq (markIn_unplaced l t)).2.1.trans (htype t ht hmid)
    rw [if_neg happ, dataMidAfter_concat, if_neg happ, findByMid_map_markIn, hf, Option.map_some]
    have hfirst : (some (markIn l t) <|> findByMLineIndex (ts.map (markIn l)) l.length) =
        some (markIn l t) := rfl
    simp only [hfirst, hty, ne_eq, not_true_eq_false, if_false, markIn_ref]
    rw [updateTransceiver_markIn h hnodup ht hmid]

/-- The local loop over a description all of whose sections have their transceivers. -/
theorem localLoop_owned (h : Listed ts n) (hnodup : (d.map MediaObject.mid).Nodup)
    (htype : ∀ c ∈ d, ∀ t ∈ ts, t.mid = some c.mid → t.mediaType = c.type)
    (howner : ∀ c ∈ d, c.type ≠ .application → findByMid ts c.mid ≠ none) :
    d.zipIdx.foldl Associating.localStep ⟨ts, m, n, true⟩ =
      ⟨ts.map (markIn d), dataMidAfter d m, n, true⟩ := by
  have hall (l : List MediaObject) (hl : l <+: d) :
      l.zipIdx.foldl Associating.localStep ⟨ts, m, n, true⟩ =
        ⟨ts.map (markIn l), dataMidAfter l m, n, true⟩ := by
    induction l using List.reverseRecOn with
    | nil =>
      have hid : ts.map (markIn []) = ts :=
        (List.map_congr_left fun _ _ ↦ rfl).trans (List.map_id _)
      rw [hid]
      rfl
    | append_singleton l c ih =>
      have hc : c ∈ d := hl.subset (by simp)
      rw [List.zipIdx_append, List.foldl_append, ih ((List.prefix_append l [c]).trans hl)]
      simp only [List.zipIdx_cons, List.zipIdx_nil, List.foldl_cons, List.foldl_nil, Nat.zero_add]
      exact localStep_concat h ((hl.map _).sublist.nodup hnodup) (htype c hc) (howner c hc)
  exact hall d (List.prefix_refl _)

/-- The answer has the m= lines of the offer. -/
theorem HasOffer.createAnswer_lines (h : pc.HasOffer d) (describe : Option Nat → LocalMedia) :
    (pc.createAnswer describe).map MediaObject.line = d.map MediaObject.line := by
  have hremote : pc.remoteDescription.getD [] = d := by simp [remoteDescription, h.pending]
  rw [createAnswer, hremote, List.map_map]
  refine List.map_congr_left fun c hc ↦ ?_
  rw [Function.comp_apply, describeSection_line]
  split
  · next happ =>
    obtain ⟨hmid, hrej⟩ := h.data.of_mem (List.mem_map_of_mem hc) happ
    simp [MediaDescriptionOptions.line, MediaObject.line, happ, hmid, hrej]
  · next hty happ =>
    obtain ⟨t, hf⟩ := Option.ne_none_iff_exists'.mp (h.owner c hc happ)
    obtain ⟨ht, hmid⟩ := findByMid_eq_some hf
    obtain ⟨c', hc', hmid', htype, hstopped⟩ := h.owned t ht
    obtain rfl : c' = c :=
      List.inj_on_of_nodup_map h.nodup hc' hc (Option.some.inj (hmid'.symm.trans hmid))
    simp [hf, MediaDescriptionOptions.line, MediaObject.line, optionsForTransceiver,
      htype, hstopped]

/-- The peer connection after its answer. -/
def answeredBy (pc : PeerConnection) (a : List MediaObject) : PeerConnection :=
  { pc with
    currentLocal := some a
    pendingLocal := none
    currentRemote := pc.pendingRemote
    pendingRemote := none
    transceivers := (pc.transceivers.map (markIn a)).filter fun t ↦ !t.stopped
    dataMid := dataMidAfter a pc.dataMid }

/-- The answer is accepted. -/
theorem HasOffer.setLocalDescription_answer (h : pc.HasOffer d)
    (ha : a.map MediaObject.line = d.map MediaObject.line) :
    pc.setLocalDescription .answer a = (.ok (), pc.answeredBy a) := by
  have hkeys : a.map MediaObject.key = d.map MediaObject.key := by
    have := congrArg (List.map fun l : Line ↦ (l.mid, l.type)) ha
    rwa [List.map_map, List.map_map] at this
  have hmids : a.map MediaObject.mid = d.map MediaObject.mid := by
    have := congrArg (List.map Line.mid) ha
    rwa [List.map_map, List.map_map] at this
  have hlen : d.length = a.length := by simpa using (congrArg List.length ha).symm
  have hnodup : (a.map MediaObject.mid).Nodup := hmids ▸ h.nodup
  -- a section of the answer has the transceiver of the one that it answers
  have hanswers {c : MediaObject} (hc : c ∈ a) : ∃ c' ∈ d, c'.mid = c.mid ∧ c'.type = c.type := by
    obtain ⟨c', hc', hkey⟩ := List.mem_map.mp (hkeys ▸ List.mem_map_of_mem hc)
    exact ⟨c', hc', congrArg Prod.fst hkey, congrArg Prod.snd hkey⟩
  have hloop : a.zipIdx.foldl Associating.localStep pc.associating =
      ⟨pc.transceivers.map (markIn a), dataMidAfter a pc.dataMid, pc.nextRef, true⟩ := by
    refine localLoop_owned h.listed hnodup (fun c hc t ht hmid ↦ ?_)
      fun c hc happ ↦ ?_
    · obtain ⟨c', hc', hm, hty⟩ := hanswers hc
      obtain ⟨c'', hc'', hmid'', htype, -⟩ := h.owned t ht
      have hsame : c'' = c' := List.inj_on_of_nodup_map h.nodup hc'' hc'
        (Option.some.inj (hmid''.symm.trans (hmid.trans (congrArg some hm.symm))))
      exact htype.trans (hsame ▸ hty)
    · obtain ⟨c', hc', hm, hty⟩ := hanswers hc
      exact hm ▸ h.owner c' hc' (hty ▸ happ)
  have hvalid : validMids a = true := by
    have hv := h.valid
    simp only [validMids, Bool.and_eq_true, decide_eq_true_eq, List.all_eq_true] at hv ⊢
    refine ⟨hnodup, fun c hc ↦ ?_⟩
    obtain ⟨c', hc', hm, -⟩ := hanswers hc
    exact hm ▸ hv.2 c' hc'
  have hremote : pc.remoteDescription = some d := by simp [remoteDescription, h.pending]
  have hok : pc.validate .answer pc.pendingRemote.isSome pc.remoteDescription a = .ok () := by
    simp [validate, h.noError, h.pending, hremote, hvalid, hlen,
      (inSameOrder_answer_iff hlen).mpr hkeys]
  simp only [setLocalDescription, hok, hloop, Associating.store, removeStopped]
  rfl

/-- After the answer a section is open exactly if it has a transceiver. -/
theorem HasOffer.answerer (h : pc.HasOffer d)
    (ha : a.map MediaObject.line = d.map MediaObject.line) : (pc.answeredBy a).Answerer := by
  have hkeys : a.map MediaObject.key = d.map MediaObject.key := by
    have := congrArg (List.map fun l : Line ↦ (l.mid, l.type)) ha
    rwa [List.map_map, List.map_map] at this
  have htheirs : (pc.answeredBy a).theirs = d := by
    simp [theirs, remoteDescription, answeredBy, h.pending]
  have hmid : (pc.answeredBy a).dataMid = pc.dataMid := (ha ▸ h.data).dataMidAfter_eq (.inl rfl)
  have hall : Listed (pc.transceivers.map (markIn a)) pc.nextRef :=
    h.listed.of_identity (markIn_identity a pc.transceivers)
  have horigin {t : RtpTransceiver} (ht : t ∈ (pc.answeredBy a).transceivers) :
      t.stopped = false ∧ ∃ c ∈ d, t.mid = some c.mid ∧ t.mediaType = c.type ∧
        c.rejected = false := by
    obtain ⟨ht, hlive⟩ := List.mem_filter.mp ht
    obtain ⟨t₀, ht₀, rfl⟩ := List.mem_map.mp ht
    obtain ⟨-, hty, hmid, hst⟩ := RtpTransceiver.fields_of_unplaced_eq (markIn_unplaced a t₀)
    obtain ⟨c, hc, hm, ht, hs⟩ := h.owned t₀ ht₀
    have hlive : (markIn a t₀).stopped = false := by simpa using hlive
    exact ⟨hlive, c, hc, hmid.trans hm, hty.trans ht, hs.symm.trans (hst.symm.trans hlive)⟩
  refine ⟨hall.of_sublist List.filter_sublist, fun t ht ↦ (horigin ht).1, ?_, ?_, htheirs ▸ h.nodup,
    ?_, ?_, h.noError, rfl⟩
  · intro t ht
    obtain ⟨-, c, hc, hm, hty, -⟩ := horigin ht
    exact ⟨c, htheirs ▸ hc, hm, hty⟩
  · intro c hc happ
    rw [htheirs] at hc
    rw [findByMid_eq_none]
    constructor
    · intro hrej t ht hm
      obtain ⟨-, c', hc', hm', -, hopen⟩ := horigin ht
      obtain rfl : c' = c :=
        List.inj_on_of_nodup_map h.nodup hc' hc (Option.some.inj (hm'.symm.trans hm))
      rw [hopen] at hrej
      cases hrej
    · intro hnone
      obtain ⟨t, hf⟩ := Option.ne_none_iff_exists'.mp (h.owner c hc happ)
      obtain ⟨ht, hm⟩ := findByMid_eq_some hf
      obtain ⟨c', hc', hm', -, hst⟩ := h.owned t ht
      obtain rfl : c' = c :=
        List.inj_on_of_nodup_map h.nodup hc' hc (Option.some.inj (hm'.symm.trans hm))
      by_contra hopen
      have hst' := (RtpTransceiver.fields_of_unplaced_eq (markIn_unplaced a t)).2.2.2
      refine hnone (markIn a t) (List.mem_filter.mpr ⟨List.mem_map_of_mem ht, ?_⟩)
        ((markIn_mid a t).trans hm)
      rw [hst', hst]
      simpa using hopen
  · intro l hl
    obtain rfl : a = l := Option.some.inj hl
    rw [htheirs, hkeys]
  · rw [hmid, htheirs]
    exact h.data

/-- An offer that rejects nothing may stay without its answer, if it is the first one. -/
theorem HasOffer.answerer_pending (h : pc.HasOffer d) (hopen : ∀ c ∈ d, c.rejected = false)
    (hfirst : pc.currentLocal = none) : pc.Answerer := by
  have htheirs : pc.theirs = d := by simp [theirs, remoteDescription, h.pending]
  refine ⟨h.listed, fun t ht ↦ ?_, fun t ht ↦ ?_, fun c hc happ ↦ ?_, htheirs ▸ h.nodup,
    fun l hl ↦ ?_, htheirs ▸ h.data, h.noError, h.noLocalOffer⟩
  · obtain ⟨c, hc, -, -, hst⟩ := h.owned t ht
    exact hst.trans (hopen c hc)
  · obtain ⟨c, hc, hm, hty, -⟩ := h.owned t ht
    exact ⟨c, htheirs ▸ hc, hm, hty⟩
  · rw [htheirs] at hc
    simp [hopen c hc, h.owner c hc happ]
  · rw [hfirst] at hl
    cases hl

end Answer

end PeerConnection

end RtcClient.Sdp
