import RtcClient.Sdp.RemoteSdp
import RtcClient.Lib.Checked
import RtcClient.Lib.Run
import Mathlib.Data.List.Nodup

/-!
# What the remote description keeps

The three copies of the sections agree after every call that a handler makes: the document has
the sections as they are, the index is the inverse of their mids, the BUNDLE group names those
that are open, and all of them carry the latest ICE credentials and the latest DTLS role
(`deps/libmediasoupclient/src/sdp/RemoteSdp.cpp`). A section once added is replaced but never
removed, and the first one stays open.
-/

namespace RtcClient.Sdp

open RtcClient.Ortc RtcClient.Lib

section Sections

variable {showFloat : UInt64 → String} {t : TransportParameters}

/-- The m= line and the transport attributes of a section made from `t`. -/
structure MediaSection.MadeFor (t : TransportParameters) (mid : String) (type : MediaType)
    (m : MediaSection) : Prop where
  mid_eq : m.getMid = mid
  type_eq : m.mediaObject.type = type
  is_open : m.isClosed = false
  ufrag : m.mediaObject.iceUfrag = some t.iceParameters.usernameFragment
  pwd : m.mediaObject.icePwd = some t.iceParameters.password
  setup : m.mediaObject.setup =
    if m.answers then MediaSection.setupOfRole t.dtlsParameters.role none else some "actpass"

/-- The lines of a codec leave the rest of the section alone. -/
theorem answerCodec_madeFor {options : Option ProducerCodecOptions} {mid : String}
    {type : MediaType} {s s' : MediaObject × List RtpCodecParameters}
    {codec : RtpCodecParameters} (h : answerCodec showFloat options s codec = .ok s')
    (hs : MediaSection.MadeFor t mid type ⟨true, s.1⟩) :
    MediaSection.MadeFor t mid type ⟨true, s'.1⟩ := by
  obtain ⟨hm, ht, ho, hu, hp, hset⟩ := hs
  unfold answerCodec at h
  split at h
  · cases h
    exact ⟨hm, ht, ho, hu, hp, hset⟩
  · split at h
    · cases h
    · split at h
      · cases h
      · cases h
        exact ⟨hm, ht, ho, hu, hp, hset⟩

private theorem AnswerMediaSection.new_madeFor {offer : MediaObject}
    {offerRtp answerRtp : RtpParameters}
    {options : Option ProducerCodecOptions} {r : MediaSection × RtpParameters}
    (h : AnswerMediaSection.new showFloat t offer offerRtp answerRtp options = .ok r) :
    r.1.answers = true ∧ r.1.MadeFor t offer.mid offer.type := by
  unfold AnswerMediaSection.new at h
  split at h
  · next hty =>
    split at h
    · cases h
    · cases h
      exact ⟨rfl, rfl, rfl, rfl, rfl, rfl, rfl⟩
  · simp only [bind_eq_ok, pure_eq_ok] at h
    obtain ⟨⟨m, codecs⟩, hm, payloads, -, ext, -, rids, -, rfl⟩ := h
    have made : MediaSection.MadeFor t offer.mid offer.type ⟨true, m⟩ :=
      foldlM_keeps (P := fun s ↦ MediaSection.MadeFor t offer.mid offer.type ⟨true, s.1⟩)
        (fun _ _ _ _ h hs ↦ answerCodec_madeFor h hs) hm ⟨rfl, rfl, rfl, rfl, rfl, rfl⟩
    obtain ⟨hm, ht, ho, hu, hp, hset⟩ := made
    exact ⟨rfl, hm, ht, ho, hu, hp, hset⟩

private theorem addCodecs_madeFor (showFloat : UInt64 → String) {mid : String}
    {type : MediaType} (codecs : List RtpCodecParameters) {m : MediaObject}
    (hm : MediaSection.MadeFor t mid type ⟨false, m⟩) :
    MediaSection.MadeFor t mid type
      ⟨false, codecs.foldl (fun m codec ↦ m.addCodec showFloat codec codec.parameters) m⟩ := by
  induction codecs generalizing m with
  | nil => exact hm
  | cons codec codecs ih =>
    obtain ⟨hm, ht, ho, hu, hp, hset⟩ := hm
    exact ih ⟨hm, ht, ho, hu, hp, hset⟩

private theorem addStream_madeFor {mid : String} {type : MediaType} {m : MediaObject}
    (ssrc rtxSsrc : Nat) (cname : Option String) (streamId trackId : String)
    (hm : MediaSection.MadeFor t mid type ⟨false, m⟩) :
    MediaSection.MadeFor t mid type ⟨false, m.addStream ssrc rtxSsrc cname streamId trackId⟩ := by
  obtain ⟨hm, ht, ho, hu, hp, hset⟩ := hm
  unfold MediaObject.addStream
  split
  · exact ⟨hm, ht, ho, hu, hp, hset⟩
  · split <;> exact ⟨hm, ht, ho, hu, hp, hset⟩

/-- What an offered section is made of. -/
theorem OfferMediaSection.new_madeFor {sctp : Option SctpParameters} {mid : String}
    {kind : MediaType} {offerRtp : RtpParameters} {streamId trackId : String} {m : MediaSection}
    (h : OfferMediaSection.new showFloat t sctp mid kind offerRtp streamId trackId = .ok m) :
    m.answers = false ∧ m.MadeFor t mid kind := by
  unfold OfferMediaSection.new at h
  split at h
  · split at h
    · cases h
    · cases h
      exact ⟨rfl, rfl, rfl, rfl, rfl, rfl, rfl⟩
  · rw [bind_eq_ok] at h
    obtain ⟨payloads, -, h⟩ := h
    split at h
    · cases h
    · split at h
      · cases h
      · cases h
        have made := addCodecs_madeFor showFloat offerRtp.codecs
          (m := { MediaObject.new t mid kind (offerProtocol sctp) with
            setup := some "actpass", direction := some .sendonly })
          (⟨rfl, rfl, rfl, rfl, rfl, rfl⟩ : MediaSection.MadeFor t mid kind _)
        obtain ⟨hm, ht, ho, hu, hp, hset⟩ := made
        exact ⟨rfl, addStream_madeFor _ _ _ _ _ ⟨hm, ht, ho, hu, hp, hset⟩⟩

end Sections

namespace RemoteSdp

/-- The roles that have an `a=setup` of their own. -/
def dtlsRoles : List String := ["client", "server", "auto"]

/-- The three copies of the sections agree, and every section is up to date. -/
structure WF (r : RemoteSdp) : Prop where
  mirror : r.sdpObject.media = r.mediaSections.map MediaSection.mediaObject
  bundle : r.sdpObject.bundleMids = bundleText r.mediaSections
  nodup : r.mids.Nodup
  nonempty : ∀ mid ∈ r.mids, mid ≠ ""
  index : ∀ (mid : String) (i : Nat), r.midToIndex[mid]? = some i ↔ r.mids[i]? = some mid
  first : r.firstMid = r.mids.headD ""
  first_open : ∀ m, r.mediaSections[0]? = some m → m.isClosed = false
  role : r.transport.dtlsParameters.role ∈ dtlsRoles
  made : ∀ m ∈ r.mediaSections,
    m.mediaObject.iceUfrag = some r.transport.iceParameters.usernameFragment ∧
    m.mediaObject.icePwd = some r.transport.iceParameters.password ∧
    m.mediaObject.setup = if m.answers then
      MediaSection.setupOfRole r.transport.dtlsParameters.role none else some "actpass"

variable {r r' : RemoteSdp}

/-- A new description has no sections. -/
theorem WF.new {t : TransportParameters} (h : t.dtlsParameters.role ∈ dtlsRoles) :
    (RemoteSdp.new t).WF where
  mirror := rfl
  bundle := rfl
  nodup := List.nodup_nil
  nonempty := by simp [RemoteSdp.new, mids]
  index := by simp [RemoteSdp.new, mids]
  first := rfl
  first_open := by simp [RemoteSdp.new]
  role := h
  made := by simp [RemoteSdp.new]

/-- The position that the index has for a mid. -/
theorem WF.lookup (h : r.WF) {mid : String} (hm : mid ∈ r.mids) :
    ∃ i m, r.midToIndex[mid]? = some i ∧ r.mediaSections[i]? = some m ∧ m.getMid = mid := by
  obtain ⟨i, hi⟩ := List.mem_iff_getElem?.mp hm
  have hidx := (h.index mid i).mpr hi
  rw [mids, List.getElem?_map, Option.map_eq_some_iff] at hi
  obtain ⟨m, hs, hmid⟩ := hi
  exact ⟨i, m, hidx, hs, hmid⟩

-- Sections that keep their mids, and what depends on the mids only.
private theorem WF.of_update (h : r.WF) (hmids : r'.mids = r.mids)
    (hindex : ∀ mid : String, r'.midToIndex[mid]? = r.midToIndex[mid]?)
    (hfirst : r'.firstMid = r.firstMid)
    (mirror : r'.sdpObject.media = r'.mediaSections.map MediaSection.mediaObject)
    (bundle : r'.sdpObject.bundleMids = bundleText r'.mediaSections)
    (first_open : ∀ m, r'.mediaSections[0]? = some m → m.isClosed = false)
    (role : r'.transport.dtlsParameters.role ∈ dtlsRoles)
    (made : ∀ m ∈ r'.mediaSections,
      m.mediaObject.iceUfrag = some r'.transport.iceParameters.usernameFragment ∧
      m.mediaObject.icePwd = some r'.transport.iceParameters.password ∧
      m.mediaObject.setup = if m.answers then
        MediaSection.setupOfRole r'.transport.dtlsParameters.role none else some "actpass") :
    r'.WF where
  mirror := mirror
  bundle := bundle
  nodup := hmids ▸ h.nodup
  nonempty := hmids ▸ h.nonempty
  index := by simpa only [hmids, hindex] using h.index
  first := by simpa only [hmids, hfirst] using h.first
  first_open := first_open
  role := role
  made := made

/-- The text of the group depends on the mids and on which sections are closed. -/
theorem bundleText_map (f : MediaSection → MediaSection) {l : List MediaSection}
    (hmid : ∀ m ∈ l, (f m).getMid = m.getMid) (hclosed : ∀ m ∈ l, (f m).isClosed = m.isClosed) :
    bundleText (l.map f) = bundleText l := by
  unfold bundleText
  rw [List.foldl_map]
  generalize "" = acc
  induction l generalizing acc with
  | nil => rfl
  | cons m l ih =>
    rw [List.foldl_cons, List.foldl_cons, hmid m (by simp), hclosed m (by simp)]
    exact ih (fun m hm ↦ hmid m (by simp [hm])) (fun m hm ↦ hclosed m (by simp [hm])) _

private theorem overwriteMedia_eq {media : List MediaObject} {sections : List MediaSection}
    (h : media.length = sections.length) :
    overwriteMedia media sections = sections.map MediaSection.mediaObject := by
  rw [overwriteMedia, ← h, List.drop_length, List.append_nil]

private theorem WF.length_media (h : r.WF) : r.sdpObject.media.length = r.mediaSections.length := by
  rw [h.mirror, List.length_map]

/-- All sections get the new credentials. -/
theorem WF.updateIceParameters (h : r.WF) (ice : IceParameters) :
    (r.updateIceParameters ice).WF := by
  have bundle := bundleText_map (l := r.mediaSections) (·.setIceParameters ice)
    (fun _ _ ↦ rfl) (fun _ _ ↦ rfl)
  refine h.of_update ?_ (fun _ ↦ rfl) rfl ?_ ?_ ?_ h.role ?_
  · simp only [mids, RemoteSdp.updateIceParameters, List.map_map]
    rfl
  · exact overwriteMedia_eq (by simp [h.length_media])
  · exact h.bundle.trans bundle.symm
  · intro m hm
    simp only [RemoteSdp.updateIceParameters, List.getElem?_map, Option.map_eq_some_iff] at hm
    obtain ⟨m, hm, rfl⟩ := hm
    exact h.first_open m hm
  · intro m hm
    simp only [RemoteSdp.updateIceParameters, List.mem_map] at hm
    obtain ⟨m, hm, rfl⟩ := hm
    exact ⟨rfl, rfl, (h.made m hm).2.2⟩

/-- A known role decides the attribute, whatever it was. -/
theorem setupOfRole_of_mem {role : String} (h : role ∈ dtlsRoles) (old : Option String) :
    MediaSection.setupOfRole role old = MediaSection.setupOfRole role none := by
  simp only [dtlsRoles, List.mem_cons, List.not_mem_nil, or_false] at h
  rcases h with rfl | rfl | rfl <;> rfl

/-- All sections that answer get the new role. -/
theorem WF.updateDtlsRole (h : r.WF) {role : String} (hr : role ∈ dtlsRoles) :
    (r.updateDtlsRole role).WF := by
  have bundle := bundleText_map (l := r.mediaSections) (·.setDtlsRole role)
    (fun _ _ ↦ rfl) (fun _ _ ↦ rfl)
  refine h.of_update ?_ (fun _ ↦ rfl) rfl ?_ ?_ ?_ hr ?_
  · simp only [mids, RemoteSdp.updateDtlsRole, List.map_map]
    rfl
  · exact overwriteMedia_eq (by simp [h.length_media])
  · exact h.bundle.trans bundle.symm
  · intro m hm
    simp only [RemoteSdp.updateDtlsRole, List.getElem?_map, Option.map_eq_some_iff] at hm
    obtain ⟨m, hm, rfl⟩ := hm
    exact h.first_open m hm
  · intro m hm
    simp only [RemoteSdp.updateDtlsRole, List.mem_map] at hm
    obtain ⟨m, hm, rfl⟩ := hm
    refine ⟨(h.made m hm).1, (h.made m hm).2.1, ?_⟩
    simp only [MediaSection.setDtlsRole, setupOfRole_of_mem hr m.mediaObject.setup]
    rfl

/-- Writing the description raises its version only. -/
theorem WF.getSdp (h : r.WF) : r.getSdp.2.WF :=
  h.of_update rfl (fun _ ↦ rfl) rfl h.mirror h.bundle h.first_open h.role h.made

/-- What closing a mid does to one section: the first one is only disabled. -/
def closeIn (first mid : String) (m : MediaSection) : MediaSection :=
  if m.getMid = mid then (if mid = first then m.disable else m.close) else m

/-- A section keeps its mid when it is closed. -/
@[simp] theorem closeIn_getMid (first mid : String) (m : MediaSection) :
    (closeIn first mid m).getMid = m.getMid := by
  unfold closeIn
  split
  · split <;> rfl
  · rfl

/-- The first section is never closed. -/
theorem closeIn_isClosed (first mid : String) (m : MediaSection) :
    (closeIn first mid m).isClosed =
      (m.isClosed || (decide (m.getMid = mid) && decide (mid ≠ first))) := by
  unfold closeIn
  split
  · next hm =>
    split
    · next hf => simp [hm, hf, MediaSection.disable, MediaSection.isClosed]
    · next hf => simp [hm, hf, MediaSection.close, MediaSection.isClosed]
  · next hm => simp [hm]

/-- Mids are distinct, so that the section of a mid is changed by changing its position. -/
theorem WF.set_eq_map (h : r.WF) {i : Nat} {m : MediaSection} (hs : r.mediaSections[i]? = some m)
    (f : MediaSection → MediaSection) :
    r.mediaSections.set i (f m) =
      r.mediaSections.map fun x ↦ if x.getMid = m.getMid then f x else x := by
  apply List.ext_getElem?
  intro j
  rw [List.getElem?_set, List.getElem?_map]
  by_cases hij : i = j
  · subst hij
    obtain ⟨hi, rfl⟩ := List.getElem?_eq_some_iff.mp hs
    simp [hi]
  · rw [if_neg hij]
    cases hj : r.mediaSections[j]? with
    | none => rfl
    | some x =>
      have hne : x.getMid ≠ m.getMid := by
        intro he
        have hi' : r.mids[i]? = some m.getMid := by simp [mids, hs]
        have hj' : r.mids[j]? = some m.getMid := by simp [mids, hj, he]
        have hlt := (List.getElem?_eq_some_iff.mp hi').1
        exact hij ((List.getElem?_inj hlt h.nodup).mp (hi'.trans hj'.symm))
      simp [hne]

/-- Closing a known section keeps all mids and everything that is made from them. -/
theorem WF.closeMediaSection (h : r.WF) {mid : String} (hm : mid ∈ r.mids) :
    ∃ r', r.closeMediaSection mid = .ok r' ∧ r'.WF ∧ r'.transport = r.transport ∧
      r'.firstMid = r.firstMid ∧
      r'.mediaSections = r.mediaSections.map (closeIn r.firstMid mid) := by
  obtain ⟨i, m, hidx, hs, rfl⟩ := h.lookup hm
  have hset : r.mediaSections.set i (if m.getMid = r.firstMid then m.disable else m.close) =
      r.mediaSections.map (closeIn r.firstMid m.getMid) :=
    h.set_eq_map hs fun x ↦ if m.getMid = r.firstMid then x.disable else x.close
  have heq : r.closeMediaSection m.getMid = .ok (r.writeSection i
      (if m.getMid = r.firstMid then m.disable else m.close)
      (r.midToIndex.insert m.getMid i)) := by
    simp only [RemoteSdp.closeMediaSection, hidx, Option.getD_some, hs]
  refine ⟨_, heq, h.of_update ?_ ?_ rfl ?_ rfl ?_ h.role ?_, rfl, rfl, hset⟩
  · simp only [writeSection, regenerateBundleMids, mids, hset, List.map_map]
    exact List.map_congr_left fun x _ ↦ closeIn_getMid _ _ x
  · intro mid
    simp only [writeSection, regenerateBundleMids, Std.ExtTreeMap.getElem?_insert]
    split
    · next he =>
      rw [Std.LawfulEqCmp.eq_of_compare he] at hidx
      exact hidx.symm
    · rfl
  · simp only [writeSection, regenerateBundleMids, h.mirror, ← List.map_set]
  · intro m₀ hm₀
    simp only [writeSection, regenerateBundleMids, hset, List.getElem?_map,
      Option.map_eq_some_iff] at hm₀
    obtain ⟨m₁, hm₁, rfl⟩ := hm₀
    have hfirst : r.firstMid = m₁.getMid := by
      rw [h.first, List.headD_eq_head?_getD, List.head?_eq_getElem?, mids, List.getElem?_map, hm₁]
      rfl
    rw [closeIn_isClosed, h.first_open m₁ hm₁, hfirst]
    simp [eq_comm]
  · intro m₀ hm₀
    simp only [writeSection, regenerateBundleMids, hset, List.mem_map] at hm₀
    obtain ⟨m₁, hm₁, rfl⟩ := hm₀
    have made := h.made m₁ hm₁
    unfold closeIn
    split
    · split <;> exact made
    · exact made

/-- A list with an index into it has no element twice. -/
theorem nodup_of_index {l : List String} {index : Std.ExtTreeMap String Nat}
    (h : ∀ (k : String) (i : Nat), index[k]? = some i ↔ l[i]? = some k) : l.Nodup := by
  rw [List.nodup_iff_getElem?_ne_getElem?]
  intro i j hij hj he
  have hk := List.getElem?_eq_getElem hj
  have hi := (h _ i).mpr (he.trans hk)
  have hj' := (h _ j).mpr hk
  rw [hi] at hj'
  exact hij.ne (Option.some.inj hj')

private theorem index_insert (index : Std.ExtTreeMap String Nat) (k k' : String) (i : Nat) :
    (index.insert k i)[k']? = if k' = k then some i else index[k']? := by
  rw [Std.ExtTreeMap.getElem?_insert]
  by_cases h : k = k'
  · simp [h]
  · simp [h, Ne.symm h]

private theorem index_erase (index : Std.ExtTreeMap String Nat) (k k' : String) :
    (index.erase k)[k']? = if k' = k then none else index[k']? := by
  rw [Std.ExtTreeMap.getElem?_erase]
  by_cases h : k = k'
  · simp [h]
  · simp [h, Ne.symm h]

-- A new section at a position, over an old one or at the end.
private theorem WF.of_put (h : r.WF) (idx : Nat) {m : MediaSection} {mid : String}
    {type : MediaType} (hm : m.MadeFor r.transport mid type) (fresh : mid ∉ r.mids) (hne : mid ≠ "")
    (sections : ∀ i, r'.mediaSections[i]? = if i = idx then some m else r.mediaSections[i]?)
    (index : ∀ k : String, r'.midToIndex[k]? =
      if k = mid then some idx else if r.mids[idx]? = some k then none else r.midToIndex[k]?)
    (transport : r'.transport = r.transport)
    (first : r'.firstMid = if idx = 0 then mid else r.firstMid)
    (mirror : r'.sdpObject.media = r'.mediaSections.map MediaSection.mediaObject)
    (bundle : r'.sdpObject.bundleMids = bundleText r'.mediaSections) : r'.WF := by
  have hmids (i : Nat) : r'.mids[i]? = if i = idx then some mid else r.mids[i]? := by
    rw [mids, List.getElem?_map, sections]
    split
    · rw [Option.map_some, hm.mid_eq]
    · rw [mids, List.getElem?_map]
  have hindex (k : String) (i : Nat) : r'.midToIndex[k]? = some i ↔ r'.mids[i]? = some k := by
    rw [index, hmids]
    by_cases hk : k = mid
    · subst hk
      by_cases hi : i = idx
      · simp [hi]
      · have hni : ¬r.mids[i]? = some k := fun hc ↦ fresh (List.mem_of_getElem? hc)
        simp [hi, hni, Ne.symm hi]
    · rw [if_neg hk]
      by_cases hi : i = idx
      · subst hi
        simp only [if_true, Option.some.injEq, Ne.symm hk, iff_false]
        split
        · simp
        · next ho => exact fun hc ↦ ho ((h.index k i).mp hc)
      · rw [if_neg hi]
        split
        · next ho =>
          refine ⟨by simp, fun hc ↦ absurd ?_ hi⟩
          exact (List.getElem?_inj (List.getElem?_eq_some_iff.mp hc).1 h.nodup).mp
            (hc.trans ho.symm)
        · exact h.index k i
  have mem (m' : MediaSection) (hm' : m' ∈ r'.mediaSections) : m' = m ∨ m' ∈ r.mediaSections := by
    obtain ⟨i, hi⟩ := List.mem_iff_getElem?.mp hm'
    rw [sections] at hi
    split at hi
    · exact .inl (Option.some.inj hi).symm
    · exact .inr (List.mem_of_getElem? hi)
  refine ⟨mirror, bundle, nodup_of_index hindex, ?_, hindex, ?_, ?_, transport ▸ h.role, ?_⟩
  · intro k hk
    obtain ⟨m', hm', rfl⟩ := List.mem_map.mp hk
    rcases mem m' hm' with rfl | hm'
    · exact hm.mid_eq ▸ hne
    · exact h.nonempty _ (List.mem_map_of_mem hm')
  · rw [first, List.headD_eq_head?_getD, List.head?_eq_getElem?, hmids]
    by_cases hi : idx = 0
    · simp [hi]
    · rw [if_neg hi, if_neg (Ne.symm hi), h.first, List.headD_eq_head?_getD, List.head?_eq_getElem?]
  · intro m' hm'
    rw [sections] at hm'
    split at hm'
    · exact Option.some.inj hm' ▸ hm.is_open
    · exact h.first_open m' hm'
  · intro m' hm'
    rw [transport]
    rcases mem m' hm' with rfl | hm'
    · exact ⟨hm.ufrag, hm.pwd, hm.setup⟩
    · exact h.made m' hm'

private theorem WF.firstMid_isEmpty (h : r.WF) : r.firstMid.isEmpty = r.mediaSections.isEmpty := by
  rw [h.first]
  cases hs : r.mediaSections with
  | nil => simp [mids, hs]
  | cons m l =>
    have hne := h.nonempty m.getMid (by simp [mids, hs])
    simp [mids, hs, hne]

/-- A section at the end. -/
theorem WF.addMediaSection (h : r.WF) {m : MediaSection} {mid : String} {type : MediaType}
    (hm : m.MadeFor r.transport mid type) (fresh : mid ∉ r.mids) (hne : mid ≠ "") :
    (r.addMediaSection m).WF := by
  refine h.of_put r.mediaSections.length hm fresh hne ?_ ?_ rfl ?_ ?_ rfl
  · intro i
    simp only [RemoteSdp.addMediaSection, regenerateBundleMids]
    by_cases hi : i = r.mediaSections.length
    · simp [hi]
    · rw [if_neg hi, List.getElem?_append]
      split
      · rfl
      · rw [List.getElem?_eq_none (by simp; omega), List.getElem?_eq_none (by omega)]
  · intro k
    have hnone : r.mids[r.mediaSections.length]? = none := by simp [mids]
    simp [RemoteSdp.addMediaSection, regenerateBundleMids, index_insert, hm.mid_eq, hnone]
  · simp only [RemoteSdp.addMediaSection, regenerateBundleMids, h.firstMid_isEmpty, hm.mid_eq,
      List.isEmpty_iff, List.length_eq_zero_iff]
  · simp [RemoteSdp.addMediaSection, regenerateBundleMids, h.mirror]

/-- A section in the place of the first closed one. -/
theorem WF.replaceMediaSection (h : r.WF) {m old : MediaSection} {mid : String}
    {type : MediaType} (hm : m.MadeFor r.transport mid type) (fresh : mid ∉ r.mids)
    (hne : mid ≠ "") (hold : r.mediaSections.find? MediaSection.isClosed = some old) :
    ∃ r', r.replaceMediaSection m old.getMid = .ok r' ∧ r'.WF ∧ r'.transport = r.transport ∧
      r'.mediaSections = place MediaSection.isClosed m r.mediaSections := by
  have hlt : r.mediaSections.findIdx MediaSection.isClosed < r.mediaSections.length :=
    List.findIdx_lt_length.mpr ⟨old, List.mem_of_find?_eq_some hold, List.find?_some hold⟩
  have hs : r.mediaSections[r.mediaSections.findIdx MediaSection.isClosed]? = some old := by
    rw [← hold, List.find?_eq_getElem?_findIdx]
  have hmids : r.mids[r.mediaSections.findIdx MediaSection.isClosed]? = some old.getMid := by
    simp [mids, hs]
  have hidx := (h.index _ _).mpr hmids
  have holdne : old.getMid ≠ "" := h.nonempty _ (List.mem_of_getElem? hmids)
  have hset := place_eq_set MediaSection.isClosed m r.mediaSections hlt
  generalize r.mediaSections.findIdx MediaSection.isClosed = idx at hlt hs hmids hidx hset
  have heq : r.replaceMediaSection m old.getMid = .ok (r.writeSection idx m
      (((r.midToIndex.insert old.getMid idx).erase old.getMid).insert m.getMid idx)) := by
    simp only [RemoteSdp.replaceMediaSection, String.isEmpty_iff, holdne, if_false, hidx,
      Option.getD_some, hs]
  refine ⟨_, heq, h.of_put idx hm fresh hne ?_ ?_ rfl ?_ ?_ rfl, rfl, hset.symm⟩
  · intro i
    simp only [writeSection, regenerateBundleMids, List.getElem?_set]
    by_cases hi : i = idx
    · simp [hi, hlt]
    · simp [hi, Ne.symm hi]
  · intro k
    simp only [writeSection, regenerateBundleMids, index_insert, index_erase, hm.mid_eq, hmids,
      Option.some.injEq]
    by_cases hk : k = old.getMid
    · simp [hk]
    · simp [hk, Ne.symm hk]
  · have hpos : idx ≠ 0 := by
      rintro rfl
      have := h.first_open old hs
      rw [List.find?_some hold] at this
      cases this
    rw [if_neg hpos]
    rfl
  · simp only [writeSection, regenerateBundleMids, h.mirror, List.map_set]

section Calls

variable {showFloat : UInt64 → String} {offer : MediaObject}

/-- What `Send` puts into the description. -/
theorem send_eq_ok {reuseMid : String} {offerRtp answerRtp rtp : RtpParameters}
    {options : Option ProducerCodecOptions}
    (h : r.send showFloat offer reuseMid offerRtp answerRtp options = .ok (r', rtp)) :
    ∃ m : MediaSection, m.MadeFor r.transport offer.mid offer.type ∧
      (if reuseMid.isEmpty then .ok (r.addMediaSection m) else r.replaceMediaSection m reuseMid) =
        .ok r' := by
  obtain ⟨⟨m, offerRtp'⟩, hm, h⟩ := bind_eq_ok.mp h
  refine ⟨m, (AnswerMediaSection.new_madeFor hm).2, ?_⟩
  by_cases hempty : reuseMid.isEmpty = true
  · rw [if_pos hempty]
    simp only [if_pos hempty, pure_eq_ok, Prod.mk.injEq] at h
    rw [h.1]
  · rw [if_neg hempty]
    simp only [if_neg hempty, bind_eq_ok, pure_eq_ok, Prod.mk.injEq] at h
    obtain ⟨r'', hr'', h, -⟩ := h
    rw [hr'', h]

/-- What `SendSctpAssociation` puts into the description. -/
theorem sendSctpAssociation_eq_ok (h : r.sendSctpAssociation showFloat offer = .ok r') :
    ∃ m : MediaSection, m.MadeFor r.transport offer.mid offer.type ∧ r' = r.addMediaSection m := by
  obtain ⟨⟨m, rtp⟩, hm, h⟩ := bind_eq_ok.mp h
  exact ⟨m, (AnswerMediaSection.new_madeFor hm).2, (pure_eq_ok.mp h).symm⟩

/-- What `RecvSctpAssociation` puts into the description. -/
theorem recvSctpAssociation_eq_ok (h : r.recvSctpAssociation showFloat = .ok r') :
    ∃ m : MediaSection, m.MadeFor r.transport "datachannel" .application ∧
      r' = r.addMediaSection m := by
  obtain ⟨m, hm, h⟩ := bind_eq_ok.mp h
  exact ⟨m, (OfferMediaSection.new_madeFor hm).2, (pure_eq_ok.mp h).symm⟩

/-- What `Receive` puts into the description, provided that no section has the empty mid. -/
theorem receive_eq_ok {mid streamId trackId : String} {kind : MediaType} {offerRtp : RtpParameters}
    (h : r.receive showFloat mid kind offerRtp streamId trackId = .ok r')
    (hne : ∀ mid ∈ r.mids, mid ≠ "") :
    ∃ m : MediaSection, m.MadeFor r.transport mid kind ∧
      (if r.getNextMediaSectionIdx.2.isEmpty then .ok (r.addMediaSection m)
        else r.replaceMediaSection m r.getNextMediaSectionIdx.2) = .ok r' := by
  obtain ⟨m, hm, h⟩ := bind_eq_ok.mp h
  refine ⟨m, (OfferMediaSection.new_madeFor hm).2, ?_⟩
  unfold getNextMediaSectionIdx
  cases hf : r.mediaSections.find? MediaSection.isClosed with
  | none =>
    simp only [hf] at h
    exact h
  | some closed =>
    have hmid : closed.getMid ≠ "" :=
      hne _ (List.mem_map_of_mem (List.mem_of_find?_eq_some hf))
    simp only [hf] at h
    rw [if_neg (by simpa using hmid)]
    exact h

end Calls

section Document

/-- The mids of the document. -/
def docMids (r : RemoteSdp) : List String := r.sdpObject.media.map MediaObject.mid

/-- The document has the sections as they are. -/
def Mirrors (r : RemoteSdp) : Prop :=
  r.sdpObject.media = r.mediaSections.map MediaSection.mediaObject

/-- The mids of the document are those of the sections. -/
theorem Mirrors.docMids_eq (h : r.Mirrors) : r.docMids = r.mids := by
  rw [docMids, h, List.map_map]
  rfl

private theorem Mirrors.overwrite (h : r.Mirrors) {f : MediaSection → MediaSection}
    (hr : r'.mediaSections = r.mediaSections.map f)
    (hm : r'.sdpObject.media = overwriteMedia r.sdpObject.media (r.mediaSections.map f))
    (hf : ∀ m, (f m).getMid = m.getMid) : r'.Mirrors ∧ r'.docMids = r.docMids := by
  have hw : r'.Mirrors := by
    rw [Mirrors, hr, hm]
    refine overwriteMedia_eq ?_
    rw [h, List.length_map, List.length_map]
  refine ⟨hw, ?_⟩
  rw [hw.docMids_eq, h.docMids_eq, mids, mids, hr, List.map_map]
  exact List.map_congr_left fun m _ ↦ hf m

/-- A new role keeps the mids. -/
theorem Mirrors.updateDtlsRole (h : r.Mirrors) (role : String) :
    (r.updateDtlsRole role).Mirrors ∧ (r.updateDtlsRole role).docMids = r.docMids :=
  h.overwrite rfl rfl fun _ ↦ rfl

/-- New credentials keep the mids. -/
theorem Mirrors.updateIceParameters (h : r.Mirrors) (ice : IceParameters) :
    (r.updateIceParameters ice).Mirrors ∧ (r.updateIceParameters ice).docMids = r.docMids :=
  h.overwrite rfl rfl fun _ ↦ rfl

private theorem Mirrors.writeSection (h : r.Mirrors) (idx : Nat) (m : MediaSection)
    (index : Std.ExtTreeMap String Nat) :
    (r.writeSection idx m index).Mirrors ∧
      (r.writeSection idx m index).docMids = r.docMids.set idx m.getMid := by
  have hw : (r.writeSection idx m index).Mirrors := by
    change r.sdpObject.media.set idx m.mediaObject = (r.mediaSections.set idx m).map _
    rw [h, List.map_set]
  refine ⟨hw, ?_⟩
  change (r.sdpObject.media.set idx m.mediaObject).map MediaObject.mid = _
  rw [List.map_set]
  rfl

/-- A new section comes last. -/
theorem Mirrors.addMediaSection (h : r.Mirrors) (m : MediaSection) :
    (r.addMediaSection m).Mirrors ∧ (r.addMediaSection m).docMids = r.docMids ++ [m.getMid] := by
  constructor
  · change r.sdpObject.media ++ [m.mediaObject] = (r.mediaSections ++ [m]).map _
    rw [h, List.map_append]
    rfl
  · change (r.sdpObject.media ++ [m.mediaObject]).map MediaObject.mid = _
    rw [List.map_append]
    rfl

/-- Whatever section is closed, even that of a mid that is not known, the mids stay. -/
theorem Mirrors.closeMediaSection (h : r.Mirrors) {mid : String}
    (hclose : r.closeMediaSection mid = .ok r') : r'.Mirrors ∧ r'.docMids = r.docMids := by
  cases hm : r.mediaSections[r.midToIndex[mid]?.getD 0]? with
  | none =>
    simp only [RemoteSdp.closeMediaSection, hm] at hclose
    cases hclose
  | some m =>
    simp only [RemoteSdp.closeMediaSection, hm] at hclose
    obtain rfl := Except.ok.inj hclose
    obtain ⟨hw, hmids⟩ := h.writeSection (r.midToIndex[mid]?.getD 0)
      (if mid = r.firstMid then m.disable else m.close)
      (r.midToIndex.insert mid (r.midToIndex[mid]?.getD 0))
    refine ⟨hw, hmids.trans ?_⟩
    have hsame : (if mid = r.firstMid then m.disable else m.close).getMid = m.getMid := by
      split <;> rfl
    have hget : r.docMids[r.midToIndex[mid]?.getD 0]? = some m.getMid := by
      rw [h.docMids_eq, mids, List.getElem?_map, hm]
      rfl
    rw [hsame]
    obtain ⟨hlt, heq⟩ := List.getElem?_eq_some_iff.mp hget
    rw [← heq, List.set_getElem_self]

/-- A new section adds its mid, and may take another one away. -/
theorem Mirrors.put (h : r.Mirrors) {m : MediaSection} {reuseMid : String}
    (hput : (if reuseMid.isEmpty then .ok (r.addMediaSection m)
      else r.replaceMediaSection m reuseMid) = .ok r') :
    r'.Mirrors ∧ ∀ mid ∈ r'.docMids, mid ∈ r.docMids ∨ mid = m.getMid := by
  by_cases hempty : reuseMid.isEmpty = true
  · rw [if_pos hempty] at hput
    obtain rfl := Except.ok.inj hput
    obtain ⟨hw, hmids⟩ := h.addMediaSection m
    refine ⟨hw, fun mid hmid ↦ ?_⟩
    rw [hmids] at hmid
    simpa using hmid
  · rw [if_neg hempty] at hput
    unfold RemoteSdp.replaceMediaSection at hput
    simp only [if_neg hempty] at hput
    split at hput
    · cases hput
    · obtain rfl := Except.ok.inj hput
      obtain ⟨hw, hmids⟩ := h.writeSection _ m _
      refine ⟨hw, fun mid hmid ↦ ?_⟩
      rw [hmids] at hmid
      exact List.mem_or_eq_of_mem_set hmid

end Document

end RemoteSdp

end RtcClient.Sdp
